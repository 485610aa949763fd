import FrixelConnect.Specs.Credentials
import FrixelConnect.Specs.Outcome

/-!
# The credentials that a call writes

A call draws a code, and draws again when a voucher of the tenant has it. The
second code is not looked up before its credentials are rewritten, so a second
collision replaces the credentials of a voucher that was sold before. In every
other case a call leaves the credentials of all other vouchers alone.
-/

namespace FrixelConnect

namespace VoucherCredentials

open Interleaving Alone

/-- The credentials of every voucher are as they were. -/
def Kept (d d' : Store) : Prop :=
  ∀ w ∈ d.vouchers, ∀ t, d'.credentials t w.code w.tenant_id = d.credentials t w.code w.tenant_id

/-- A call that will draw these codes, at its start. -/
def call (d : Store) (payment_id tenant_id : UUID) (codes : List String) :
    Config Stmt Stmt.Res Frame Exn Store Env (List String) String :=
  { journal := codes, store := d, proc := { prog := generate_voucher payment_id tenant_id } }

/-- Whatever fails, and wherever the call stops: it keeps the credentials of the vouchers that were
there before, and it does not return the code of one of them. -/
def OwnCredentials (d : Store) (payment_id tenant_id : UUID) (codes : List String) : Prop :=
  ∀ y, Solo.Reaches machine drawing (call d payment_id tenant_id codes) y → Kept d y.store ∧
    ∀ code, y.proc.prog = .ret (.ok code) → ∀ w ∈ d.vouchers, w.code ≠ code

variable {d : Store} {payment_id tenant_id : UUID} {first second : String} {l : RunLocal}

/-- What holds of the code that was drawn. -/
def Drawn (d : Store) (tenant_id : UUID) (first second code : String) : Prop :=
  (code = first ∧ ¬ Held d first tenant_id) ∨ (code = second ∧ Held d first tenant_id)

theorem always_draw (code : String) (codes : List String) (hl : l.txn = .none)
    {I : List String → Store → Prop} (hI : ∀ codes, I codes d) :
    Solo.Always machine drawing I
      (fun r codes' d' l' => d' = d ∧ l' = l ∧ ∀ a, r = .ok a → a = code ∧ codes' = codes)
      (exec (.generate_voucher_code 10)) (code :: codes) d l := by
  refine (Solo.always_exec (.inr hl)).mpr ⟨hI _, fun c codes' hc => ?_⟩
  cases c with
  | fail e => exact ⟨hI _, rfl, rfl, nofun⟩
  | run v =>
      refine ⟨hI _, rfl, rfl, fun a ha => ?_⟩
      cases ha
      simp only [drawing, drawn, List.head?_cons, Option.some.injEq, List.tail_cons,
        Option.ite_none_right_eq_some] at hc
      exact ⟨hc.1.symm, hc.2.symm⟩

theorem always_draw_code (hl : l.txn = .none) {I : List String → Store → Prop}
    (hI : ∀ codes, I codes d) : Solo.Always machine drawing I
      (fun r _ d' l' => d' = d ∧ l' = l ∧ ∀ code, r = .ok code →
        Drawn d tenant_id first second code)
      (draw_code tenant_id) [first, second] d l := by
  refine Solo.always_then (always_draw first [second] hl hI)
    (fun e _ _ _ _ h => ⟨h.1, h.2.1, nofun⟩) ?_
  rintro code codes d l - ⟨rfl, rfl, hcode⟩
  obtain ⟨rfl, rfl⟩ := hcode code rfl
  refine Solo.always_then (T := fun r codes' d' l' => codes' = [second] ∧ d' = d ∧ l' = l ∧
      ∀ n, r = .ok n → (0 < n ↔ Held d code tenant_id))
    (always_stmt hl (drawing_of_none fun c => by cases c <;> rfl) (hI _) (fun e => ⟨rfl, rfl, rfl, nofun⟩) ?_)
    (fun e _ _ _ _ h => ⟨h.2.1, h.2.2.1, nofun⟩) ?_
  · intro v n d' he
    cases he
    refine ⟨hI _, rfl, rfl, rfl, fun n hn => ?_⟩
    cases hn
    rw [List.length_pos_iff_exists_mem]
    simp [Held]
  · rintro n codes d l - ⟨rfl, rfl, rfl, hn⟩
    have hn := hn n rfl
    split
    · next hpos =>
        refine (always_draw second [] hl hI).mono fun r codes' d' l' _ h => ⟨h.1, h.2.1, ?_⟩
        exact fun a ha => .inr ⟨(h.2.2 a ha).1, hn.mp hpos⟩
    · next hzero =>
        refine ⟨hI _, rfl, rfl, fun a ha => ?_⟩
        cases ha
        exact .inl ⟨rfl, fun h => hzero (hn.mpr h)⟩

/-- Writing the credentials of a code that no voucher of the tenant has keeps all others. -/
theorem always_provision {code : String} (hl : l.txn = .none) (hnew : ¬ Held d code tenant_id)
    {password : String} {speed_mbps duration_minutes : ℤ} {data_quota_mb : Option ℤ}
    {codes : List String} : Solo.Always machine drawing (fun _ d' => Kept d d')
      (fun _ _ d' l' => (Kept d d' ∧ d'.vouchers = d.vouchers) ∧ l' = l)
      (_provision_radius_credentials code password speed_mbps duration_minutes tenant_id
        data_quota_mb) codes d l := by
  refine always_plain (φ := Touches code tenant_id)
    (_provision_radius_credentials_touches (fun t => .delete t) fun t row => .insert t row) hl
    ⟨fun _ _ _ => rfl, rfl⟩ (fun _ _ h => h.1) fun s hs v d₁ a d₂ hd he => ⟨fun w hw t => ?_, ?_⟩
  · have hne : ¬ (w.code = code ∧ w.tenant_id = tenant_id) := fun h => hnew ⟨w, hw, h⟩
    exact (hs.other he hne t).1.trans (hd.1 w hw t)
  · refine Eq.trans ?_ hd.2
    cases hs with
    | delete t => cases he; exact Store.vouchers_setRadius _ _ _
    | insert t row => rw [Stmt.eval_insert_radius he, Store.vouchers_setRadius]

theorem always_generate_voucher (h : ¬ (Found d payment_id tenant_id ∧ Held d first tenant_id ∧
    Held d second tenant_id)) : Solo.Always machine drawing (fun _ d' => Kept d d')
      (fun r _ _ _ => ∀ code, r = .ok code → ∀ w ∈ d.vouchers, w.code ≠ code)
      (generate_voucher payment_id tenant_id) [first, second] d {} := by
  have hkept : Kept d d := fun _ _ _ => rfl
  refine Solo.always_inFrame.mpr (Solo.always_then (T := fun r codes d' l' =>
    codes = [first, second] ∧ d' = d ∧ l'.txn = .none ∧
      ∀ row, r = .ok (some row) → Found d payment_id tenant_id)
    (always_stmt rfl (drawing_of_none fun _ => rfl) hkept
      (fun _ => ⟨rfl, rfl, rfl, fun _ h => by cases h⟩) ?_)
    (fun _ _ _ _ _ _ => nofun) ?_)
  · intro v a d' he
    obtain rfl := Stmt.eval_read rfl he
    refine ⟨hkept, rfl, rfl, rfl, fun row hrow => ?_⟩
    cases hrow
    obtain ⟨hp, hid, htenant, hpkg, hpackage, hpkgtenant⟩ := Stmt.eval_select_payment_package he
    exact ⟨row.1, hp, hid, htenant, row.2, hpkg, hpackage, hpkgtenant⟩
  rintro row codes d l - ⟨rfl, rfl, hl, hfound⟩
  cases row with
  | none => exact ⟨hkept, nofun⟩
  | some row =>
      have hfound := hfound row rfl
      refine Solo.always_then (T := fun _ codes d' l' => codes = [first, second] ∧ d' = d ∧
        l' = l) (always_stmt hl (drawing_of_none fun _ => rfl) hkept (fun _ => ⟨rfl, rfl, rfl⟩) ?_)
        (fun _ _ _ _ _ _ => nofun) ?_
      · intro v a d' he
        obtain rfl := Stmt.eval_read rfl he
        exact ⟨hkept, rfl, rfl, rfl⟩
      rintro user_row codes d l - ⟨rfl, rfl, rfl⟩
      refine Solo.always_then (always_draw_code hl fun _ => hkept) (fun _ _ _ _ _ _ => nofun) ?_
      rintro code codes d l - ⟨rfl, rfl, hdrawn⟩
      have hnew : ¬ Held d code tenant_id := by
        rcases hdrawn code rfl with ⟨rfl, hnew⟩ | ⟨rfl, hheld⟩
        · exact hnew
        · exact fun hnew => h ⟨hfound, hheld, hnew⟩
      refine Solo.always_then (always_provision hl hnew) (fun _ _ _ _ _ _ => nofun) ?_
      rintro _ codes d' l hk ⟨⟨-, hvouchers⟩, rfl⟩
      refine Solo.always_then (T := fun r _ _ l' => l' = l ∧ (r.isOk → ∀ w ∈ d.vouchers,
        w.code ≠ code)) (always_stmt (s := .insert_voucher payment_id row.1.customer_id
          row.1.package_id code tenant_id (user_row.bind (·.router_id))) hl (drawing_of_none fun _ => rfl)
          hk
          (fun _ => ⟨rfl, fun h => by cases h⟩) ?_)
        (fun _ _ _ _ _ _ => nofun) ?_
      · intro v a d'' he
        obtain ⟨_, rfl, -, -, -, -, -, -, hcode⟩ := Stmt.eval_insert_voucher he
        exact ⟨fun w hw t => (Store.credentials_congr (by cases t <;> rfl) _ _).trans (hk w hw t),
          rfl, fun _ => hvouchers ▸ hcode⟩
      rintro _ codes d'' l hk ⟨rfl, hcode⟩
      refine Solo.always_then (always_plain (G := Kept d) (welcome_guest_plain user_row code
        row.1.customer_id tenant_id (List.mem_singleton_self _)) hl hk (fun _ _ h => h) ?_)
        (fun _ _ _ _ _ _ => nofun) ?_
      · intro s hs v d₁ a d₂ hd he w hw t
        have hsame (T : Table) (hT : T ∉ [Table.users]) : d₂.Same d₁ T :=
          Stmt.eval_same (fun hw => hT (hs T hw)) he
        have hrows : d₂.radius t = d₁.radius t := by
          cases t
          · exact hsame .radcheck (by simp)
          · exact hsame .radreply (by simp)
        exact (Store.credentials_congr hrows _ _).trans (hd w hw t)
      · rintro _ codes d₃ l hk ⟨-, rfl⟩
        refine ⟨hk, fun a ha => ?_⟩
        cases ha
        exact hcode rfl

/-- A second collision within the tenant replaces the credentials of a voucher. -/
theorem not_own_credentials (hd : ∀ p ∈ d.payments, d.hasTenant p.tenant_id)
    (hfound : Found d payment_id tenant_id) {draw₁ draw₂ : ℕ → ℕ}
    (h₁ : Held d (codeOfDraws draw₁ 10) tenant_id) (h₂ : Held d (codeOfDraws draw₂ 10) tenant_id) :
    ¬ OwnCredentials d payment_id tenant_id [codeOfDraws draw₁ 10, codeOfDraws draw₂ 10] := by
  intro h
  obtain ⟨w, hw, hcode, htenant⟩ := h₂
  have hlive : d.hasTenant tenant_id := by
    obtain ⟨p, hp, -, rfl, -⟩ := hfound
    exact hd p hp
  have h : Solo.Always machine drawing (fun _ d' => Kept d d') (fun _ _ _ _ => True)
      (generate_voucher payment_id tenant_id)
      [codeOfDraws draw₁ 10, codeOfDraws draw₂ 10] d {} :=
    Solo.always_iff.mpr fun y hy => ⟨(h y hy).1, fun _ _ => trivial⟩
  obtain ⟨p, pkg, hrow⟩ := eval_of_found hfound {}
  have h := Alone.run (Solo.always_inFrame.mp h) rfl rfl hrow
  have h := Alone.run (v := {}) h rfl rfl rfl
  have h := Solo.always_bind.mp h
  have h := Alone.run h rfl (drawing_draw { draw := draw₁ } 10 _) rfl
  have hcount : 0 < (d.vouchers.filter fun w =>
      w.code == codeOfDraws draw₁ 10 && w.tenant_id == tenant_id).length := by
    rw [List.length_pos_iff_exists_mem]
    simpa [Held] using h₁
  have h := Alone.run (v := {}) h rfl rfl rfl
  simp only [hcount, if_true] at h
  have h := Alone.last h rfl (drawing_draw { draw := draw₂ } 10 _) rfl
  have h := Solo.always_bind.mp h
  -- The first DELETE leaves no row of the voucher, and the first INSERT adds one.
  have h₁ := Alone.run (v := {}) h rfl rfl rfl
  have h₂ := Alone.run (v := {}) h₁ rfl rfl rfl
  have h₃ := Alone.run (v := {}) h₂ rfl rfl (eval_insert_radius_of _ _ (by exact hlive))
  have hnone := (h₁.inv w hw .radcheck).symm
  have hone := h₃.inv w hw .radcheck
  rw [hcode, htenant] at hnone hone
  rw [Store.credentials_delete] at hnone
  rw [hnone] at hone
  exact List.not_mem_nil (hone ▸ Store.mem_credentials_insert _ .radcheck _)

/-- A call keeps the credentials of all other vouchers, and returns the code of none, unless both
codes that it draws belong to vouchers of its tenant. -/
theorem own_credentials_iff (hd : ∀ p ∈ d.payments, d.hasTenant p.tenant_id)
    (draw₁ draw₂ : ℕ → ℕ) :
    OwnCredentials d payment_id tenant_id [codeOfDraws draw₁ 10, codeOfDraws draw₂ 10] ↔
      ¬ (Found d payment_id tenant_id ∧ Held d (codeOfDraws draw₁ 10) tenant_id ∧
        Held d (codeOfDraws draw₂ 10) tenant_id) := by
  constructor
  · exact fun h ⟨hfound, h₁, h₂⟩ => not_own_credentials hd hfound h₁ h₂ h
  · intro h y hy
    obtain ⟨hkept, hresult⟩ := Solo.always_iff.mp (always_generate_voucher h) y hy
    exact ⟨hkept, fun code hc => hresult _ hc code rfl⟩

/-- The shop with a second payment, whose voucher has been sold. -/
def sold : Store :=
  { shop with
    payments := [waiting, { waiting with id := 11, status := .confirmed, mpesa_checkout_id := none }]
    vouchers := [{ id := 12, payment_id := 11, customer_id := 2, package_id := 3
                   code := "AAAAAAAAAA", status := .active, created_at := 0, tenant_id := 1
                   router_id := none }]
    radcheck := [{ username := "AAAAAAAAAA", attr := "Cleartext-Password", op := ":="
                   value := "AAAAAAAAAA", tenant_id := 1 }] }

theorem hasTenant_sold : ∀ p ∈ sold.payments, sold.hasTenant p.tenant_id := by decide

/-- One collision. -/
theorem own_credentials_redrawn : OwnCredentials sold 1 1 ["AAAAAAAAAA", "BBBBBBBBBB"] :=
  (own_credentials_iff hasTenant_sold (fun _ => 0) fun _ => 1).mpr (by decide +kernel)

/-- The same code twice. -/
theorem not_own_credentials_twice : ¬ ∀ (d : Store), (∀ p ∈ d.payments, d.hasTenant p.tenant_id) →
    ∀ payment_id tenant_id draw₁ draw₂,
      OwnCredentials d payment_id tenant_id [codeOfDraws draw₁ 10, codeOfDraws draw₂ 10] := by
  intro h
  have hheld : Held sold (codeOfDraws (fun _ => 0) 10) 1 := by decide +kernel
  exact not_own_credentials hasTenant_sold (by decide) hheld hheld (h sold hasTenant_sold 1 1 _ _)

end VoucherCredentials

end FrixelConnect
