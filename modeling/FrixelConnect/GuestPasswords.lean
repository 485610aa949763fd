import FrixelConnect.Specs.Generation
import FrixelConnect.Specs.Outcome
import FrixelConnect.Specs.Sale

/-!
# The accounts that are no guests

A guest gets the code of a voucher as password. Whether the customer is a guest is read before the
voucher is made, and the password is set after it, so that an account which leaves the guests in
between gets the code too. Payments and vouchers write no account that was none from the start.
-/

namespace FrixelConnect

namespace GuestPasswords

open Python Interleaving Contract

variable {Z : List User} {d d' : Store} {v : Env} {g : List UUID} {s : Stmt}

/-- The table has these accounts as they are, under their ids. -/
def Kept (Z : List User) (d : Store) : Prop :=
  ∀ z ∈ Z, z ∈ d.users ∧ ∀ u ∈ d.users, u.id = z.id → u = z

/-- Any processes in any interleaving. Outside of them anything may happen to the other accounts
and to the other tables. -/
def rules (Z : List User) : RunRules where
  edit _ d' := Kept Z d'

/-- Each process knows of customers that were guests, so that they are none of these accounts. -/
def contract (Z : List User) : Contract (List UUID) Unit where
  rules := rules Z
  base := Kept Z
  own _ _ g := ∀ id ∈ g, ∀ z ∈ Z, z.id ≠ id

theorem Kept.of_users (h : Kept Z d) (hu : d'.users = d.users) : Kept Z d' := by
  rw [Kept, hu]
  exact h

/-- A new account has a new id. -/
theorem Kept.insert {u : User} (h : Kept Z d) (hnew : ∀ r ∈ d.users, r.id ≠ u.id) :
    Kept Z { d with users := d.users ++ [u] } := by
  intro z hz
  refine ⟨List.mem_append_left _ (h z hz).1, fun r hr hid => ?_⟩
  rcases List.mem_append.mp hr with hr | hr
  · exact (h z hz).2 r hr hid
  · rw [List.mem_singleton.mp hr] at hid
    exact absurd hid.symm (hnew z (h z hz).1)

/-- An update of another account. -/
theorem Kept.update {id tenant_id : UUID} {f : User → User} (h : Kept Z d)
    (hid : ∀ z ∈ Z, z.id ≠ id) (hf : ∀ r, (f r).id = r.id) :
    Kept Z { d with
      users := updateRows (fun r => r.id == id && r.tenant_id == tenant_id) f d.users } := by
  intro z hz
  have hother : (if z.id == id && z.tenant_id == tenant_id then f z else z) = z :=
    if_neg (by simp [hid z hz])
  refine ⟨List.mem_map.mpr ⟨z, (h z hz).1, hother⟩, fun r hr hrid => ?_⟩
  obtain ⟨u, hu, rfl⟩ := List.mem_map.mp hr
  have huid : u.id = z.id := by
    split at hrid
    · exact (hf u).symm.trans hrid
    · exact hrid
  rw [(h z hz).2 u hu huid]
  exact hother

theorem eval_insert_guest {email phone hashed_password : String} {tenant_id : UUID} {u : User}
    (h : (Stmt.insert_guest email phone hashed_password tenant_id).eval v d = .ok (u, d')) :
    d' = { d with users := d.users ++ [u] } ∧ ∀ r ∈ d.users, r.id ≠ u.id := by
  simp only [Stmt.eval, Except.bind_eq_ok, pure, Except.pure, Except.ok.injEq, Prod.mk.injEq,
    check_eq_ok] at h
  obtain ⟨_, _, _, _, _, hid, _, _, _, _, _, _, rfl, rfl⟩ := h
  simp only [List.all_eq_true, bne_iff_ne] at hid
  exact ⟨rfl, hid⟩

/-- A statement about accounts that were guests, or about no account. -/
inductive Spares (Z : List User) : Stmt → Prop
  | tables {s : Stmt} (h : s.writes ≠ some .users) : Spares Z s
  | guest {email phone hashed_password : String} {tenant_id : UUID} :
      Spares Z (.insert_guest email phone hashed_password tenant_id)
  | password {hashed_password : String} {id tenant_id : UUID} (h : ∀ z ∈ Z, z.id ≠ id) :
      Spares Z (.set_hashed_password hashed_password id tenant_id)

theorem Spares.eval {a : s.Res} (hs : Spares Z s) (h : s.eval v d = .ok (a, d')) (hd : Kept Z d) :
    Kept Z d' := by
  cases hs with
  | tables hw => exact hd.of_users (Stmt.eval_same hw h)
  | guest =>
      obtain ⟨rfl, hnew⟩ := eval_insert_guest h
      exact hd.insert hnew
  | password hid =>
      cases h
      exact hd.update hid fun _ => rfl

theorem Spares.neutral (hs : Spares Z s) :
    (contract Z).discipline.protocol.Neutral g s := by
  apply neutral_of_moves
  intro d l v a d' hb ho _ he
  exact .intro (hs.eval he hb) ho (fun _ _ h₂ _ => h₂) (fun _ ht => .inl ht) (fun _ h => h) trivial

theorem spares_within {Ts : List Table} (hTs : Table.users ∉ Ts) (s : Stmt) (hs : Within Ts s) :
    Spares Z s := .tables fun hw => hTs (hs _ hw)

/-- A program of such statements. -/
theorem plain_spares {α : Type} {p : M α} {l : RunLocal} (hp : p.Plain (Spares Z))
    (hl : l.txn = .none) : (contract Z).wp (fun _ l' g' => l' = l ∧ g' = g) p l g :=
  Protocol.wp_of_plain (hp.mono fun _ hs => hs.neutral) hl

/-- What the look-up of a customer says about the accounts. -/
def Tells (Z : List User) (customer_id : UUID) (user : Option User) : Prop :=
  isGuest ((user.map (·.email)).getD "") = true → ∀ z ∈ Z, z.id ≠ customer_id

theorem tells (hZ : ∀ z ∈ Z, isGuest z.email = false) {customer_id tenant_id : UUID}
    {user : Option User} (hd : Kept Z d)
    (h : (Stmt.select_contact customer_id tenant_id).eval v d = .ok (user, d')) :
    Tells Z customer_id user := by
  intro hguest z hz hid
  cases h
  cases hfetch : fetchrow v.pick (fun r => r.id == customer_id && r.tenant_id == tenant_id)
      d.users with
  | none =>
      rw [hfetch] at hguest
      exact absurd hguest (by decide)
  | some u =>
      obtain ⟨hu, hp⟩ := fetchrow_eq_some hfetch
      simp only [Bool.and_eq_true, beq_iff_eq] at hp
      rw [hfetch, (hd z hz).2 u hu (hp.1.trans hid.symm)] at hguest
      exact absurd hguest (by simp [hZ z hz])

/-- What follows the look-up of the customer sets the password of a guest only. -/
theorem issue_plain {φ : Stmt → Prop} {user_row : Option User} (p : Payment) (pkg : Package)
    (payment_id tenant_id : UUID) (htables : ∀ s : Stmt, s.writes ≠ some .users → φ s)
    (hpassword : isGuest ((user_row.map (·.email)).getD "") = true → ∀ hashed_password,
      φ (.set_hashed_password hashed_password p.customer_id tenant_id)) :
    (do let code ← draw_code tenant_id
        _provision_radius_credentials code code pkg.speed_mbps pkg.duration_minutes tenant_id
          pkg.data_quota_mb
        exec (.insert_voucher payment_id p.customer_id p.package_id code tenant_id
          (user_row.bind (·.router_id)))
        welcome_guest user_row code p.customer_id tenant_id
        return code : M String).Plain φ := by
  have hread {s : Stmt} (hs : s.writes = none) : (exec s).Plain φ :=
    (Prog.plain_exec s).mpr (htables s (by simp [hs]))
  have hplain {α : Type} {p : M α} (hp : p.Plain (Within [.radcheck, .radreply])) : p.Plain φ :=
    hp.mono fun s hs => htables s fun hw => by simpa using hs _ hw
  refine (hplain (draw_code_plain _)).bind fun code => ?_
  refine (hplain (_provision_radius_credentials_plain _ _ _ _ _ _ (by simp) (by simp))).bind
    fun _ => ?_
  refine Prog.Plain.bind ((Prog.plain_exec _).mpr (htables _ (by simp [Stmt.writes]))) fun _ => ?_
  refine Prog.Plain.bind ?_ fun _ => trivial
  unfold welcome_guest
  split
  · next hguest =>
      refine (hread rfl).bind fun hashed_password => ?_
      refine Prog.Plain.bind ((Prog.plain_exec _).mpr (hpassword hguest _)) fun _ => ?_
      exact (hread rfl).tryCatch fun _ => trivial
  · trivial

variable {l : RunLocal}

theorem wp_select_contact (hZ : ∀ z ∈ Z, isGuest z.email = false) {customer_id tenant_id : UUID}
    (hl : l.txn = .none) : (contract Z).wp (fun r l' g' => (l' = l ∧ g' = g) ∧
      ∀ user, r = .ok user → Tells Z customer_id user)
      (exec (.select_contact customer_id tenant_id)) l g := by
  refine wp_exec (.inr hl) ?_ ?_
  · exact fun d e hb ho _ => ⟨g, .stay hb ho, ⟨rfl, rfl⟩, fun _ h => by cases h⟩
  · intro d v user d' hb ho _ he
    have htells := tells hZ hb he
    obtain rfl := Stmt.eval_read rfl he
    exact ⟨g, .stay hb ho, ⟨rfl, rfl⟩, fun _ h => Except.ok.inj h ▸ htells⟩

theorem wp_generate_voucher (hZ : ∀ z ∈ Z, isGuest z.email = false) (payment_id tenant_id : UUID)
    (hl : l.txn = .none) : (contract Z).wp (fun _ l' _ => l'.txn = .none)
      (generate_voucher payment_id tenant_id) l g := by
  refine wp_inFrame (fun d hb ho => .stay hb ho) (wp_mono (B := fun _ l' _ => l'.txn = .none) ?_
    fun r l g h => ⟨g, fun d hb ho => .stay hb ho, h⟩)
  refine wp_then (wp_reads (plain_read rfl) hl) (fun _ _ _ h => h.1 ▸ hl) ?_
  rintro row l g ⟨rfl, rfl⟩
  cases row with
  | none => exact hl
  | some row =>
      refine wp_then (wp_select_contact hZ hl) (fun _ _ _ h => h.1.1 ▸ hl) ?_
      rintro user_row l g ⟨⟨rfl, rfl⟩, htells⟩
      have hspares := issue_plain row.1 row.2 payment_id tenant_id (fun _ hs => .tables hs)
        fun hguest _ => Spares.password (htells user_row rfl hguest)
      exact wp_mono (plain_spares hspares hl) fun _ _ _ h => h.1 ▸ hl

section Sales

variable {P : Store → Prop}

/-- In a transaction as well, the customer is looked up before the voucher is made. -/
theorem body_generate_voucher (hZ : ∀ z ∈ Z, isGuest z.email = false)
    (payment_id tenant_id : UUID) : Body machine P (fun _ d' => Kept Z d')
      (generate_voucher payment_id tenant_id) fun _ _ d' => Kept Z d' := by
  refine Body.inFrame _ ((body_skip rfl rfl).bind fun row => ?_)
  cases row with
  | none => exact Body.throw
  | some row =>
      refine Body.bind (J := fun user _ d' => Kept Z d' ∧ Tells Z row.1.customer_id user)
        (body_select rfl rfl ?_) fun user_row => ?_
      · exact fun v user d₁ view view' _ hview ha d d' _ hI => ⟨hI, tells hZ hview ha⟩
      · let φ (s : Stmt) : Prop := Tells Z row.1.customer_id user_row → Spares Z s
        have htables (s : Stmt) (hs : s.writes ≠ some .users) : φ s := fun _ => .tables hs
        have hpassword (hguest : isGuest ((user_row.map (·.email)).getD "") = true)
            (hashed_password : String) :
            φ (.set_hashed_password hashed_password row.1.customer_id tenant_id) :=
          fun htells => .password (htells hguest)
        have hplain := issue_plain row.1 row.2 payment_id tenant_id htables hpassword
        refine (Body.of_framed hplain.framed ?_).conseq (fun _ _ _ h => h) fun _ _ _ _ h => h.1
        exact fun s hs _ v d d' a d'' _ hI he =>
          ⟨(hs hI.2).eval (Stmt.exec_eq_ok.mp he) hI.1, hI.2⟩

theorem body_sell_voucher (hZ : ∀ z ∈ Z, isGuest z.email = false)
    (data : ResellerVoucherGenerateRequest) (reseller_id tenant_id : UUID) (customer : User)
    (package : Package) : Body machine P (fun _ d' => Kept Z d')
      (sell_voucher data reseller_id tenant_id customer package) fun _ _ d' => Kept Z d' := by
  have hspares {α : Type} {p : M α} (hp : p.Plain (Spares Z)) :
      Body machine P (fun _ d' => Kept Z d') p fun _ _ d' => Kept Z d' :=
    Body.of_framed hp.framed fun s hs _ v d d' a d'' _ hI he => hs.eval (Stmt.exec_eq_ok.mp he) hI
  have hstmt {s : Stmt} (hs : s.writes ≠ some .users) :=
    hspares ((Prog.plain_exec s).mpr (.tables hs))
  refine (hstmt (by simp [Stmt.writes])).bind fun voucher_id => ?_
  refine (hspares (debit_wallet_plain _ _ _ _ (spares_within (by simp)) (.tables (by
    simp [Stmt.writes])) fun _ _ _ _ _ _ => .tables (by simp [Stmt.writes]))).bind fun _ => ?_
  refine (hstmt (by simp [Stmt.writes])).bind fun receipt => ?_
  refine (hstmt (by simp [Stmt.writes])).bind fun payment => ?_
  exact (body_generate_voucher hZ _ _).bind fun _ => Body.pure fun _ _ _ h => h

end Sales

theorem wp_generate_reseller_voucher (hZ : ∀ z ∈ Z, isGuest z.email = false)
    (data : ResellerVoucherGenerateRequest) (reseller_id tenant_id : UUID) :
    (contract Z).wp (fun _ _ _ => True) (generate_reseller_voucher data reseller_id tenant_id) {}
      g := by
  refine wp_reseller_voucher fun customer package => wp_commit (Q := fun _ _ => True)
    (fun _ _ _ ho => ho) ?_ ((body_sell_voucher hZ _ _ _ _ _).conseq ?_ fun _ _ _ _ h => h) ?_
    fun _ => trivial
  · refine sell_voucher_framed data _ _ _ _ (fun s hs hin => ?_) (fun _ _ _ _ h => by cases h)
      fun _ _ _ _ _ h => by cases h
    refine Spares.neutral (.tables fun hw => ?_)
    rcases Stmt.writes_external hin hw with hT | hT | hT <;> cases hT
  · rintro d _ ⟨hd, -⟩ rfl
    exact hd
  · intro _ d d' l l' hb ho hkept
    refine ⟨g, .intro hkept ho (fun _ _ h₂ _ => h₂) (fun _ ht => .inl ht) ?_ trivial, trivial⟩
    exact fun _ h => h

theorem generates (hZ : ∀ z ∈ Z, isGuest z.email = false) : (contract Z).Generates [] where
  free _ _ _ _ ho := ho
  outside g s hs := Spares.neutral <| by
    cases hs with
    | tables h => exact .tables fun hw => h _ hw (by simp [generationTables])
    | guest => exact .guest
  starts d d' hb hq := ⟨hb.of_users (hq .users (by simp)), nofun, rfl, fun _ _ h => h,
    fun _ h => h, trivial⟩
  generate payment_id tenant_id _ _ hl := wp_generate_voucher hZ payment_id tenant_id hl
  sale := wp_generate_reseller_voucher hZ

/-- In every run, accounts that are no guests stay exactly as they are. -/
theorem accounts_untouched {d : Store} (hZ : ∀ z ∈ Z, isGuest z.email = false) (hd : Kept Z d)
    {s : RunState} (hs : Reaches system (rules Z) (FrixelConnect.idle d) s) : Kept Z s.store := by
  have hedit : (contract Z).Tolerates := fun d d' ls hi he =>
    ⟨⟨he, fun x hx => hi.own x hx, hi.apart, trivial⟩, trivial⟩
  have h₀ : (contract Z).Holds (FrixelConnect.idle d) := .start hd trivial
  exact (h₀.reaches (generates hZ).serves hedit hs).1.base

instance (s : Stmt) (c : Choice Exn Env) (d : Store) : Decidable ((rules Z).stmt s c d) :=
  .isTrue trivial

instance (w : Spawn) (d : Store) : Decidable ((rules Z).spawn w d) := .isTrue trivial

instance (d d' : Store) : Decidable ((rules Z).edit d d') :=
  inferInstanceAs (Decidable (∀ z ∈ Z, z ∈ d'.users ∧ ∀ u ∈ d'.users, u.id = z.id → u = z))

/-- The customer of the waiting payment, as the portal makes them. -/
def guest : User :=
  { customer with email := "guest-254700000002-0a1b2c@guest.example.com" }

/-- The shop with a guest as customer, and with a reseller. -/
def guestShop : Store := { shop with users := [guest, reseller] }

instance (d : Store) : Decidable (Kept Z d) :=
  inferInstanceAs (Decidable (∀ z ∈ Z, z ∈ d.users ∧ ∀ u ∈ d.users, u.id = z.id → u = z))

theorem kept_guestShop : Kept [reseller] guestShop := by decide

/-- The guest gets a password, and the reseller keeps theirs. -/
theorem accounts_untouched_by_a_voucher : ∃ s : RunState,
    (s.store.users.map fun u => (u.id, u.hashed_password == "")) = [(2, false), (5, true)] ∧
      Kept [reseller] s.store := by
  obtain ⟨s, hs, hv⟩ := Reaches.of_moves (Y := system) (ρ := rules [reseller])
    (FrixelConnect.idle guestShop)
    (.spawn (.daraja_webhook ((Outcome.success "QK1").body "ws_CO_1")) :: stepsOf 5 0 ++
      .spawn (.job 0 false) :: List.replicate 14 (stepOf 1 { text := "$2b$12$code" }))
    (fun d => d.users.map fun u => (u.id, u.hashed_password == "")) [(2, false), (5, true)]
    (by decide +kernel) rfl
  exact ⟨s, hv, accounts_untouched (by decide) kept_guestShop hs⟩

end GuestPasswords

end FrixelConnect
