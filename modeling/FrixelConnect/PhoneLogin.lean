import FrixelConnect.Phones
import FrixelConnect.UserAdministration

/-!
# Logins by phone

The writers of `users` store a phone as it was typed. A login looks for the text that it is given
and, where that is digits up to plus signs and white space around it, for the same number in two
other forms, among the users of all tenants.

## Implementation notes

`bcrypt.checkpw` is a parameter. Phones are compared by what `normalise_phone` makes of them.
-/

namespace FrixelConnect

open Python Interleaving

/-- The texts that a login looks for. -/
def login_variants (email : String) : List String :=
  let clean_input := (strip email.toList).filter (· != '+')
  if isDigits clean_input = false then
    [email]
  else if "254".toList.isPrefixOf clean_input ∧ clean_input.length = 12 then
    [email, String.ofList ('0' :: clean_input.drop 3), String.ofList (clean_input.drop 3)]
  else if "0".toList.isPrefixOf clean_input ∧ clean_input.length = 10 then
    [email, String.ofList ("254".toList ++ clean_input.drop 1), String.ofList (clean_input.drop 1)]
  else if clean_input.length = 9 ∧ (clean_input[0]? = some '7' ∨ clean_input[0]? = some '1') then
    [email, String.ofList ("254".toList ++ clean_input), String.ofList ('0' :: clean_input)]
  else
    [email]

def DUMMY_HASH : String := "$2b$12$KIXy0z5h5l5z5z5z5z5z5e1234567890123456789012345678901234"

/-- The checks of a login after the password. -/
def admit_user (user : Option (User × TenantStatus)) (password_ok : Bool) :
    Except Exn (User × TenantStatus) :=
  match user with
  | none => .error (.unauthorised "Invalid email/phone or password.")
  | some user =>
      if password_ok = false then
        .error (.unauthorised "Invalid email/phone or password.")
      else if user.1.is_active = false then
        .error (.unauthorised "This account has been deactivated. Contact support.")
      else
        match user.2 with
        | .suspended => .error (.forbidden
            ("Your Frixel Connect account has been suspended due to an unpaid invoice. " ++
              "Please contact Frixel Connect support."))
        | .cancelled => .error (.forbidden
            ("Your Frixel Connect account has been cancelled. " ++
              "Please contact Frixel Connect support."))
        | .active => .ok user

def authenticate_user (verify_password : String → String → Except Exn Bool)
    (email password : String) : M (User × TenantStatus) := do
  let user ← exec (.select_account (login_variants email))
  let stored_hash := (user.map (·.1.hashed_password)).getD DUMMY_HASH
  let password_ok ← Prog.ofExcept (verify_password password stored_hash)
  Prog.ofExcept (admit_user user password_ok)

namespace PhoneLogin

open Phone

/-- Both texts are spellings of one number. -/
def SameSubscriber (s s' : String) : Prop :=
  (normalise_phone s).isOk = true ∧ normalise_phone s = normalise_phone s'

instance (s s' : String) : Decidable (SameSubscriber s s') :=
  inferInstanceAs (Decidable (_ ∧ _))

/-- There is no space and no dash inside. -/
def Compact (s : String) : Prop := ∀ c ∈ strip s.toList, c ≠ ' ' ∧ c ≠ '-'

instance (s : String) : Decidable (Compact s) :=
  List.decidableBAll (fun c => c ≠ ' ' ∧ c ≠ '-') (strip s.toList)

/-- A login under the spelling meets a row with `x`: `x` is the spelling itself or, unless the
spelling has spaces or dashes inside, the number in digits alone and in another form. -/
def LooksFor (spelling x : String) : Prop :=
  x = spelling ∨ Compact spelling ∧ SameSubscriber x spelling ∧ x.toList = cleaned x ∧
    cleaned x ≠ cleaned spelling

instance (spelling x : String) : Decidable (LooksFor spelling x) :=
  inferInstanceAs (Decidable (_ ∨ _))

section Variants

variable {s x : String} {n : List Char}

theorem sameSubscriber_iff (hn : Subscriber IsDigit n) (hs : Spells s n) :
    SameSubscriber x s ↔ Spells x n := by
  have hok := normalise_eq_ok.mpr ⟨n, hn, hs, rfl⟩
  constructor
  · rintro ⟨-, heq⟩
    obtain ⟨m, hm, hx, hnumber⟩ := normalise_eq_ok.mp (heq.trans hok)
    rwa [international_inj hnumber]
  · intro hx
    have hxok := normalise_eq_ok.mpr ⟨n, hn, hx, rfl⟩
    exact ⟨by rw [hxok]; rfl, hxok.trans hok.symm⟩

/-- Digits alone are their own form. -/
theorem cleaned_digits (h : ∀ c ∈ x.toList, IsDigit c) : cleaned x = x.toList := by
  rw [cleaned_eq, strip_eq_self fun c hc => (h c hc).not_space, List.filter_eq_self]
  intro c hc
  simpa using (h c hc).not_separator

/-- A form of the number. -/
theorem form_iff (hn : Subscriber IsDigit n) :
    x.toList ∈ forms n ↔ Spells x n ∧ x.toList = cleaned x := by
  rw [spells_iff hn]
  constructor
  · intro h
    have hclean := cleaned_digits (forms_digits hn h)
    exact ⟨by rwa [hclean], hclean.symm⟩
  · rintro ⟨h, hclean⟩
    rwa [hclean]

/-- The other forms of the number that is given in one of them. -/
theorem mem_variants {clean_input : List Char} (hn : Subscriber IsDigit n)
    (hclean : (strip s.toList).filter (· != '+') = clean_input) (hform : clean_input ∈ forms n) :
    x ∈ login_variants s ↔ x = s ∨ x.toList ∈ forms n ∧ x.toList ≠ clean_input := by
  obtain ⟨hlength, hhead⟩ := (subscriber_iff hn.isDigit).mp hn
  have hdigits : isDigits clean_input = true := by
    rw [isDigits_iff]
    refine ⟨fun hnil => ?_, forms_digits hn hform⟩
    have hdrop := drop_form hlength hform
    rw [hnil, List.drop_nil] at hdrop
    rw [← hdrop] at hlength
    cases hlength
  have hzero : n ≠ '0' :: n := fun h => by simpa using congrArg List.length h
  have hfull : n ≠ '2' :: '5' :: '4' :: n := fun h => by
    have := congrArg List.length h
    rw [List.length_cons, List.length_cons, List.length_cons] at this
    omega
  have htext (text : List Char) : x = String.ofList text ↔ x.toList = text := by
    rw [← String.toList_inj, String.toList_ofList]
  simp only [forms, List.mem_cons, List.not_mem_nil, or_false] at hform ⊢
  simp only [login_variants, hclean]
  rw [if_neg (by simp [hdigits])]
  rcases hform with rfl | rfl | rfl
  · rw [if_neg (by simp [hlength]), if_pos ⟨rfl, by rw [List.length_cons, hlength]⟩]
    simp only [List.mem_cons, List.not_mem_nil, or_false, htext]
    grind
  · rw [if_neg (by omega), if_neg (by omega), if_pos ⟨hlength, hhead⟩]
    simp only [List.mem_cons, List.not_mem_nil, or_false, htext]
    grind
  · rw [if_pos ⟨rfl, by simp [hlength]⟩]
    simp only [List.mem_cons, List.not_mem_nil, or_false, htext]
    grind

/-- The texts that a login under a spelling of the number looks for. -/
theorem mem_login_variants (hn : Subscriber IsDigit n) (hs : Spells s n) :
    x ∈ login_variants s ↔ LooksFor s x := by
  have hclean := (spells_iff hn).mp hs
  rw [LooksFor, sameSubscriber_iff hn hs, ← and_assoc (b := x.toList = cleaned x),
    ← form_iff hn]
  by_cases hcompact : Compact s
  · have hplus : (strip s.toList).filter (· != '+') = cleaned s := by
      rw [cleaned_eq]
      apply List.filter_congr
      intro c hc
      have hc := hcompact c hc
      by_cases h : c = '+' <;> simp [Separator, hc.1, hc.2, h]
    rw [mem_variants hn hplus hclean, and_iff_right hcompact]
    apply or_congr_right
    apply and_congr_right
    intro hform
    rw [cleaned_digits (forms_digits hn hform)]
  · have hdigits : isDigits ((strip s.toList).filter (· != '+')) = false := by
      simp only [Compact, not_forall] at hcompact
      obtain ⟨c, hc, hinside⟩ := hcompact
      have hsep : Separator c ∧ c ≠ '+' := by
        by_cases hspace : c = ' '
        · exact ⟨.inr (.inl hspace), by rw [hspace]; decide⟩
        · have hdash : c = '-' := by
            by_contra hdash
            exact hinside ⟨hspace, hdash⟩
          exact ⟨.inr (.inr hdash), by rw [hdash]; decide⟩
      by_contra hall
      rw [Bool.not_eq_false, isDigits_iff] at hall
      exact (hall.2 c (List.mem_filter.mpr ⟨hc, by simp [hsep.2]⟩)).not_separator hsep.1
    simp only [login_variants, hdigits, if_true, List.mem_singleton, hcompact, false_and, or_false]

/-- No spelling of a number has a `NUL`. -/
theorem Spells.readable (hn : Subscriber IsDigit n) (hs : Spells s n) :
    textParam none (.str s) = .ok (some s) := by
  obtain ⟨front, body, back, htext, hfront, hback, hbody⟩ := hs
  have hnul : Char.ofNat 0 ∉ s.toList := by
    intro hmem
    rw [htext, List.mem_append, List.mem_append] at hmem
    rcases hmem with (hmem | hmem) | hmem
    · exact absurd (hfront _ hmem) (by decide)
    · have hdigit := forms_digits hn hbody _ (List.mem_filter.mpr ⟨hmem, by decide⟩)
      exact absurd hdigit (by decide +kernel)
    · exact absurd (hback _ hmem) (by decide)
  simp [textParam, check, hnul, bind, Except.bind, pure, Except.pure]

/-- A loop over calls that all return. -/
theorem mapM_eq_ok {α β ε : Type} {f : α → Except ε β} {xs : List α}
    (h : ∀ x ∈ xs, ∃ y, f x = .ok y) : ∃ ys, xs.mapM f = .ok ys := by
  induction xs with
  | nil => exact ⟨[], rfl⟩
  | cons x xs ih =>
      obtain ⟨y, hy⟩ := h x List.mem_cons_self
      obtain ⟨ys, hys⟩ := ih fun z hz => h z (List.mem_cons_of_mem x hz)
      exact ⟨y :: ys, by rw [List.mapM_cons, hy, hys]; rfl⟩

/-- The texts of a login can all be sent. -/
theorem variants_readable (hn : Subscriber IsDigit n) (hs : Spells s n) :
    ∃ params, (login_variants s).mapM (fun s => textParam none (.str s)) = .ok params := by
  apply mapM_eq_ok
  intro x hx
  rcases (mem_login_variants hn hs).mp hx with rfl | ⟨-, hsame, -, -⟩
  · exact ⟨_, Spells.readable hn hs⟩
  · exact ⟨_, Spells.readable hn ((sameSubscriber_iff hn hs).mp hsame)⟩

end Variants

variable (verify_password : String → String → Except Exn Bool)

/-- What a login returns or raises when the database answers with `v`. -/
def login (v : Env) (d : Store) (email password : String) : Except Exn (User × TenantStatus) :=
  (Solo.outcome machine { stmt := fun _ => .run v, commit := .run v }
    (authenticate_user verify_password email password) d {}).1

/-- The login returns the row of the user, whichever row the database finds first. -/
def AuthenticatedAs (d : Store) (u : User) (email password : String) : Prop :=
  ∀ v, login verify_password v d email password = .ok (u, .active)

/-- An active user of an active tenant with a valid phone. -/
structure Eligible (d : Store) (u : User) : Prop where
  mem : u ∈ d.users
  active : u.is_active = true
  tenant : ∃ t ∈ d.tenants, t.id = u.tenant_id ∧ t.status = .active
  phone : (normalise_phone u.phone).isOk = true

/-- The login meets a row of the user, and no row of another user of any tenant. -/
def Found (d : Store) (u : User) (spelling : String) : Prop :=
  (LooksFor spelling u.email ∨ LooksFor spelling u.phone) ∧
    ∀ w ∈ d.users, ∀ t ∈ d.tenants, t.id = w.tenant_id →
      LooksFor spelling w.email ∨ LooksFor spelling w.phone → w = u

variable {verify_password} {v : Env} {d : Store} {u : User} {status : TenantStatus}
  {spelling password : String} {n : List Char}

/-- The rows of the join. -/
def joined (d : Store) : List (User × TenantStatus) :=
  d.users.flatMap fun u => (d.tenants.filter fun t => t.id == u.tenant_id).map fun t =>
    (u, t.status)

theorem mem_joined : (u, status) ∈ joined d ↔
    u ∈ d.users ∧ ∃ t ∈ d.tenants, t.id = u.tenant_id ∧ t.status = status := by
  simp only [joined, List.mem_flatMap, List.mem_map, List.mem_filter, beq_iff_eq, Prod.mk.injEq]
  constructor
  · rintro ⟨w, hw, t, ⟨ht, hid⟩, rfl, hstatus⟩
    exact ⟨hw, t, ht, hid, hstatus⟩
  · rintro ⟨hu, t, ht, hid, hstatus⟩
    exact ⟨u, hu, t, ⟨ht, hid⟩, rfl, hstatus⟩

/-- The row is found by the texts. -/
def hit (variants : List String) (r : User × TenantStatus) : Bool :=
  variants.contains r.1.email || variants.contains r.1.phone

theorem hit_iff (hn : Subscriber IsDigit n) (hs : Spells spelling n) :
    hit (login_variants spelling) (u, status) = true ↔
      LooksFor spelling u.email ∨ LooksFor spelling u.phone := by
  rw [hit, Bool.or_eq_true, List.contains_iff_mem, List.contains_iff_mem,
    mem_login_variants hn hs, mem_login_variants hn hs]

theorem admit_user_eq_ok {user : Option (User × TenantStatus)} {password_ok : Bool} :
    admit_user user password_ok = .ok (u, status) ↔
      user = some (u, status) ∧ password_ok = true ∧ u.is_active = true ∧ status = .active := by
  cases user with
  | none => simp [admit_user]
  | some user =>
      obtain ⟨w, tenant_status⟩ := user
      simp only [admit_user]
      split
      next hwrong => simp [hwrong]
      next hright =>
        split
        next hactive =>
          simp only [reduceCtorEq, false_iff]
          rintro ⟨hrow, -, hu, -⟩
          cases hrow
          rw [hactive] at hu
          cases hu
        next hactive => cases tenant_status <;> grind

/-- A login that returns has found the row, and the password is the one of the row. -/
theorem login_eq_ok (hn : Subscriber IsDigit n) (hs : Spells spelling n) :
    login verify_password v d spelling password = .ok (u, status) ↔
      fetchrow v.pick (hit (login_variants spelling)) (joined d) = some (u, status) ∧
        verify_password password u.hashed_password = .ok true ∧ u.is_active = true ∧
        status = .active := by
  obtain ⟨params, hparams⟩ := variants_readable hn hs
  have hx : machine.direct (.select_account (login_variants spelling)) (.run v) d =
      (.ok (fetchrow v.pick (hit (login_variants spelling)) (joined d)), d) := by
    apply Stmt.exec_eq_ok.mpr
    rw [Stmt.eval, hparams]
    rfl
  rw [login, authenticate_user, Solo.outcome_exec_bind rfl hx]
  generalize fetchrow v.pick (hit (login_variants spelling)) (joined d) = user
  change (Solo.outcome machine _ (Prog.ofExcept (verify_password password
    ((user.map (·.1.hashed_password)).getD DUMMY_HASH)) >>= fun password_ok =>
      Prog.ofExcept (admit_user user password_ok)) d {}).1 = _ ↔ _
  cases hverify : verify_password password ((user.map (·.1.hashed_password)).getD DUMMY_HASH) with
  | error e =>
      refine iff_of_false (fun h => by cases h) ?_
      rintro ⟨rfl, hok, -, -⟩
      cases hverify.symm.trans hok
  | ok password_ok =>
      refine admit_user_eq_ok.trans (and_congr_right fun hrow => ?_)
      subst hrow
      have hu : verify_password password u.hashed_password = .ok password_ok := hverify
      rw [hu, Except.ok.injEq]

/-- Any row that satisfies `p` may come first. -/
theorem exists_fetchrow {α : Type} {p : α → Bool} {rows : List α} {r : α} (hr : r ∈ rows)
    (hp : p r = true) : ∃ pick, fetchrow pick p rows = some r := by
  obtain ⟨pick, hlt, hpick⟩ := List.getElem_of_mem (List.mem_filter.mpr ⟨hr, hp⟩)
  refine ⟨pick, ?_⟩
  rw [fetchrow, Nat.mod_eq_of_lt hlt, List.getElem?_eq_getElem hlt, hpick]

/-- The row of a tenant is told by its id. -/
theorem tenant_unique (hids : (d.tenants.map (·.id)).Nodup) {t t' : Tenant} (ht : t ∈ d.tenants)
    (ht' : t' ∈ d.tenants) (hid : t.id = t'.id) : t = t' :=
  List.inj_on_of_nodup_map hids ht ht' hid

theorem valid_spells (h : (normalise_phone spelling).isOk = true) :
    ∃ n, Subscriber IsDigit n ∧ Spells spelling n := by
  cases hok : normalise_phone spelling with
  | error e =>
      rw [hok] at h
      cases h
  | ok r =>
      obtain ⟨n, hn, hs, -⟩ := normalise_eq_ok.mp hok
      exact ⟨n, hn, hs⟩

/-- A login with the password of the user returns the user if and only if it finds the user. -/
theorem authenticated_iff (hids : (d.tenants.map (·.id)).Nodup) (hu : Eligible d u)
    (hspelling : (normalise_phone spelling).isOk = true)
    (hpassword : verify_password password u.hashed_password = .ok true) :
    AuthenticatedAs verify_password d u spelling password ↔ Found d u spelling := by
  obtain ⟨n, hn, hs⟩ := valid_spells hspelling
  obtain ⟨t, ht, hid, hstatus⟩ := hu.tenant
  have hjoined : (u, .active) ∈ joined d := mem_joined.mpr ⟨hu.mem, t, ht, hid, hstatus⟩
  constructor
  · intro h
    have hrow := ((login_eq_ok hn hs).mp (h {})).1
    refine ⟨(hit_iff hn hs).mp (fetchrow_eq_some hrow).2, ?_⟩
    intro w hw t' ht' hid' hlooks
    obtain ⟨pick, hpick⟩ := exists_fetchrow (mem_joined.mpr ⟨hw, t', ht', hid', rfl⟩)
      ((hit_iff hn hs).mpr hlooks)
    have hfirst := ((login_eq_ok hn hs).mp (h { pick })).1
    exact (Prod.ext_iff.mp (Option.some.inj (hpick.symm.trans hfirst))).1
  · rintro ⟨hlooks, hunique⟩ v
    rw [login_eq_ok hn hs]
    refine ⟨?_, hpassword, hu.active, rfl⟩
    apply fetchrow_unique hjoined ((hit_iff hn hs).mpr hlooks)
    rintro ⟨w, status⟩ hrow hhit
    obtain ⟨hw, t', ht', hid', rfl⟩ := mem_joined.mp hrow
    cases hunique w hw t' ht' hid' ((hit_iff hn hs).mp hhit)
    rw [tenant_unique hids ht' ht (hid'.trans hid.symm), hstatus]

/-- A spelling with so many dashes in front. -/
def dashed (n : List Char) (dashes : ℕ) : String :=
  String.ofList (List.replicate (dashes + 1) '-' ++ '2' :: '5' :: '4' :: n)

theorem spells_dashed (hn : Subscriber IsDigit n) (dashes : ℕ) : Spells (dashed n dashes) n := by
  have hmem : '2' :: '5' :: '4' :: n ∈ forms n := by simp [forms]
  refine ⟨[], List.replicate (dashes + 1) '-' ++ '2' :: '5' :: '4' :: n, [],
    by simp [dashed], by simp, by simp, ?_⟩
  rw [List.filter_append, List.filter_eq_nil_iff.mpr, List.nil_append, List.filter_eq_self.mpr]
  · exact hmem
  · intro c hc
    simpa using (forms_digits hn hmem c hc).not_separator
  · intro c hc
    rw [List.eq_of_mem_replicate hc]
    simp [Separator]

theorem not_compact_dashed (hn : Subscriber IsDigit n) (dashes : ℕ) :
    ¬ Compact (dashed n dashes) := by
  have hstrip : strip (dashed n dashes).toList = (dashed n dashes).toList := by
    apply strip_eq_self
    intro c hc
    rw [dashed, String.toList_ofList, List.mem_append] at hc
    rcases hc with hc | hc
    · rw [List.eq_of_mem_replicate hc]
      decide
    · exact (forms_digits hn (by simp [forms]) c hc).not_space
  intro h
  rw [Compact, hstrip] at h
  exact (h '-' (by simp [dashed])).2 rfl

theorem dashed_inj {i j : ℕ} (h : dashed n i = dashed n j) : i = j := by
  have := congrArg (fun s => s.toList.length) h
  simpa [dashed] using this

/-- A login under such a spelling looks for nothing else. -/
theorem looksFor_dashed (hn : Subscriber IsDigit n) {dashes : ℕ} {x : String} :
    LooksFor (dashed n dashes) x ↔ x = dashed n dashes := by
  simp only [LooksFor, not_compact_dashed hn, false_and, or_false]

/-- No user is found under every spelling of a number. -/
theorem exists_not_found (hn : Subscriber IsDigit n) (d : Store) (u : User) :
    ∃ spelling, Spells spelling n ∧ ¬ Found d u spelling := by
  by_contra hall
  simp only [not_exists, not_and, not_not] at hall
  have hlooks (i : ℕ) : u.email = dashed n i ∨ u.phone = dashed n i := by
    have h := (hall _ (spells_dashed hn i)).1
    rwa [looksFor_dashed hn, looksFor_dashed hn] at h
  have hemail {i j : ℕ} (hi : u.email = dashed n i) (hj : u.email = dashed n j) : i = j :=
    dashed_inj (hi.symm.trans hj)
  have hphone {i j : ℕ} (hi : u.phone = dashed n i) (hj : u.phone = dashed n j) : i = j :=
    dashed_inj (hi.symm.trans hj)
  -- The row has two texts, and three spellings are looked for.
  rcases hlooks 0 with h₀ | h₀ <;> rcases hlooks 1 with h₁ | h₁ <;> rcases hlooks 2 with h₂ | h₂
  · cases hemail h₀ h₁
  · cases hemail h₀ h₁
  · cases hemail h₀ h₂
  · cases hphone h₁ h₂
  · cases hemail h₁ h₂
  · cases hphone h₀ h₂
  · cases hphone h₀ h₁
  · cases hphone h₀ h₁

/-- No two users have phones of one number. -/
def Distinct (users : List User) : Prop :=
  users.Pairwise fun u w => ¬ SameSubscriber u.phone w.phone

/-- A statement that writes a phone meets no other row with a phone of its number. -/
def separate : DirectoryRules where
  stmt s _ d := ∀ w ∈ s.phone, ∀ u ∈ d.users, w.2 u = false → ¬ SameSubscriber u.phone w.1

theorem SameSubscriber.symm {s s' : String} (h : SameSubscriber s s') : SameSubscriber s' s :=
  ⟨h.2 ▸ h.1, h.2.symm⟩

/-- What one statement does to the phones of a table of distinct ones. -/
theorem Distinct.step {written : Option (String × (User → Bool))} {users users' : List User}
    (hallowed : ∀ w ∈ written, ∀ u ∈ users, w.2 u = false → ¬ SameSubscriber u.phone w.1)
    (hids : (users.map (·.id)).Nodup) (h : Distinct users)
    (hs : DirectoryStmt.UsersStep written users users') : Distinct users' := by
  cases hs with
  | same => exact h
  | insert row hid hphone =>
      refine List.pairwise_append.mpr ⟨h, List.pairwise_singleton _ _, fun u hu w hw => ?_⟩
      rw [List.mem_singleton.mp hw]
      exact hallowed _ hphone u hu rfl
  | update p f hid hone hphone =>
      have hids : users.Pairwise fun u w => u.id ≠ w.id := List.pairwise_map.mp hids
      refine List.pairwise_map.mpr ((h.and hids).imp_of_mem fun {u w} hu hw huw => ?_)
      obtain ⟨hnumber, hid'⟩ := huw
      rcases hphone with hkeep | ⟨value, hwritten, hvalue⟩
      · have hphone (u : User) : (if p u then f u else u).phone = u.phone := by
          split
          · exact hkeep u
          · rfl
        rwa [hphone, hphone]
      · cases hpu : p u with
        | false =>
            cases hpw : p w with
            | false => simpa [hpu, hpw] using hnumber
            | true => simpa [hpu, hpw, hvalue] using hallowed _ hwritten u hu hpu
        | true =>
            cases hpw : p w with
            | false =>
                simpa [hpu, hpw, hvalue] using fun h => hallowed _ hwritten w hw hpw
                  (SameSubscriber.symm h)
            | true => exact absurd (hone u w hpu hpw) hid'

theorem distinct_rule : StoreRule directorySystem separate (fun _ => True)
    fun d => d.Keyed ∧ Distinct d.users :=
  keyed_rule (fun _ _ => not_false) fun _ _ _ _ hallowed hkeyed hs h =>
    Distinct.step hallowed hkeyed.users h hs

/-- The phones of the users stay distinct in a run whose statements write no second phone of a
number. In every state, a login with the password of a user returns that user exactly if it finds
that user, which is not the case under every spelling. -/
theorem phone_login {verify_password : String → String → Except Exn Bool} {d : Registry}
    {s : DirectoryState} (hkeyed : d.Keyed) (hs : Reaches directorySystem {} { store := d } s) :
    (Distinct d.users → Reaches directorySystem separate { store := d } s →
        Distinct s.store.users) ∧
      ∀ u password, Eligible s.store.toStore u →
        verify_password password u.hashed_password = .ok true →
        (∀ spelling, SameSubscriber spelling u.phone →
          (AuthenticatedAs verify_password s.store.toStore u spelling password ↔
            Found s.store.toStore u spelling)) ∧
        ¬ ∀ spelling, SameSubscriber spelling u.phone →
          AuthenticatedAs verify_password s.store.toStore u spelling password := by
  have hkeys : s.store.Keyed :=
    ((keyed_rule (ρ := {}) (I := fun _ => True) (fun _ _ => not_false)
      fun _ _ _ _ _ _ _ _ => trivial).run hs ⟨hkeyed, trivial⟩).1
  refine ⟨fun hd hr => (distinct_rule.run hr ⟨hkeyed, hd⟩).2, fun u password hu hpassword => ?_⟩
  have hiff (spelling : String) (hspelling : SameSubscriber spelling u.phone) :
      AuthenticatedAs verify_password s.store.toStore u spelling password ↔
        Found s.store.toStore u spelling :=
    authenticated_iff hkeys.tenants hu hspelling.1 hpassword
  refine ⟨hiff, fun hall => ?_⟩
  obtain ⟨n, hn, hphone⟩ := valid_spells hu.phone
  obtain ⟨spelling, hspells, hnot⟩ := exists_not_found hn s.store.toStore u
  have hsame := (sameSubscriber_iff hn hphone).mpr hspells
  exact hnot ((hiff spelling hsame).mp (hall spelling hsame))

section Decidable

variable (s : DirectoryStmt) (c : Choice Exn Env) (w : DirectorySpawn) (d d' : Registry)

instance : Decidable (({} : DirectoryRules).stmt s c d) := .isTrue trivial

instance : Decidable (({} : DirectoryRules).spawn w d) := .isTrue trivial

instance : Decidable (({} : DirectoryRules).edit d d') := .isFalse not_false

instance : Decidable (separate.stmt s c d) :=
  inferInstanceAs (Decidable (∀ w ∈ s.phone, ∀ u ∈ d.users, w.2 u = false →
    ¬ SameSubscriber u.phone w.1))

instance : Decidable (separate.spawn w d) := .isTrue trivial

instance : Decidable (separate.edit d d') := .isFalse not_false

instance (users : List User) : Decidable (Distinct users) :=
  inferInstanceAs (Decidable (List.Pairwise _ _))

instance (u : User) (spelling : String) : Decidable (Found d.toStore u spelling) :=
  inferInstanceAs (Decidable (_ ∧ ∀ w ∈ d.users, ∀ t ∈ d.tenants, t.id = w.tenant_id →
    LooksFor spelling w.email ∨ LooksFor spelling w.phone → w = u))

end Decidable

/-- A password is its own hash. -/
def samePassword (password hashed : String) : Except Exn Bool := .ok (password == hashed)

/-- The admin of the tenant. -/
def owner : User where
  id := 1
  email := "a@example.com"
  phone := "254700000001"
  hashed_password := "password"
  role := .admin
  tenant_id := 1

/-- A customer with the phone. -/
def customer (phone : String) : User where
  id := 2
  email := "c@example.com"
  phone := phone
  hashed_password := "password"
  tenant_id := 1

/-- The tenant has one customer. -/
def directory (phone : String) : Registry where
  tenants := [{ id := 1, owner_phone := "254700000001", next_billing_date := Calendar.plusMonth 0 }]
  profiles := [{ tenant_id := 1, business_name := "Fast Net", owner_email := "a@example.com" }]
  users := [owner, customer phone]

/-- The tenant registers, and the admin creates the customer. -/
def creation (phone : String) : List DirectoryLabel :=
  .spawn (.base (.register {
    business_name := "Fast Net", owner_email := "a@example.com", owner_phone := "254700000001"
    password := "password" })) ::
      List.replicate 8 (.step 0 (.run { uuid := 1, text := "password" })) ++
  .spawn (.base (.app (.call (.create_customer {
    email := "c@example.com", phone, password := "password" } none) 1 []))) ::
      List.replicate 3 (.step 1 (.run { uuid := 2, text := "password" }))

theorem eligible_owner (phone : String) : Eligible (directory phone).toStore owner where
  mem := List.mem_cons_self
  active := rfl
  tenant := ⟨_, List.mem_cons_self, rfl, rfl⟩
  phone := by decide +kernel

/-- The admin logs in with another spelling. -/
theorem phone_login_owner : ∃ s, Reaches directorySystem separate { store := {} } s ∧
    Distinct s.store.users ∧
    AuthenticatedAs samePassword s.store.toStore owner "0700000001" "password" := by
  obtain ⟨s, hrun, hstore⟩ := Option.map_eq_some_iff.mp (show
    (State.run directorySystem { store := {} } (creation "0700000002")).map (·.store) =
      some (directory "0700000002") by decide +kernel)
  have hs : Reaches directorySystem separate { store := {} } s := .of_run (by decide +kernel) hrun
  obtain ⟨hdistinct, hlogin⟩ := @phone_login samePassword {} s ⟨.nil, .nil⟩
    (.of_run (by decide +kernel) hrun)
  have howner : Eligible s.store.toStore owner := by
    rw [hstore]
    exact eligible_owner _
  have hfound := ((hlogin owner "password" howner rfl).1 "0700000001" (by decide +kernel)).mpr
  rw [hstore] at hfound
  refine ⟨s, hs, hdistinct .nil hs, ?_⟩
  rw [hstore]
  exact hfound (by decide +kernel)

/-- An admin and a customer have the same number, and the admin's login with a plus sign before
the phone returns the customer. -/
theorem not_phone_login :
    (¬ ∀ s, Reaches directorySystem {} { store := {} } s → Distinct s.store.users) ∧
      ¬ ∀ s, Reaches directorySystem {} { store := {} } s → ∀ u spelling password,
        Eligible s.store.toStore u → SameSubscriber spelling u.phone →
        samePassword password u.hashed_password = .ok true →
        AuthenticatedAs samePassword s.store.toStore u spelling password := by
  obtain ⟨s, hs, hstore⟩ := Reaches.of_moves (Y := directorySystem) (ρ := {}) { store := {} }
    (creation "0700000001") id (directory "0700000001") (by decide +kernel) (by decide +kernel)
  rw [id] at hstore
  constructor
  · intro h
    have hdistinct := h s hs
    rw [hstore] at hdistinct
    exact absurd hdistinct (by decide +kernel)
  · intro h
    have hlogin := h s hs owner "+254700000001" "password"
    rw [hstore] at hlogin
    have howner := hlogin (eligible_owner _) (by decide +kernel) rfl {}
    exact absurd howner (by decide +kernel)

end PhoneLogin

end FrixelConnect
