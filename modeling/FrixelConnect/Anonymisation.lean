import FrixelConnect.PhoneLogin
import FrixelConnect.RefreshTokens

/-!
# Anonymised accounts

A customer who leaves gets another email and phone, made of the id, and a text that is no hash as
password. The payments keep the phone that they were made with.

## Implementation notes

The three statements of an erasure take effect one by one. `bcrypt.checkpw` is a parameter; it
raises a `ValueError` for a text that is no hash.
-/

namespace FrixelConnect

open Python Interleaving

/-- The registry with the refresh tokens. -/
structure Accounts extends Registry where
  refresh_tokens : List RefreshToken := []

/-- The statements of the application, and those of the pages about the caller's own account. -/
inductive AccountStmt where
  | base (s : DirectoryStmt)
  | revoke_refresh_tokens (user_id : UUID)
  | select_wallet_reference (reseller_id tenant_id : UUID)
  | select_wallet_transactions (reseller_id tenant_id : UUID) (limit : ℕ)

namespace AccountStmt

abbrev Res : AccountStmt → Type
  | .base s => s.Res
  | .revoke_refresh_tokens _ => Unit
  | .select_wallet_reference _ _ => Option String
  | .select_wallet_transactions _ _ _ => List WalletTransaction

def inTx : AccountStmt → Bool
  | .base s => s.inTx
  | _ => true

def locks : AccountStmt → List RegistrationKey
  | .base s => s.locks
  | _ => []

/-- What a statement answers and the accounts after it, or what it raises. -/
def eval (v : Env) (d : Accounts) : (s : AccountStmt) → Except Exn (s.Res × Accounts)
  | .base s => (s.eval v d.toRegistry).map fun r => (r.1, { d with toRegistry := r.2 })
  | .revoke_refresh_tokens user_id =>
      let refresh_tokens := updateRows (fun r => r.user_id == user_id)
        (fun r => { r with revoked := true }) d.refresh_tokens
      pure ((), { d with refresh_tokens })
  | .select_wallet_reference reseller_id tenant_id =>
      pure ((fetchrow v.pick (fun r => r.id == reseller_id && r.tenant_id == tenant_id)
        d.users).bind (·.wallet_reference), d)
  | .select_wallet_transactions reseller_id tenant_id limit =>
      pure (((d.ledger reseller_id tenant_id).mergeSort fun w w' =>
        decide (w'.sequence_id ≤ w.sequence_id)).take limit, d)

/-- A statement that raises leaves the accounts as they were. -/
def exec (s : AccountStmt) (v : Env) (d : Accounts) : Except Exn s.Res × Accounts :=
  match s.eval v d with
  | .ok r => (.ok r.1, r.2)
  | .error e => (.error e, d)

end AccountStmt

abbrev AccountM := Prog AccountStmt AccountStmt.Res Frame Exn

def accountMachine : Machine AccountStmt AccountStmt.Res Exn Accounts Env RegistrationKey where
  exec := AccountStmt.exec
  inTx := AccountStmt.inTx
  locks := AccountStmt.locks
  aborted := .inFailedTransaction

def anon_email (user_id : UUID) : String := "deleted-" ++ str user_id ++ "@anonymized.local"

def anon_phone (user_id : UUID) : String := "del-" ++ front 8 (str user_id)

/-- The columns that an erasure sets. -/
def anonymous (user_id : UUID) : UserChanges where
  email := some (some (anon_email user_id))
  phone := some (some (anon_phone user_id))
  hashed_password := some "DELETED"
  is_active := some (some false)

def anonymize_customer (tenant_id user_id : UUID) : AccountM Unit := do
  let user ← Prog.exec (AccountStmt.base (.base (.app (.select_contact user_id tenant_id))))
  match user with
  | none => throw (.notFound "User" (str user_id))
  | some _ => do
      let _ ← Prog.exec (AccountStmt.base (.update_user (anonymous user_id) user_id tenant_id))
      Prog.exec (AccountStmt.revoke_refresh_tokens user_id)

namespace Anonymisation

/-- `WHERE id = $3 AND tenant_id = $4` -/
def own (u w : User) : Bool := w.id == u.id && w.tenant_id == u.tenant_id

/-- The accounts after the erasure of the user. -/
def erased (d : Accounts) (u : User) : Accounts :=
  { d with
    users := updateRows (own u) (anonymous u.id).set d.users
    refresh_tokens := updateRows (fun r => r.user_id == u.id) (fun r => { r with revoked := true })
      d.refresh_tokens }

/-- No user and no payment of the tenant has the email or the phone of the user. -/
def Erased (u : User) (d : Accounts) : Prop :=
  (∀ w ∈ d.users, w.tenant_id = u.tenant_id → w.email ≠ u.email ∧ w.phone ≠ u.phone) ∧
    ∀ p ∈ d.payments, p.tenant_id = u.tenant_id → p.phone_number ≠ u.phone

variable (verify_password : String → String → Except Exn Bool)

/-- Every login that finds the row of the user is refused. -/
def Refused (u : User) (d : Accounts) : Prop :=
  ∀ (v : Env) (email password : String) (w : User) (status : TenantStatus),
    (Stmt.select_account (login_variants email)).eval v d.toStore =
      .ok (some (w, status), d.toStore) → w.id = u.id →
    ∃ detail, PhoneLogin.login verify_password v d.toStore email password =
      .error (.unauthorised detail)

/-- The database answers every statement. -/
def Answers (fate : Solo.Fate AccountStmt Exn Env) : Prop := ∀ s, ∃ v, fate.stmt s = .run v

/-- The erasure goes through, it leaves no contact of the user, and logins are refused. -/
def Complete (d : Accounts) (u : User) : Prop :=
  ∀ fate, Answers fate → ∃ d' l,
    Solo.outcome accountMachine fate (anonymize_customer u.tenant_id u.id) d {} = (.ok (), d', l) ∧
      Erased u d' ∧ Refused verify_password u d'

/-- Another user has the email or the phone that the erasure sets. -/
def Collides (d : Accounts) (u : User) : Prop :=
  ∃ w ∈ d.users, own u w = false ∧ (w.email = anon_email u.id ∨ w.phone = anon_phone u.id)

section Texts

variable (id : UUID)

theorem length_str : (str id).toList.length = 36 := by
  rw [str, String.toList_ofList]
  rfl

theorem nul_not_mem_str : Char.ofNat 0 ∉ (str id).toList := by
  rw [str, String.toList_ofList]
  intro h
  rcases UUID.mem_str h with h | h
  · cases h
  · exact absurd h (by decide)

theorem textParam_fits {limit : ℕ} {s : String} (hnul : Char.ofNat 0 ∉ s.toList)
    (hlimit : s.toList.length ≤ limit) : textParam (some limit) (.str s) = .ok (some s) := by
  rw [String.length_toList] at hlimit
  simp [textParam, check, hnul, hlimit, bind, Except.bind, pure, Except.pure]

theorem nul_not_mem_email : Char.ofNat 0 ∉ (anon_email id).toList := by
  rw [anon_email, String.toList_append, String.toList_append, List.mem_append, List.mem_append]
  rintro ((h | h) | h)
  · exact absurd h (by decide)
  · exact nul_not_mem_str id h
  · exact absurd h (by decide)

theorem email_fits : textParam (some 255) (.str (anon_email id)) = .ok (some (anon_email id)) := by
  apply textParam_fits (nul_not_mem_email id)
  rw [anon_email, String.toList_append, String.toList_append, List.length_append,
    List.length_append, length_str]
  decide

theorem phone_fits : textParam (some 20) (.str (anon_phone id)) = .ok (some (anon_phone id)) := by
  have hfront : (front 8 (str id)).toList = (str id).toList.take 8 := by
    rw [front, String.toList_ofList]
  apply textParam_fits
  · rw [anon_phone, String.toList_append, hfront, List.mem_append]
    rintro (h | h)
    · exact absurd h (by decide)
    · exact nul_not_mem_str id (List.mem_of_mem_take h)
  · rw [anon_phone, String.toList_append, hfront, List.length_append, List.length_take, length_str]
    decide

end Texts

section Erasure

variable {d d' : Accounts} {u : User} {v : Env}

theorem exec_eq_settle (s : AccountStmt) (v : Env) (d : Accounts) :
    s.exec v d = settle (s.eval v d) d := by
  rw [AccountStmt.exec]
  cases s.eval v d with
  | ok r => rfl
  | error e => rfl

theorem exec_eq_ok {s : AccountStmt} {a : s.Res} :
    s.exec v d = (.ok a, d') ↔ s.eval v d = .ok (a, d') := by
  rw [exec_eq_settle, settle_eq_ok]

theorem exec_of_ok {s : AccountStmt} {a : s.Res} (h : s.eval v d = .ok (a, d')) :
    s.exec v d = (.ok a, d') := exec_eq_ok.mpr h

theorem exec_of_error {s : AccountStmt} {e : Exn} (h : s.eval v d = .error e) :
    s.exec v d = (.error e, d) := by
  rw [exec_eq_settle, settle_eq_error]
  exact h

theorem own_self : own u u = true := by simp [own]

/-- The row that the erasure looks up. -/
theorem select_own (hu : u ∈ d.users) : ∃ w,
    (AccountStmt.base (.base (.app (.select_contact u.id u.tenant_id)))).exec v d =
      (.ok (some w), d) := by
  cases h : fetchrow v.pick (own u) d.users with
  | none => exact absurd own_self (fetchrow_eq_none.mp h u hu)
  | some w => exact ⟨w, exec_of_ok (congrArg (fun o => Except.ok (o, d)) h)⟩

/-- The checks of the erasure on the two unique constraints, and its effect. -/
def constrained (d : Accounts) (u : User) (pick : ℕ) : Except Exn (Option User × Registry) := do
  check (d.users.all fun r => own u r || r.email != anon_email u.id)
    (.uniqueViolation .users_email_unique)
  check (d.users.all fun r => own u r || r.phone != anon_phone u.id)
    (.uniqueViolation .users_phone_unique)
  let users := updateRows (own u) (anonymous u.id).set d.users
  pure (fetchrow pick (own u) users, { d.toRegistry with users })

theorem eval_update (hu : u ∈ d.users) :
    (DirectoryStmt.update_user (anonymous u.id) u.id u.tenant_id).eval v d.toRegistry =
      constrained d u v.pick := by
  have hany : d.users.any (own u) = true := List.any_eq_true.mpr ⟨u, hu, own_self⟩
  have hsteps : (DirectoryStmt.update_user (anonymous u.id) u.id u.tenant_id).eval v
      d.toRegistry = (do
    let _ ← textParam (some 255) (.str (anon_email u.id))
    let _ ← textParam (some 20) (.str (anon_phone u.id))
    check (!d.users.any (own u) || true) (.database "null value violates not-null constraint")
    check (!d.users.any (own u) || d.users.all fun r => own u r || r.email != anon_email u.id)
      (.uniqueViolation .users_email_unique)
    check (!d.users.any (own u) || d.users.all fun r => own u r || r.phone != anon_phone u.id)
      (.uniqueViolation .users_phone_unique)
    check (!d.users.any (own u) || true) (.database "users_reseller_id_fkey")
    let users := updateRows (own u) (anonymous u.id).set d.users
    pure (fetchrow v.pick (own u) users, { d.toRegistry with users })) := rfl
  rw [hsteps, email_fits, phone_fits, hany]
  rfl

/-- The update goes through unless another user has one of the new contacts. -/
theorem update_own (hu : u ∈ d.users) : (∃ row,
      (AccountStmt.base (.update_user (anonymous u.id) u.id u.tenant_id)).exec v d = (.ok row,
        { d with users := updateRows (own u) (anonymous u.id).set d.users })) ∧
      ¬ Collides d u ∨
    (∃ e, (AccountStmt.base (.update_user (anonymous u.id) u.id u.tenant_id)).exec v d =
      (.error e, d)) ∧ Collides d u := by
  cases hemail : d.users.all fun r => own u r || r.email != anon_email u.id with
  | false =>
      right
      constructor
      · refine ⟨.uniqueViolation .users_email_unique, exec_of_error ?_⟩
        rw [AccountStmt.eval, eval_update hu, constrained, hemail]
        rfl
      · obtain ⟨w, hw, hfound⟩ := List.all_eq_false.mp hemail
        obtain ⟨hown, hsame⟩ : own u w = false ∧ w.email = anon_email u.id := by simpa using hfound
        exact ⟨w, hw, hown, .inl hsame⟩
  | true =>
      cases hphone : d.users.all fun r => own u r || r.phone != anon_phone u.id with
      | false =>
          right
          constructor
          · refine ⟨.uniqueViolation .users_phone_unique, exec_of_error ?_⟩
            rw [AccountStmt.eval, eval_update hu, constrained, hemail, hphone]
            rfl
          · obtain ⟨w, hw, hfound⟩ := List.all_eq_false.mp hphone
            obtain ⟨hown, hsame⟩ : own u w = false ∧ w.phone = anon_phone u.id := by
              simpa using hfound
            exact ⟨w, hw, hown, .inr hsame⟩
      | true =>
          left
          constructor
          · refine ⟨fetchrow v.pick (own u) (updateRows (own u) (anonymous u.id).set d.users),
              exec_of_ok ?_⟩
            rw [AccountStmt.eval, eval_update hu, constrained, hemail, hphone]
            rfl
          · rintro ⟨w, hw, hown, h | h⟩
            · simpa [hown, h] using List.all_eq_true.mp hemail w hw
            · simpa [hown, h] using List.all_eq_true.mp hphone w hw

/-- An erasure ends well if and only if no other user has one of the new contacts. -/
theorem outcome_anonymize {fate : Solo.Fate AccountStmt Exn Env} (hfate : Answers fate)
    (hu : u ∈ d.users) :
    Solo.outcome accountMachine fate (anonymize_customer u.tenant_id u.id) d {} =
        (.ok (), erased d u, {}) ∧ ¬ Collides d u ∨
      (∃ e, Solo.outcome accountMachine fate (anonymize_customer u.tenant_id u.id) d {} =
        (.error e, d, {})) ∧ Collides d u := by
  have hdirect (s : AccountStmt) (d : Accounts) :
      ∃ v, accountMachine.direct s (fate.stmt s) d = s.exec v d := by
    obtain ⟨v, hv⟩ := hfate s
    exact ⟨v, by rw [hv]; rfl⟩
  obtain ⟨v, hselect⟩ := hdirect (.base (.base (.app (.select_contact u.id u.tenant_id)))) d
  obtain ⟨w, hw⟩ := select_own (v := v) hu
  obtain ⟨v', hupdate⟩ := hdirect (.base (.update_user (anonymous u.id) u.id u.tenant_id)) d
  rw [anonymize_customer, Solo.outcome_exec_bind rfl (hselect.trans hw)]
  rcases update_own (v := v') hu with ⟨⟨row, hrow⟩, hfree⟩ | ⟨⟨e, he⟩, htaken⟩
  · left
    refine ⟨?_, hfree⟩
    obtain ⟨v'', hrevoke⟩ := hdirect (.revoke_refresh_tokens u.id)
      { d with users := updateRows (own u) (anonymous u.id).set d.users }
    rw [Solo.outcome_exec_bind rfl (hupdate.trans hrow), Solo.outcome_exec rfl hrevoke]
    rfl
  · right
    refine ⟨⟨e, ?_⟩, htaken⟩
    rw [Solo.outcome_exec_bind_error rfl (hupdate.trans he)]

/-- An erasure that goes through leaves no contact of the user if and only if the tenant has no
payment from the phone, and the user did not have the new contacts before. -/
theorem erased_iff (hu : u ∈ d.users)
    (hunique : ∀ w ∈ d.users, w.email = u.email ∨ w.phone = u.phone → own u w = true) :
    Erased u (erased d u) ↔ u.email ≠ anon_email u.id ∧ u.phone ≠ anon_phone u.id ∧
      ∀ p ∈ d.payments, p.tenant_id = u.tenant_id → p.phone_number ≠ u.phone := by
  constructor
  · rintro ⟨husers, hpayments⟩
    have hrow : (anonymous u.id).set u ∈ (erased d u).users :=
      List.mem_map.mpr ⟨u, hu, if_pos own_self⟩
    obtain ⟨hemail, hphone⟩ := husers _ hrow rfl
    exact ⟨hemail.symm, hphone.symm, hpayments⟩
  · rintro ⟨hemail, hphone, hpayments⟩
    refine ⟨fun w hw _ => ?_, hpayments⟩
    obtain ⟨r, hr, rfl⟩ := List.mem_map.mp hw
    by_cases hown : own u r = true
    · rw [if_pos hown]
      exact ⟨hemail.symm, hphone.symm⟩
    · rw [if_neg hown]
      constructor
      · exact fun h => hown (hunique r hr (.inl h))
      · exact fun h => hown (hunique r hr (.inr h))

/-- The new email has no spaces. -/
theorem visible {id : UUID} {c : Char} (h : c ∈ (anon_email id).toList) : isSpace c = false := by
  rw [anon_email, String.toList_append, String.toList_append, List.mem_append, List.mem_append] at h
  have hletters (s : List Char) (hs : (s.all fun c => !isSpace c) = true) (hc : c ∈ s) :
      isSpace c = false := by
    simpa using List.all_eq_true.mp hs c hc
  rcases h with (h | h) | h
  · exact hletters _ (by decide) h
  · rw [str, String.toList_ofList] at h
    rcases UUID.mem_str h with rfl | h
    · decide
    · exact hletters _ (by decide) h
  · exact hletters _ (by decide) h

/-- A login under the new email looks for this text alone. -/
theorem login_variants_anonymous (id : UUID) :
    login_variants (anon_email id) = [anon_email id] := by
  have hat : '@' ∈ (anon_email id).toList.filter (· != '+') := by
    refine List.mem_filter.mpr ⟨?_, by decide⟩
    rw [anon_email, String.toList_append]
    exact List.mem_append_right _ (by decide)
  have hdigits : isDigits ((strip (anon_email id).toList).filter (· != '+')) = false := by
    rw [strip_eq_self fun c hc => visible hc]
    by_contra h
    rw [Bool.not_eq_false, Phone.isDigits_iff] at h
    exact absurd (h.2 '@' hat) (by decide +kernel)
  rw [login_variants, if_pos hdigits]

/-- The login under the new email can find the row. -/
theorem select_anonymous {t : Tenant} (hu : u ∈ d.users) (ht : t ∈ d.tenants)
    (htenant : t.id = u.tenant_id) : ∃ v : Env,
    (Stmt.select_account (login_variants (anon_email u.id))).eval v (erased d u).toStore =
      .ok (some ((anonymous u.id).set u, t.status), (erased d u).toStore) := by
  have hrow : (anonymous u.id).set u ∈ (erased d u).users :=
    List.mem_map.mpr ⟨u, hu, if_pos own_self⟩
  have hjoined : ((anonymous u.id).set u, t.status) ∈ PhoneLogin.joined (erased d u).toStore :=
    PhoneLogin.mem_joined.mpr ⟨hrow, t, ht, htenant, rfl⟩
  have hhit : (([anon_email u.id]).contains ((anonymous u.id).set u).email ||
      ([anon_email u.id]).contains ((anonymous u.id).set u).phone) = true := by
    rw [Bool.or_eq_true]
    left
    exact List.contains_iff_mem.mpr List.mem_cons_self
  obtain ⟨pick, hpick⟩ := PhoneLogin.exists_fetchrow (p := fun r : User × TenantStatus =>
    [anon_email u.id].contains r.1.email || [anon_email u.id].contains r.1.phone) hjoined hhit
  refine ⟨{ pick }, ?_⟩
  have hparams : [anon_email u.id].mapM (fun s => textParam none (.str s)) =
      .ok [some (anon_email u.id)] := by
    simp [textParam, check, nul_not_mem_email, bind, Except.bind, pure, Except.pure]
  rw [login_variants_anonymous, Stmt.eval, hparams]
  exact congrArg (fun o => Except.ok (o, (erased d u).toStore)) hpick

/-- A login that finds the row raises what `bcrypt` raises. -/
theorem login_raises {verify_password : String → String → Except Exn Bool} {email password : String}
    {w : User} {status : TenantStatus} {e : Exn} {d : Store}
    (hselect : (Stmt.select_account (login_variants email)).eval v d = .ok (some (w, status), d))
    (hbcrypt : verify_password password w.hashed_password = .error e) :
    PhoneLogin.login verify_password v d email password = .error e := by
  have hx : machine.direct (.select_account (login_variants email)) (.run v) d =
      (.ok (some (w, status)), d) := Stmt.exec_eq_ok.mpr hselect
  rw [PhoneLogin.login, authenticate_user, Solo.outcome_exec_bind rfl hx]
  simp only [Option.map_some, Option.getD_some, hbcrypt]
  rfl

end Erasure

/-- No erasure is complete: it is refused, or it leaves a row on which every login that finds it
raises the error of `bcrypt`. -/
theorem never_complete {verify_password : String → String → Except Exn Bool} {d : Accounts}
    {u : User} {t : Tenant}
    (hbcrypt : ∀ password, ∃ message, verify_password password "DELETED" =
      .error (.valueError message))
    (hu : u ∈ d.users) (ht : t ∈ d.tenants) (htenant : t.id = u.tenant_id) :
    ¬ Complete verify_password d u := by
  intro h
  have hfate : Answers { stmt := fun _ => .run {}, commit := .run {} } := fun _ => ⟨{}, rfl⟩
  obtain ⟨d', l, hrun, -, hrefused⟩ := h _ hfate
  rcases outcome_anonymize hfate hu with ⟨hok, -⟩ | ⟨⟨e, he⟩, -⟩
  · rw [hok] at hrun
    cases hrun
    obtain ⟨v, hselect⟩ := select_anonymous hu ht htenant
    obtain ⟨message, hraises⟩ := hbcrypt ""
    obtain ⟨detail, hdetail⟩ := hrefused v _ "" _ _ hselect rfl
    rw [login_raises hselect hraises] at hdetail
    cases hdetail
  · rw [he] at hrun
    cases hrun

/-- `bcrypt.checkpw`, where a hash fits every password. -/
def anyPassword (_ hashed : String) : Except Exn Bool :=
  if "$2".toList.isPrefixOf hashed.toList then .ok true else .error (.valueError "Invalid salt")

def aCustomer : User where
  id := 2
  email := "c@example.com"
  phone := "254700000002"
  hashed_password := "$2b$12$"
  tenant_id := 1

def aTenant : Tenant where
  id := 1
  owner_phone := "254700000001"
  next_billing_date := 0

/-- The customer has paid from the own phone. -/
def someAccounts : Accounts := {
  tenants := [aTenant]
  users := [aCustomer]
  payments := [{
    id := 3, tenant_id := 1, amount_kes := .units ⟨1000, Money.fits_1000⟩, phone_number := "254700000002"
    created_at := 0, updated_at := 0, customer_id := 2, package_id := 4 }] }

theorem never_complete_customer : ¬ Complete anyPassword someAccounts aCustomer :=
  never_complete (t := aTenant) (fun _ => ⟨"Invalid salt", rfl⟩) (by decide) (by decide) rfl

/-- The payment of the customer keeps the phone. -/
theorem not_complete : ¬ ∀ (d : Accounts) (u : User), u ∈ d.users → Complete anyPassword d u := by
  intro h
  have hu : aCustomer ∈ someAccounts.users := by decide
  have hfate : Answers { stmt := fun _ => .run {}, commit := .run {} } := fun _ => ⟨{}, rfl⟩
  obtain ⟨d', l, hrun, hleft, -⟩ := h someAccounts aCustomer hu _ hfate
  rcases outcome_anonymize hfate hu with ⟨hok, -⟩ | ⟨⟨e, he⟩, -⟩
  · rw [hok] at hrun
    cases hrun
    exact hleft.2 _ List.mem_cons_self rfl rfl
  · rw [he] at hrun
    cases hrun

end Anonymisation

end FrixelConnect
