import FrixelConnect.Anonymisation
import FrixelConnect.Webhooks

/-!
# Wallet references

A payment to the wallet of a reseller names the reference of the reseller. The registration of a
reseller draws one, the wallet page shows it, and the callback of the payment looks it up.

## Implementation notes

The accounts start empty. `generate_voucher_code(5)` gives the codes that a registration is called
with.
-/

namespace FrixelConnect

open Decimals Python Interleaving

/-- The body of `POST /admin/resellers`. -/
structure AdminResellerCreate where
  email : String
  phone : String
  password : String

/-- The call that `create_reseller_admin` makes. -/
def AdminResellerCreate.call (data : AdminResellerCreate) : AccountCall :=
  .admin_create_user {
    email := data.email, phone := data.phone, password := data.password, role := .reseller
    reseller_id := none }

structure WalletResponse where
  balance : Decimal
  transactions : List WalletTransaction
  paybill_number : String
  wallet_reference : String

/-- `wallet_ref or "WS00000"` -/
def shown_reference : Option String → String
  | some wallet_ref => if wallet_ref = "" then "WS00000" else wallet_ref
  | none => "WS00000"

def get_my_wallet (shortcode : String) (reseller_id tenant_id : UUID) : AccountM WalletResponse := do
  let balance ← Prog.embed (fun s => AccountStmt.base (.base (.app s)))
    (get_wallet_balance reseller_id tenant_id)
  let transactions ← Prog.exec (AccountStmt.select_wallet_transactions reseller_id tenant_id 20)
  let wallet_ref ← Prog.exec (AccountStmt.select_wallet_reference reseller_id tenant_id)
  return { balance, transactions, paybill_number := shortcode
           wallet_reference := shown_reference wallet_ref }

/-- The processes of the application with the erasures. -/
inductive WalletSpawn where
  | base (w : DirectorySpawn)
  | anonymize_customer (tenant_id user_id : UUID)

def WalletSpawn.start (w : WalletSpawn) (d : Accounts) : Option (Accounts × AccountM Unit) :=
  match w with
  | .base w => (w.start d.toRegistry).map fun r =>
      ({ d with toRegistry := r.1 }, Prog.embed AccountStmt.base r.2)
  | .anonymize_customer tenant_id user_id =>
      some (d, FrixelConnect.anonymize_customer tenant_id user_id)

def walletSystem : System AccountStmt AccountStmt.Res Frame Exn Accounts Env RegistrationKey Unit
    WalletSpawn :=
  { accountMachine with start := WalletSpawn.start }

abbrev WalletState := State AccountStmt AccountStmt.Res Frame Exn Accounts Env Unit
abbrev WalletRules := Rules AccountStmt Exn Accounts Env WalletSpawn
abbrev WalletLabel := Label Exn Accounts Env WalletSpawn

namespace WalletReferences

open Anonymisation

/-- A text that a registration can draw. -/
def IsReference (w : String) : Prop :=
  w.toList.take 2 = "WS".toList ∧ w.toList.length = 7 ∧
    ∀ c ∈ w.toList.drop 2, c ∈ VOUCHER_ALPHABET.toList

instance (w : String) : Decidable (IsReference w) :=
  have := List.decidableBAll (fun c => c ∈ VOUCHER_ALPHABET.toList) (w.toList.drop 2)
  inferInstanceAs (Decidable (_ ∧ _ ∧ _))

/-- The reference in any letter case, with white space around it. -/
def Spells (ref w : String) : Prop :=
  ∃ front body back, ref.toList = front ++ body ++ back ∧ upper body = w.toList ∧
    (∀ c ∈ front, isSpace c = true) ∧ ∀ c ∈ back, isSpace c = true

/-- The wallet page of the user shows the reference. -/
def Shows (shortcode : String) (d : Accounts) (u : User) (w : String) : Prop :=
  ∀ fate, Answers fate → ∃ response,
    Solo.outcome accountMachine fate (get_my_wallet shortcode u.id u.tenant_id) d {} =
      (.ok response, d, {}) ∧ response.wallet_reference = w

/-- The callback looks the text up and finds the user. -/
def Resolves (d : Accounts) (ref : String) (u : User) : Prop :=
  ∃ name, normalise_bill_ref (.str ref) = pure name ∧
    ∀ v : Env, (Stmt.select_reseller name).eval v d.toStore = .ok (some u, d.toStore)

/-- The user has a reference that nobody else has, that the wallet page shows, and under which
the callback finds the user. -/
def Payable (shortcode : String) (d : Accounts) (u : User) : Prop :=
  ∃ w, u.wallet_reference = some w ∧ (∀ u' ∈ d.users, u'.wallet_reference = some w → u' = u) ∧
    Shows shortcode d u w ∧ ∀ ref, Spells ref w → Resolves d ref u

/-- A reference that is written has been drawn. -/
def isDrawn : AccountStmt → Bool
  | .base (.base (.app (.insert_user _ _ _ _ _ _ (some w)))) => decide (IsReference w)
  | _ => true

/-- The statement makes nobody a reseller who has no reference. -/
def assigns (d : Accounts) : AccountStmt → Bool
  | .base (.base (.app (.insert_user _ _ _ role _ _ wallet_reference))) =>
      role != .reseller || wallet_reference.isSome
  | .base (.update_user changes user_id tenant_id) =>
      changes.role.join != some .reseller || d.users.all fun u =>
        !(u.id == user_id && u.tenant_id == tenant_id) || u.wallet_reference.isSome
  | _ => true

def drawn : WalletRules where
  stmt s _ _ := isDrawn s = true

def assigned : WalletRules where
  stmt s _ d := isDrawn s = true ∧ assigns d s = true

/-- Every reseller can be paid in every reachable state. -/
def EveryReseller (shortcode : String) : Prop :=
  ∀ s : WalletState, Reaches walletSystem drawn { store := {} } s →
    ∀ u ∈ s.store.users, u.role = .reseller → Payable shortcode s.store u

/-- The ids and the references are unique, and the resellers have one. -/
structure Referenced (users : List User) : Prop where
  ids : (users.map (·.id)).Nodup
  shape : ∀ u ∈ users, ∀ w, u.wallet_reference = some w → IsReference w
  unique : ∀ u ∈ users, ∀ u' ∈ users, ∀ w, u.wallet_reference = some w →
    u'.wallet_reference = some w → u.id = u'.id
  resellers : ∀ u ∈ users, u.role = .reseller → u.wallet_reference ≠ none

section Users

variable {users : List User}

theorem Referenced.concat (h : Referenced users) {row : User} (hid : ∀ u ∈ users, u.id ≠ row.id)
    (hshape : ∀ w, row.wallet_reference = some w → IsReference w)
    (hunique : ∀ w, row.wallet_reference = some w → ∀ u ∈ users, u.wallet_reference ≠ some w)
    (hrole : row.role = .reseller → row.wallet_reference ≠ none) : Referenced (users ++ [row]) where
  ids := nodup_map_concat _ h.ids hid
  shape u hu := by
    rcases List.mem_append.mp hu with hu | hu
    · exact h.shape u hu
    · rw [List.mem_singleton.mp hu]
      exact hshape
  unique u hu u' hu' w hw hw' := by
    rcases List.mem_append.mp hu with hu | hu
    · rcases List.mem_append.mp hu' with hu' | hu'
      · exact h.unique u hu u' hu' w hw hw'
      · rw [List.mem_singleton.mp hu'] at hw'
        exact absurd hw (hunique w hw' u hu)
    · rw [List.mem_singleton.mp hu] at hw ⊢
      rcases List.mem_append.mp hu' with hu' | hu'
      · exact absurd hw' (hunique w hw u' hu')
      · rw [List.mem_singleton.mp hu']
  resellers u hu := by
    rcases List.mem_append.mp hu with hu | hu
    · exact h.resellers u hu
    · rw [List.mem_singleton.mp hu]
      exact hrole

/-- A change of rows that keeps their references and makes nobody without one a reseller. -/
theorem Referenced.update (h : Referenced users) {p : User → Bool} {f : User → User}
    (hid : ∀ u, (f u).id = u.id) (hwallet : ∀ u, (f u).wallet_reference = u.wallet_reference)
    (hrole : ∀ u ∈ users, p u = true → (f u).role = .reseller → u.wallet_reference ≠ none) :
    Referenced (updateRows p f users) := by
  have hrow (u' : User) (hu' : u' ∈ updateRows p f users) : ∃ u ∈ users, u'.id = u.id ∧
      u'.wallet_reference = u.wallet_reference ∧
      (u'.role = .reseller → u.wallet_reference ≠ none) := by
    obtain ⟨u, hu, rfl⟩ := List.mem_map.mp hu'
    by_cases hp : p u = true
    · rw [if_pos hp]
      exact ⟨u, hu, hid u, hwallet u, hrole u hu hp⟩
    · rw [if_neg hp]
      exact ⟨u, hu, rfl, rfl, h.resellers u hu⟩
  constructor
  · exact nodup_updateRows _ hid h.ids
  · intro u' hu' w hw
    obtain ⟨u, hu, -, hsame, -⟩ := hrow u' hu'
    exact h.shape u hu w (hsame ▸ hw)
  · intro u' hu' u'' hu'' w hw hw'
    obtain ⟨u, hu, hid, hsame, -⟩ := hrow u' hu'
    obtain ⟨x, hx, hid', hsame', -⟩ := hrow u'' hu''
    rw [hid, hid']
    exact h.unique u hu x hx w (hsame ▸ hw) (hsame' ▸ hw')
  · intro u' hu' hreseller
    obtain ⟨u, hu, -, hsame, hnone⟩ := hrow u' hu'
    rw [hsame]
    exact hnone hreseller

end Users

section Steps

variable {v : Env}

/-- A statement of the application keeps the references. -/
theorem referenced_app {s : Stmt} {a : s.Res} {d d' : Store} (h : s.eval v d = .ok (a, d'))
    (hdrawn : isDrawn (.base (.base (.app s))) = true)
    (hassigns : assigns {} (.base (.base (.app s))) = true) (hd : Referenced d.users) :
    Referenced d'.users := by
  cases Stmt.onUsers h with
  | insert_guest email phone hashed_password tenant_id hid =>
      exact hd.concat hid (fun _ h => by cases h) (fun _ h => by cases h) fun h => by cases h
  | insert_user email phone hashed_password role reseller_id tenant_id wallet_reference hid _ _
      hwallet =>
      refine hd.concat hid (fun w hw => ?_) (fun w hw => hwallet w hw) fun hrole => ?_
      · change wallet_reference = some w at hw
        subst hw
        exact of_decide_eq_true hdrawn
      · change role = .reseller at hrole
        change wallet_reference ≠ none
        rw [hrole] at hassigns
        exact Option.isSome_iff_ne_none.mp hassigns
  | set_hashed_password hashed_password id tenant_id =>
      exact hd.update (fun _ => rfl) (fun _ => rfl) fun u hu _ => hd.resellers u hu
  | set_contact c value id tenant_id =>
      cases c with
      | email => exact hd.update (fun _ => rfl) (fun _ => rfl) fun u hu _ => hd.resellers u hu
      | phone => exact hd.update (fun _ => rfl) (fun _ => rfl) fun u hu _ => hd.resellers u hu
  | other hsame => rwa [hsame]

theorem map_eq_ok {s : DirectoryStmt} {x : Except Exn (s.Res × Registry)} {a : s.Res}
    {d d' : Accounts} (h : (x.map fun r => (r.1, { d with toRegistry := r.2 })) = .ok (a, d')) :
    ∃ d₁, x = .ok (a, d₁) ∧ d' = { d with toRegistry := d₁ } := by
  cases x with
  | error e => cases h
  | ok r =>
      obtain ⟨b, d₁⟩ := r
      cases h
      exact ⟨d₁, rfl, rfl⟩

/-- Every statement that assigns a reference to each reseller keeps the references. -/
theorem referenced_step {s : AccountStmt} {a : s.Res} {d d' : Accounts}
    (h : s.eval v d = .ok (a, d')) (hdrawn : isDrawn s = true) (hassigns : assigns d s = true)
    (hd : Referenced d.users) : Referenced d'.users := by
  cases s with
  | base s =>
      obtain ⟨d₁, hs, rfl⟩ := map_eq_ok h
      cases s with
      | base s =>
          cases s with
          | app s =>
              obtain ⟨d₂, happ, rfl⟩ := TenantRegistration.map_eq_ok hs
              have hassigns : assigns {} (.base (.base (.app s))) = true := by
                cases s <;> exact hassigns
              exact referenced_app happ hdrawn hassigns hd
          | insert_admin email phone hashed_password tenant_id =>
              obtain ⟨d₂, happ, rfl⟩ := TenantRegistration.map_eq_ok hs
              exact referenced_app happ rfl rfl hd
          | insert_tenant business_name owner_email owner_phone subscription_tier max_customers =>
              simp only [DirectoryStmt.eval, RegistrationStmt.eval, Except.bind_eq_ok,
                check_eq_ok] at hs
              obtain ⟨_, -, _, -, _, -, _, -, _, -, _, -, hrow⟩ := hs
              cases hrow
              exact hd
          | hash_password password =>
              cases hs
              exact hd
          | _ =>
              simp only [DirectoryStmt.eval, RegistrationStmt.eval, Except.bind_eq_ok, pure,
                Except.pure, Except.ok.injEq, Prod.mk.injEq] at hs
              obtain ⟨_, -, -, rfl⟩ := hs
              exact hd
      | update_user changes user_id tenant_id =>
          simp only [DirectoryStmt.eval, Except.bind_eq_ok, check_eq_ok] at hs
          obtain ⟨_, -, _, -, _, -, _, -, _, -, _, -, hrow⟩ := hs
          cases hrow
          refine hd.update (fun _ => rfl) (fun _ => rfl) fun u hu hp hreseller => ?_
          obtain ⟨hid, htenant⟩ : u.id = user_id ∧ u.tenant_id = tenant_id := by simpa using hp
          cases hrole : changes.role.join with
          | none =>
              apply hd.resellers u hu
              simpa [UserChanges.set, hrole] using hreseller
          | some role =>
              have hreseller : role = .reseller := by
                simpa [UserChanges.set, hrole] using hreseller
              simp only [assigns, hrole, hreseller, bne_self_eq_false, Bool.false_or,
                List.all_eq_true] at hassigns
              have hsome := hassigns u hu
              simp only [hid, htenant, BEq.rfl, Bool.and_self, Bool.not_true, Bool.false_or]
                at hsome
              exact Option.isSome_iff_ne_none.mp hsome
  | revoke_refresh_tokens user_id =>
      cases h
      exact hd
  | select_wallet_reference reseller_id tenant_id =>
      cases h
      exact hd
  | select_wallet_transactions reseller_id tenant_id limit =>
      cases h
      exact hd

theorem restores : accountMachine.Restores := .of_settle _ exec_eq_settle

/-- The references of the resellers along a run. -/
theorem referenced_rule : StoreRule walletSystem assigned (fun _ => True) fun d =>
    Referenced d.users where
  restores := restores
  start w d d' p _ hd hs := by
    refine ⟨?_, p.all_true⟩
    cases w with
    | base w =>
        obtain ⟨⟨d₁, q⟩, hstart, heq⟩ := Option.map_eq_some_iff.mp hs
        cases heq
        obtain ⟨-, husers⟩ := DirectorySpawn.start_same hstart
        exact husers ▸ hd
    | anonymize_customer tenant_id user_id =>
        cases hs
        exact hd
  edit d d' he := he.elim
  stmt s v d a d' _ hr hd hx := referenced_step (exec_eq_ok.mp hx) hr.1 hr.2 hd

end Steps

section Payments

variable {d : Accounts} {u : User} {w ref : String}

/-- The letters of a reference. -/
theorem mem_reference (h : IsReference w) {c : Char} (hc : c ∈ w.toList) :
    c ∈ "WS".toList ++ VOUCHER_ALPHABET.toList := by
  rw [← List.take_append_drop 2 w.toList, List.mem_append, h.1] at hc
  rw [List.mem_append]
  exact hc.imp id (h.2.2 c)

/-- The callback reads every spelling of a reference as the reference. -/
theorem normalised (h : IsReference w) (hspells : Spells ref w) :
    String.ofList (upper (strip ref.toList)) = w := by
  obtain ⟨front, body, back, htext, hbody, hfront, hback⟩ := hspells
  have hletters : (("WS".toList ++ VOUCHER_ALPHABET.toList).all fun c => !isSpace c) = true := by
    decide
  have hvisible (c : Char) (hc : c ∈ w.toList) : isSpace c = false := by
    simpa using List.all_eq_true.mp hletters c (mem_reference h hc)
  rw [htext, strip_append hfront hback, upper_strip, hbody, strip_eq_self hvisible,
    String.ofList_toList]

theorem reference_fits (h : IsReference w) : textParam none (.str w) = .ok (some w) := by
  have hnul : Char.ofNat 0 ∉ w.toList := fun hc => absurd (mem_reference h hc) (by decide)
  simp [textParam, check, hnul, bind, Except.bind, pure, Except.pure]

/-- A reseller with a reference is the only row that the callback can find under it. -/
theorem resolves (hd : Referenced d.users) (hu : u ∈ d.users) (hrole : u.role = .reseller)
    (hw : u.wallet_reference = some w) (hspells : Spells ref w) : Resolves d ref u := by
  have hshape := hd.shape u hu w hw
  refine ⟨_, rfl, fun v => ?_⟩
  rw [normalised hshape hspells, Stmt.eval, reference_fits hshape]
  have hfind : fetchrow v.pick (fun r => r.wallet_reference == some w && r.role == .reseller)
      d.users = some u := by
    apply fetchrow_unique hu
    · simp [hw, hrole]
    · intro r hr hmatch
      obtain ⟨hrw, -⟩ : r.wallet_reference = some w ∧ r.role = .reseller := by simpa using hmatch
      exact List.inj_on_of_nodup_map hd.ids hr hu (hd.unique r hr u hu w hrw hw)
  exact congrArg (fun o => Except.ok (o, d.toStore)) hfind

theorem shown_eq (h : IsReference w) : shown_reference (some w) = w := by
  rw [shown_reference, if_neg]
  rintro rfl
  cases h.1

/-- The wallet page shows the reference of the user. -/
theorem shows_reference (shortcode : String) (hd : Referenced d.users) (hu : u ∈ d.users)
    (hw : u.wallet_reference = some w) : Shows shortcode d u w := by
  intro fate hfate
  have hdirect (s : AccountStmt) :
      ∃ v, accountMachine.direct s (fate.stmt s) d = s.exec v d := by
    obtain ⟨v, hv⟩ := hfate s
    exact ⟨v, by rw [hv]; rfl⟩
  obtain ⟨v, hbalance⟩ := hdirect (.base (.base (.app (.select_balance u.id u.tenant_id))))
  obtain ⟨v', htransactions⟩ := hdirect (.select_wallet_transactions u.id u.tenant_id 20)
  obtain ⟨v'', hreference⟩ := hdirect (.select_wallet_reference u.id u.tenant_id)
  have hfind : fetchrow v''.pick (fun r => r.id == u.id && r.tenant_id == u.tenant_id) d.users =
      some u := by
    apply fetchrow_unique hu (by simp)
    intro r hr hmatch
    obtain ⟨hid, -⟩ : r.id = u.id ∧ r.tenant_id = u.tenant_id := by simpa using hmatch
    exact List.inj_on_of_nodup_map hd.ids hr hu hid
  have hreference : accountMachine.direct (.select_wallet_reference u.id u.tenant_id)
      (fate.stmt (.select_wallet_reference u.id u.tenant_id)) d = (.ok (some w), d) := by
    rw [hreference]
    apply exec_of_ok
    rw [AccountStmt.eval, hfind, Option.bind_some, hw]
    rfl
  have hread : ∃ balance, Solo.outcome accountMachine fate
      (Prog.embed (fun s => AccountStmt.base (.base (.app s)))
        (get_wallet_balance u.id u.tenant_id)) d {} = (.ok balance, d, {}) := by
    rw [get_wallet_balance, Prog.embed_bind, Prog.embed_exec,
      Solo.outcome_exec_bind rfl hbalance]
    exact ⟨_, rfl⟩
  obtain ⟨balance, hread⟩ := hread
  exact ⟨_, (Solo.outcome_bind_ok hread).trans ((Solo.outcome_exec_bind rfl htransactions).trans
    (Solo.outcome_exec_bind rfl hreference)), shown_eq (hd.shape u hu w hw)⟩

/-- A reseller with a reference can be paid. -/
theorem payable (shortcode : String) (hd : Referenced d.users) (hu : u ∈ d.users)
    (hrole : u.role = .reseller) : Payable shortcode d u := by
  obtain ⟨w, hw⟩ := Option.ne_none_iff_exists'.mp (hd.resellers u hu hrole)
  refine ⟨w, hw, fun u' hu' hw' => ?_, shows_reference shortcode hd hu hw, fun ref hspells => ?_⟩
  · exact List.inj_on_of_nodup_map hd.ids hu' hu (hd.unique u' hu' u hu w hw' hw)
  · exact resolves hd hu hrole hw hspells

end Payments

/-- Every reseller can be paid in every state of a run in which nobody without a reference is made
a reseller. -/
theorem resellers_payable (shortcode : String) {s : WalletState}
    (hs : Reaches walletSystem assigned { store := {} } s) {u : User} (hu : u ∈ s.store.users)
    (hrole : u.role = .reseller) : Payable shortcode s.store u := by
  have hempty : Referenced [] := ⟨List.nodup_nil, by simp, by simp, by simp⟩
  exact payable shortcode (referenced_rule.run hs hempty) hu hrole

/-- What `generate_voucher_code(5)` gives makes a reference. -/
theorem isReference_draws (draw : ℕ → ℕ) : IsReference ("WS" ++ codeOfDraws draw 5) := by
  have hcode : (codeOfDraws draw 5).toList = (List.range 5).map fun i =>
      VOUCHER_ALPHABET.toList[draw i % 31]?.getD 'A' := by
    rw [codeOfDraws, String.toList_ofList]
  have htext : ("WS" ++ codeOfDraws draw 5).toList = "WS".toList ++ (codeOfDraws draw 5).toList :=
    String.toList_append
  rw [IsReference, htext, hcode]
  refine ⟨rfl, rfl, fun c hc => ?_⟩
  obtain ⟨i, -, rfl⟩ := List.mem_map.mp hc
  have hlt : draw i % 31 < VOUCHER_ALPHABET.toList.length :=
    (Nat.mod_lt _ (by decide)).trans_eq (by decide)
  rw [List.getElem?_eq_getElem hlt, Option.getD_some]
  exact List.getElem_mem hlt

section Decidable

variable (s : AccountStmt) (c : Choice Exn Env) (w : WalletSpawn) (d d' : Accounts)

instance : Decidable (drawn.stmt s c d) := inferInstanceAs (Decidable (isDrawn s = true))

instance : Decidable (drawn.spawn w d) := .isTrue trivial

instance : Decidable (drawn.edit d d') := .isFalse not_false

instance : Decidable (assigned.stmt s c d) :=
  inferInstanceAs (Decidable (isDrawn s = true ∧ assigns d s = true))

instance : Decidable (assigned.spawn w d) := .isTrue trivial

instance : Decidable (assigned.edit d d') := .isFalse not_false

end Decidable

/-- A tenant registers. -/
def aTenant : List WalletLabel :=
  .spawn (.base (.base (.register {
    business_name := "Fast Net", owner_email := "a@example.com", owner_phone := "254700000001"
    password := "password" }))) :: List.replicate 8 (.step 0 (.run { uuid := 1 }))

/-- A reseller of the tenant registers. -/
def aReseller : List WalletLabel :=
  aTenant ++ .spawn (.base (.base (.app (.call (.register_user "r@example.com" "254700000002"
    "password" .reseller) 1 ["AAAAA"])))) :: List.replicate 4 (.step 1 (.run { uuid := 2 }))

/-- An admin of the tenant creates a reseller. -/
def anAdminsReseller : List WalletLabel :=
  aTenant ++ .spawn (.base (.base (.app (.call (AdminResellerCreate.call {
    email := "r@example.com", phone := "254700000002", password := "password" }) 1 [])))) ::
    List.replicate 3 (.step 1 (.run { uuid := 2 }))

/-- The reseller, with the reference that was assigned. -/
def theReseller (wallet_reference : Option String) : User where
  id := 2
  email := "r@example.com"
  phone := "254700000002"
  hashed_password := ""
  role := .reseller
  tenant_id := 1
  wallet_reference := wallet_reference

/-- The reseller who registers can be paid. -/
theorem resellers_payable_registered : ∃ s : WalletState,
    theReseller (some "WSAAAAA") ∈ s.store.users ∧
      Payable "600000" s.store (theReseller (some "WSAAAAA")) := by
  obtain ⟨s, hs, hu⟩ := Reaches.of_moves (Y := walletSystem) (ρ := assigned) { store := {} }
    aReseller (fun d => decide (theReseller (some "WSAAAAA") ∈ d.users)) true (by decide +kernel)
    (by decide +kernel)
  have hu := of_decide_eq_true hu
  exact ⟨s, hu, resellers_payable "600000" hs hu rfl⟩

/-- The reseller whom an admin creates has no reference. -/
theorem not_resellers_payable : ¬ EveryReseller "600000" := by
  intro h
  obtain ⟨s, hs, hu⟩ := Reaches.of_moves (Y := walletSystem) (ρ := drawn) { store := {} }
    anAdminsReseller (fun d => decide (theReseller none ∈ d.users)) true (by decide +kernel)
    (by decide +kernel)
  obtain ⟨w, hw, -⟩ := h s hs (theReseller none) (of_decide_eq_true hu) rfl
  cases hw

end WalletReferences

end FrixelConnect
