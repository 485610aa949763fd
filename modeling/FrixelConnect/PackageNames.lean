import FrixelConnect.Interleaving.Contributions
import FrixelConnect.Interleaving.Direct
import FrixelConnect.PackageSchemas
import FrixelConnect.Payments

/-!
# Names of packages

An admin creates, changes and withdraws packages, and the first free trial of a tenant creates
its trial package. The creation looks for an active package with the name, the change of a
package looks for none, and the constraint of the table counts the withdrawn packages too.

## Implementation notes

No call opens a transaction, so that the search and the insert of a creation are apart. A call is
judged by the packages that its last statement meets.
-/

namespace FrixelConnect

open Interleaving Python

inductive PackageStmt where
  | sync (s : SyncStmt)
  | store (s : Stmt)
  | select_active_named (name : String) (tenant_id : UUID)
  | insert_package (data : PackageCreate) (created_by tenant_id : UUID)

namespace PackageStmt

abbrev Res : PackageStmt → Type
  | .sync s => s.Res
  | .store s => s.Res
  | .select_active_named _ _ => Option UUID
  | .insert_package _ _ _ => Package

/-- The statement runs on the database connection. -/
def inTx : PackageStmt → Bool
  | .sync s => s.inTx
  | .store s => s.inTx
  | _ => true

variable (v : SyncEnv) (d : SyncStore)

/-- What a statement answers and the store after it, or what it raises. -/
def eval : (s : PackageStmt) → Except Exn (s.Res × SyncStore)
  | .sync s => s.eval v d
  | .store s => (s.eval v.toEnv d.toStore).map fun r => (r.1, { d with toStore := r.2 })
  | .select_active_named name tenant_id => do
      let _ ← textParam none (.str name)
      pure ((fetchrow v.pick (fun p => p.name == name && p.tenant_id == tenant_id && p.is_active)
        d.packages).map (·.id), d)
  | .insert_package data created_by tenant_id => do
      let row ← data.insert v.uuid tenant_id d.packages
      check (d.hasUser created_by) (.database "packages_created_by_fkey")
      check (d.hasTenant tenant_id) (.database "packages_tenant_id_fkey")
      pure (row, { d with packages := d.packages ++ [row] })

/-- A statement that raises leaves the store as it was. -/
def exec (s : PackageStmt) : Except Exn s.Res × SyncStore :=
  match s.eval v d with
  | .ok r => (.ok r.1, r.2)
  | .error e => (.error e, d)

end PackageStmt

def packageMachine : Machine PackageStmt PackageStmt.Res Exn SyncStore SyncEnv UUID where
  exec s v d := s.exec v d
  inTx s := s.inTx
  locks _ := []
  aborted := .inFailedTransaction

abbrev PackageM := Prog PackageStmt PackageStmt.Res Frame Exn

namespace PackageNames

/-- One statement. -/
abbrev run (s : PackageStmt) : PackageM s.Res := Prog.exec (R := PackageStmt.Res) s

def create_package (tenant_id : UUID) (data : PackageCreate) (created_by_user_id : UUID) :
    PackageM Package := do
  let existing ← run (.select_active_named data.name tenant_id)
  match existing with
  | some _ => throw (.conflict ("An active package named '" ++ data.name ++ "' already exists."))
  | none => run (.insert_package data created_by_user_id tenant_id)

/-- The calls that may run. -/
inductive PackageCall where
  | create (tenant_id : UUID) (data : PackageCreate) (created_by_user_id : UUID)
  | update (tenant_id package_id : UUID) (data : PackageUpdate)
  | deactivate (tenant_id package_id : UUID)
  | trial (tenant_id : UUID)

namespace PackageCall

/-- The call with the body that its validators return. -/
def validate : PackageCall → Except Exn PackageCall
  | .create tenant_id data created_by_user_id => do
      let data ← data.validate
      pure (.create tenant_id data created_by_user_id)
  | .update tenant_id package_id data => do
      let data ← data.validate
      pure (.update tenant_id package_id data)
  | w => pure w

/-- The program of a call, and the package that it answers. -/
def prog : PackageCall → PackageM (Option Package)
  | .create tenant_id data created_by_user_id => do
      let package ← create_package tenant_id data created_by_user_id
      return some package
  | .update tenant_id package_id data => do
      let package ← Prog.embed PackageStmt.sync (SessionSync.update_package tenant_id package_id data)
      return some package
  | .deactivate tenant_id package_id => do
      Prog.embed PackageStmt.sync (SessionSync.deactivate_package tenant_id package_id)
      return none
  | .trial tenant_id => do
      let _ ← Prog.embed PackageStmt.store (trial_package tenant_id)
      return none

end PackageCall

/-- A call starts once its body has passed the validators. -/
def packageSystem : System PackageStmt PackageStmt.Res Frame Exn SyncStore SyncEnv UUID
    (Option Package) PackageCall :=
  { packageMachine with start := fun w d => w.validate.toOption.map fun w => (d, w.prog) }

abbrev PackageState := State PackageStmt PackageStmt.Res Frame Exn SyncStore SyncEnv (Option Package)
abbrev PackageRules := Rules PackageStmt Exn SyncStore SyncEnv PackageCall
abbrev PackageLabel := Label Exn SyncStore SyncEnv PackageCall

/-- The columns of `packages_tenant_name_unique`. -/
def key (p : Package) : UUID × String := (p.tenant_id, p.name)

/-- The ids of the packages and their names in a tenant are unique. -/
structure Keyed (d : SyncStore) : Prop where
  ids : (d.packages.map (·.id)).Nodup
  names : (d.packages.map key).Nodup

/-- The package has the name in the tenant, and its id is another one. -/
def Holds (tenant_id : UUID) (but : Option UUID) (name : Option String) (p : Package) : Prop :=
  p.tenant_id = tenant_id ∧ some p.name = name ∧ some p.id ≠ but

/-- Another active package of the tenant holds the name. -/
def Held (d : SyncStore) (tenant_id : UUID) (but : Option UUID) (name : Option String) : Prop :=
  ∃ p ∈ d.packages, Holds tenant_id but name p ∧ p.is_active = true

/-- Another package of the tenant holds the name, active or not. -/
def Taken (d : SyncStore) (tenant_id : UUID) (but : Option UUID) (name : Option String) : Prop :=
  ∃ p ∈ d.packages, Holds tenant_id but name p

/-- The name of the package after the update. -/
def resulting (data : PackageUpdate) (package_id : UUID) (d : SyncStore) : Option String :=
  data.name.orElse fun _ => (d.packages.find? fun p => p.id == package_id).map (·.name)

/-- The call ends with a conflict if the name is held, and with its package otherwise. -/
def Answered (tenant_id : UUID) (but : Option UUID) (name : Option String)
    (r : Except Exn (Option Package)) (x : SyncStore × SyncStore) : Prop :=
  (Held x.1 tenant_id but name → ∃ detail, r = .error (.conflict detail)) ∧
    (¬ Held x.1 tenant_id but name → ∃ p ∈ x.2.packages, r = .ok (some p) ∧
      p.tenant_id = tenant_id ∧ some p.name = name)

/-- What is claimed of a call that has ended, by the stores before and after its statements. -/
def Claimed (r : Except Exn (Option Package)) (cs : List (SyncStore × SyncStore)) :
    PackageCall → Prop
  | .create tenant_id data _ => ∃ x, cs.getLast? = some x ∧
      Answered tenant_id none (some data.name) r x
  | .update tenant_id package_id data => ∃ x, cs.getLast? = some x ∧
      Answered tenant_id (some package_id) (resulting data package_id x.1) r x
  | _ => ∀ c, r ≠ .error (.uniqueViolation c)

/-- Every statement is answered, with an id that no package has. -/
def answers : PackageStmt → Choice Exn SyncEnv → SyncStore → Bool
  | .insert_package _ _ _, .run v, d => d.packages.all fun p => p.id != v.uuid
  | .store (.insert_trial_package _), .run v, d => d.packages.all fun p => p.id != v.uuid
  | _, .run _, _ => true
  | _, .fail _, _ => false

def answered : PackageRules where
  stmt s c d := answers s c d = true

/-- Every call is as claimed, in every run from a store with unique names. -/
def EveryCall : Prop :=
  ∀ (d : SyncStore) (s t u : PackageState) (w w' : PackageCall) (ls : List PackageLabel) l r,
    Keyed d → Reaches packageSystem answered { store := d } s → w.validate = .ok w' →
    s.step packageSystem (.spawn w) = some t → AllowedRun packageSystem answered t ls →
    t.run packageSystem ls = some u → u.procs[s.procs.length]? = some ⟨l, .ret r⟩ →
    Claimed r (t.contributions packageSystem s.procs.length ls) w'

/-- The values of the body fit the columns. -/
structure Fits (data : PackageCreate) : Prop where
  name : ∃ o, textParam (some 100) (.str data.name) = .ok o
  description : ∃ o, textParam none ((data.description.map Json.str).getD .null) = .ok o
  price_kes : ∃ m, moneyParam data.price_kes = .ok m ∧ m.positive = true
  duration_minutes : isInteger data.duration_minutes = true ∧ 0 < data.duration_minutes
  speed_mbps : isInteger data.speed_mbps = true ∧ 0 < data.speed_mbps
  data_quota_mb : data.data_quota_mb.all isInteger = true

/-- No package of the tenant has the name of the body, whose values fit, and the tenant and the
admin are there. -/
structure Insertable (tenant_id created_by : UUID) (data : PackageCreate) (d : SyncStore) :
    Prop where
  fits : Fits data
  free : ¬ Taken d tenant_id none (some data.name)
  user : d.hasUser created_by = true
  tenant : d.hasTenant tenant_id = true

/-- No other package of the tenant has the name that the update gives, and the values fit. -/
structure Updatable (tenant_id package_id : UUID) (data : PackageUpdate) (d : SyncStore) :
    Prop where
  name : ∃ o, textParam (some 100) ((data.name.map Json.str).getD .null) = .ok o
  description : ∃ o, textParam none ((data.description.map Json.str).getD .null) = .ok o
  numbers : ([data.duration_minutes, data.speed_mbps, data.data_quota_mb].all fun n =>
    n.all isInteger) = true
  checks : ∃ price_kes, data.price_kes.mapM moneyParam = .ok price_kes ∧
    ∀ p ∈ d.packages, p.isActiveIn tenant_id package_id = true →
      (data.apply price_kes p).price_kes.positive = true ∧
        0 < (data.apply price_kes p).duration_minutes ∧ 0 < (data.apply price_kes p).speed_mbps
  free : ¬ Taken d tenant_id (some package_id) (resulting data package_id d)

/-- The condition on the stores that the statements of the call meet. -/
def Meets (cs : List (SyncStore × SyncStore)) : PackageCall → Prop
  | .create tenant_id data created_by => (∃ o, textParam none (.str data.name) = .ok o) ∧
      ∀ x ∈ cs.drop 1, Insertable tenant_id created_by data x.1
  | .update tenant_id package_id data =>
      (∀ x ∈ cs, ∃ p ∈ x.1.packages, p.isActiveIn tenant_id package_id = true) ∧
        (data.isEmpty = false → ∀ x ∈ cs.drop 1, Updatable tenant_id package_id data x.1)
  | .deactivate _ _ => True
  | .trial tenant_id => ∀ x ∈ cs.drop 1, ¬ Taken x.1 tenant_id none (some "Free Trial")

section Statements

variable {v : SyncEnv} {d d' : SyncStore} {s : PackageStmt}

theorem exec_eq_settle (s : PackageStmt) (v : SyncEnv) (d : SyncStore) :
    s.exec v d = settle (s.eval v d) d := by
  rw [PackageStmt.exec]
  cases s.eval v d with
  | ok r => rfl
  | error e => rfl

theorem exec_eq_ok {a : s.Res} : s.exec v d = (.ok a, d') ↔ s.eval v d = .ok (a, d') := by
  rw [exec_eq_settle, settle_eq_ok]

theorem exec_of_ok {a : s.Res} (h : s.eval v d = .ok (a, d')) : s.exec v d = (.ok a, d') :=
  exec_eq_ok.mpr h

theorem exec_of_error {e : Exn} (h : s.eval v d = .error e) : s.exec v d = (.error e, d) := by
  rw [exec_eq_settle, settle_eq_error]
  exact h

theorem packageMachine_restores : packageMachine.Restores := .of_settle _ exec_eq_settle

/-- What the database raises. -/
def IsRefusal : Exn → Prop
  | .uniqueViolation _ => True
  | .database _ => True
  | _ => False

/-- What the computation raises comes from the database. -/
def Refuses {α : Type} (x : Except Exn α) : Prop := ∀ e, x = .error e → IsRefusal e

theorem refuses_bind {α β : Type} {x : Except Exn α} {f : α → Except Exn β} (hx : Refuses x)
    (hf : ∀ a, Refuses (f a)) : Refuses (x >>= f) := by
  intro e h
  cases x with
  | ok a => exact hf a e h
  | error e' => exact hx e (congrArg Except.error (Except.error.inj h))

theorem refuses_pure {α : Type} (a : α) : Refuses (pure a : Except Exn α) := by
  intro e h
  cases h

theorem refuses_check {α : Type} {b : Bool} {e : Exn} {f : Unit → Except Exn α} (he : IsRefusal e)
    (hf : Refuses (f ())) : Refuses (check b e >>= f) := by
  refine refuses_bind (fun e' h => ?_) fun _ => hf
  cases b with
  | true => cases h
  | false =>
      cases h
      exact he

theorem refuses_textParam {limit : Option ℕ} {x : Json} : Refuses (textParam limit x) := by
  cases x with
  | null => exact refuses_pure none
  | str s =>
      refine refuses_check (by trivial) (refuses_check (by trivial) ?_)
      exact refuses_pure (some s)
  | _ =>
      intro e h
      cases h
      trivial

theorem refuses_moneyParam {x : Decimals.Decimal} : Refuses (moneyParam x) := by
  intro e h
  rw [moneyParam] at h
  split at h
  · cases h
  · cases h
    trivial

theorem refuses_insert {data : PackageCreate} {created_by tenant_id : UUID} :
    Refuses ((PackageStmt.insert_package data created_by tenant_id).eval v d) := by
  apply refuses_bind
  · apply refuses_bind refuses_textParam
    intro _
    apply refuses_bind refuses_textParam
    intro _
    apply refuses_bind refuses_moneyParam
    intro price_kes
    iterate 4 refine refuses_check (by trivial) ?_
    exact refuses_pure _
  · intro row
    iterate 2 refine refuses_check (by trivial) ?_
    exact refuses_pure _

theorem refuses_update {data : PackageUpdate} {tenant_id package_id : UUID} :
    Refuses ((PackageStmt.sync (.update_package data tenant_id package_id)).eval v d) := by
  apply refuses_bind refuses_textParam
  intro name
  apply refuses_bind refuses_textParam
  intro description
  apply refuses_bind
  · cases data.price_kes with
    | none => exact refuses_pure none
    | some x =>
        apply refuses_bind refuses_moneyParam
        intro m
        exact refuses_pure (some m)
  · intro price_kes
    iterate 3 refine refuses_check (by trivial) ?_
    exact refuses_pure _

/-- The row of an insert that goes through. -/
theorem insert_eq_ok {data : PackageCreate} {created_by tenant_id : UUID} {p : Package}
    (h : (PackageStmt.insert_package data created_by tenant_id).eval v d = .ok (p, d')) :
    Insertable tenant_id created_by data d ∧ p.id = v.uuid ∧ key p = (tenant_id, data.name) ∧
      (∀ q ∈ d.packages, q.id ≠ v.uuid) ∧ d' = { d with packages := d.packages ++ [p] } := by
  obtain ⟨row, hrow, h⟩ := Except.bind_eq_ok.mp h
  simp only [Except.bind_eq_ok, check_eq_ok, pure, Except.pure, Except.ok.injEq, Prod.mk.injEq]
    at h
  obtain ⟨_, huser, _, htenant, rfl, rfl⟩ := h
  simp only [PackageCreate.insert, Except.bind_eq_ok, check_eq_ok, Bool.and_eq_true,
    decide_eq_true_eq, pure, Except.pure, Except.ok.injEq] at hrow
  obtain ⟨o, hname, description, hdescription, price_kes, hprice, _, ⟨⟨hduration, hspeed⟩, hquota⟩,
    _, ⟨⟨hpositive, hduration'⟩, hspeed'⟩, _, hid, _, hfree, rfl⟩ := hrow
  have hfits : Fits data := {
    name := ⟨o, hname⟩
    description := ⟨description, hdescription⟩
    price_kes := ⟨price_kes, hprice, hpositive⟩
    duration_minutes := ⟨hduration, hduration'⟩
    speed_mbps := ⟨hspeed, hspeed'⟩
    data_quota_mb := hquota }
  refine ⟨⟨hfits, ?_, huser, htenant⟩, rfl, rfl, by simpa using hid, rfl⟩
  rintro ⟨q, hq, htenant, hname, -⟩
  simpa [htenant, Option.some.inj hname] using List.all_eq_true.mp hfree q hq

/-- An insert whose condition is met goes through. -/
theorem insert_ok {data : PackageCreate} {created_by tenant_id : UUID}
    (h : Insertable tenant_id created_by data d) (hid : ∀ q ∈ d.packages, q.id ≠ v.uuid) :
    ∃ p d', (PackageStmt.insert_package data created_by tenant_id).eval v d = .ok (p, d') := by
  obtain ⟨o, hname⟩ := h.fits.name
  obtain ⟨description, hdescription⟩ := h.fits.description
  obtain ⟨price_kes, hprice, hpositive⟩ := h.fits.price_kes
  have hfree : ∀ q ∈ d.packages, ¬ q.tenant_id = tenant_id ∨ ¬ q.name = data.name := by
    intro q hq
    by_contra hne
    apply h.free
    exact ⟨q, hq, by simpa [Holds] using hne⟩
  have hrow : ∃ p, data.insert v.uuid tenant_id d.packages = .ok p := by
    simpa [PackageCreate.insert, Except.bind_eq_ok, hname, hdescription, hprice, hpositive,
      h.fits.duration_minutes, h.fits.speed_mbps, h.fits.data_quota_mb, pure, Except.pure] using
      And.intro hid hfree
  obtain ⟨p, hp⟩ := hrow
  refine ⟨p, { d with packages := d.packages ++ [p] }, ?_⟩
  simp only [PackageStmt.eval, hp, h.user, h.tenant, check]
  rfl

/-- A column of a table in which one row is changed. -/
theorem nodup_updateRows {α β : Type} {f : α → β} {g : α → α} {sel : α → Bool} {rows : List α}
    {p : α} (hf : (rows.map f).Nodup) (hp : p ∈ rows) (hsel : ∀ q ∈ rows, sel q = true ↔ q = p) :
    ((updateRows sel g rows).map f).Nodup ↔ ∀ q ∈ rows, q ≠ p → f q ≠ f (g p) := by
  have hself : (if sel p then g p else p) = g p := by rw [if_pos ((hsel p hp).mpr rfl)]
  have hother : ∀ q ∈ rows, q ≠ p → (if sel q then g q else q) = q := by
    intro q hq hne
    rw [if_neg fun h => hne ((hsel q hq).mp h)]
  rw [updateRows, List.map_map, List.nodup_map_iff_inj_on hf.of_map]
  constructor
  · intro h q hq hne heq
    apply hne
    apply h q hq p hp
    simp only [Function.comp_apply, hself, hother q hq hne, heq]
  · intro h x hx y hy hxy
    simp only [Function.comp_apply] at hxy
    by_cases hxp : x = p
    · by_cases hyp : y = p
      · rw [hxp, hyp]
      · rw [hxp, hself, hother y hy hyp] at hxy
        exact absurd hxy.symm (h y hy hyp)
    · by_cases hyp : y = p
      · rw [hyp, hself, hother x hx hxp] at hxy
        exact absurd hxy (h x hx hxp)
      · rw [hother x hx hxp, hother y hy hyp] at hxy
        exact List.inj_on_of_nodup_map hf hx hy hxy

section Update

variable {data : PackageUpdate} {tenant_id package_id : UUID} {p : Package}

theorem isActiveIn_iff : p.isActiveIn tenant_id package_id = true ↔
    p.id = package_id ∧ p.tenant_id = tenant_id ∧ p.is_active = true := by
  simp [Package.isActiveIn, and_assoc]

/-- There is one package with the id. -/
theorem isActiveIn_unique (hd : Keyed d) (hp : p ∈ d.packages)
    (hactive : p.isActiveIn tenant_id package_id = true) {q : Package} (hq : q ∈ d.packages) :
    q.id = package_id ↔ q = p := by
  constructor
  · intro h
    exact List.inj_on_of_nodup_map hd.ids hq hp (h.trans (isActiveIn_iff.mp hactive).1.symm)
  · intro h
    rw [h]
    exact (isActiveIn_iff.mp hactive).1

theorem resulting_eq (hd : Keyed d) (hp : p ∈ d.packages)
    (hactive : p.isActiveIn tenant_id package_id = true) :
    resulting data package_id d = some (data.name.getD p.name) := by
  have hfind : (d.packages.find? fun q => q.id == package_id) = some p := by
    cases hfind : d.packages.find? fun q => q.id == package_id with
    | none =>
        have hnone := List.find?_eq_none.mp hfind p hp
        simp [(isActiveIn_iff.mp hactive).1] at hnone
    | some q =>
        have hid : q.id = package_id := by simpa using List.find?_some hfind
        rw [(isActiveIn_unique hd hp hactive (List.mem_of_find?_eq_some hfind)).mp hid]
  rw [resulting, hfind]
  cases data.name with
  | none => rfl
  | some n => rfl

theorem taken_iff (hd : Keyed d) (hp : p ∈ d.packages)
    (hactive : p.isActiveIn tenant_id package_id = true) (price_kes : Option Money) :
    Taken d tenant_id (some package_id) (resulting data package_id d) ↔
      ∃ q ∈ d.packages, q ≠ p ∧ key q = key (data.apply price_kes p) := by
  rw [Taken, resulting_eq hd hp hactive]
  apply exists_congr
  intro q
  apply and_congr_right
  intro hq
  have hid : some q.id ≠ some package_id ↔ q ≠ p := by
    rw [ne_eq, Option.some.injEq, isActiveIn_unique hd hp hactive hq]
  simp only [Holds, hid, key, PackageUpdate.apply, Prod.mk.injEq, Option.some.injEq,
    (isActiveIn_iff.mp hactive).2.1]
  tauto

/-- The constraint on the names after the update of a package. -/
theorem names_updated (hd : Keyed d) (hp : p ∈ d.packages)
    (hactive : p.isActiveIn tenant_id package_id = true) (price_kes : Option Money) :
    ((updateRows (·.isActiveIn tenant_id package_id) (data.apply price_kes) d.packages).map
      key).Nodup ↔ ¬ Taken d tenant_id (some package_id) (resulting data package_id d) := by
  rw [taken_iff hd hp hactive price_kes, nodup_updateRows hd.names hp]
  · simp only [not_exists, not_and, ne_eq]
  · intro q hq
    rw [← isActiveIn_unique hd hp hactive hq]
    constructor
    · intro h
      exact (isActiveIn_iff.mp h).1
    · intro h
      rwa [(isActiveIn_unique hd hp hactive hq).mp h]

theorem textParam_given {limit : Option ℕ} {x o : Option String}
    (h : textParam limit ((x.map Json.str).getD .null) = .ok o) : o = x := by
  cases x with
  | none =>
      cases h
      rfl
  | some s =>
      obtain ⟨_, -, h⟩ := Except.bind_eq_ok.mp h
      obtain ⟨_, -, h⟩ := Except.bind_eq_ok.mp h
      cases h
      rfl

/-- The row of an update that goes through. -/
theorem update_eq_ok {a : Option Package}
    (h : (PackageStmt.sync (.update_package data tenant_id package_id)).eval v d = .ok (a, d')) :
    ∃ price_kes packages,
      packages = updateRows (·.isActiveIn tenant_id package_id) (data.apply price_kes) d.packages ∧
      (packages.map key).Nodup ∧ a = fetchrow v.pick (·.isActiveIn tenant_id package_id) packages ∧
      d' = { d with packages } ∧
      (¬ Taken d tenant_id (some package_id) (resulting data package_id d) →
        Updatable tenant_id package_id data d) := by
  simp only [PackageStmt.eval, SyncStmt.eval, Except.bind_eq_ok, check_eq_ok, pure, Except.pure,
    Except.ok.injEq, Prod.mk.injEq, decide_eq_true_eq] at h
  obtain ⟨name, hname, description, hdescription, price_kes, hprice, _, hnumbers, _, hchecks, _,
    hnodup, rfl, rfl⟩ := h
  obtain rfl := textParam_given hname
  obtain rfl := textParam_given hdescription
  refine ⟨price_kes, _, rfl, hnodup, rfl, rfl, fun hfree => ?_⟩
  refine ⟨⟨_, hname⟩, ⟨_, hdescription⟩, hnumbers, ⟨price_kes, hprice, ?_⟩, hfree⟩
  intro p hp hactive
  have hcheck := List.all_eq_true.mp hchecks p (List.mem_filter.mpr ⟨hp, hactive⟩)
  simpa [and_assoc] using hcheck

/-- The row that an update answers is the changed package. -/
theorem update_answer (data : PackageUpdate) (hd : Keyed d) (hp : p ∈ d.packages)
    (hactive : p.isActiveIn tenant_id package_id = true) (price_kes : Option Money) (pick : ℕ) :
    ∃ q ∈ updateRows (·.isActiveIn tenant_id package_id) (data.apply price_kes) d.packages,
      fetchrow pick (·.isActiveIn tenant_id package_id)
        (updateRows (·.isActiveIn tenant_id package_id) (data.apply price_kes) d.packages) =
          some q ∧
      q.tenant_id = tenant_id ∧ some q.name = resulting data package_id d := by
  have hmem : data.apply price_kes p ∈
      updateRows (·.isActiveIn tenant_id package_id) (data.apply price_kes) d.packages :=
    List.mem_map.mpr ⟨p, hp, by rw [if_pos hactive]⟩
  refine ⟨_, hmem, fetchrow_unique hmem hactive fun r hr hr' => ?_, ?_, ?_⟩
  · obtain ⟨q, hq, rfl⟩ := List.mem_map.mp hr
    by_cases h : q.isActiveIn tenant_id package_id = true
    · rw [if_pos h, (isActiveIn_unique hd hp hactive hq).mp (isActiveIn_iff.mp h).1]
    · rw [if_neg h] at hr'
      exact absurd hr' h
  · exact (isActiveIn_iff.mp hactive).2.1
  · rw [resulting_eq hd hp hactive]
    rfl

/-- An update whose condition is met goes through. -/
theorem update_ok (hd : Keyed d) (hp : p ∈ d.packages)
    (hactive : p.isActiveIn tenant_id package_id = true)
    (h : Updatable tenant_id package_id data d) : ∃ a d',
    (PackageStmt.sync (.update_package data tenant_id package_id)).eval v d = .ok (a, d') := by
  obtain ⟨o, hname⟩ := h.name
  obtain ⟨o', hdescription⟩ := h.description
  obtain ⟨price_kes, hprice, hchecks⟩ := h.checks
  obtain rfl := textParam_given hname
  obtain rfl := textParam_given hdescription
  have hnodup := (names_updated hd hp hactive price_kes).mpr h.free
  have hchecks : ((d.packages.filter (·.isActiveIn tenant_id package_id)).all fun p =>
      (data.apply price_kes p).price_kes.positive &&
        0 < (data.apply price_kes p).duration_minutes &&
        0 < (data.apply price_kes p).speed_mbps) = true := by
    rw [List.all_eq_true]
    intro q hq
    obtain ⟨hq, hqactive⟩ := List.mem_filter.mp hq
    simpa [and_assoc] using hchecks q hq hqactive
  refine ⟨fetchrow v.pick (·.isActiveIn tenant_id package_id)
    (updateRows (·.isActiveIn tenant_id package_id) (data.apply price_kes) d.packages), { d with
      packages := updateRows (·.isActiveIn tenant_id package_id) (data.apply price_kes)
        d.packages }, ?_⟩
  simp only [PackageStmt.eval, SyncStmt.eval, Except.bind_eq_ok, check_eq_ok, pure, Except.pure,
    Except.ok.injEq, decide_eq_true_eq]
  exact ⟨_, hname, _, hdescription, price_kes, hprice, (), h.numbers, (), hchecks, (), hnodup, rfl⟩

end Update

end Statements

/-- The statements of the calls. -/
def Uses : PackageStmt → Prop
  | .sync (.select_package _ _) => True
  | .sync (.update_package _ _ _) => True
  | .sync (.deactivate_package _ _) => True
  | .store (.select_trial_package _) => True
  | .store (.insert_trial_package _) => True
  | .select_active_named _ _ => True
  | .insert_package _ _ _ => True
  | _ => False

theorem get_package_plain {φ : SyncStmt → Prop} {tenant_id package_id : UUID}
    (h : φ (.select_package tenant_id package_id)) :
    (SessionSync.get_package_by_id tenant_id package_id).Plain φ := by
  refine Prog.Plain.bind ((Prog.plain_exec _).mpr h) fun row => ?_
  cases row with
  | none => trivial
  | some row => trivial

theorem prog_plain (w : PackageCall) : w.prog.Plain Uses := by
  cases w with
  | create tenant_id data created_by_user_id =>
      refine Prog.Plain.bind (Prog.Plain.bind ((Prog.plain_exec _).mpr trivial) fun existing => ?_) fun _ => trivial
      cases existing with
      | none => exact (Prog.plain_exec _).mpr trivial
      | some id => trivial
  | update tenant_id package_id data =>
      refine Prog.Plain.bind (Prog.Plain.embed ?_) fun _ => trivial
      refine Prog.Plain.bind (get_package_plain trivial) fun _ => ?_
      split
      · exact get_package_plain trivial
      · refine Prog.Plain.bind ((Prog.plain_exec _).mpr trivial) fun row => ?_
        cases row with
        | none => trivial
        | some row => trivial
  | deactivate tenant_id package_id =>
      refine Prog.Plain.bind (Prog.Plain.embed ?_) fun _ => trivial
      refine Prog.Plain.bind ((Prog.plain_exec _).mpr trivial) fun result => ?_
      split
      · trivial
      · trivial
  | trial tenant_id =>
      refine Prog.Plain.bind (Prog.Plain.embed ?_) fun _ => trivial
      refine Prog.Plain.bind ((Prog.plain_exec _).mpr trivial) fun package => ?_
      cases package with
      | none => exact Prog.Plain.bind ((Prog.plain_exec _).mpr trivial) fun _ => trivial
      | some package => trivial

theorem packageSystem_direct : Direct packageSystem Uses where
  restores := packageMachine_restores
  start w d d' p h := by
    obtain ⟨w', -, h⟩ := Option.map_eq_some_iff.mp h
    cases h
    exact ⟨rfl, prog_plain w'⟩

section Keeping

variable {v : SyncEnv} {d d' : SyncStore}

/-- A change of rows that keeps a column. -/
theorem nodup_kept {α β : Type} {f : α → β} {g : α → α} {sel : α → Bool} {rows : List α}
    (h : ∀ r, f (g r) = f r) (hf : (rows.map f).Nodup) : ((updateRows sel g rows).map f).Nodup := by
  have hmap : (updateRows sel g rows).map f = rows.map f := by
    rw [updateRows, List.map_map]
    apply List.map_congr_left
    intro r _
    simp only [Function.comp_apply]
    split
    · exact h r
    · rfl
  rwa [hmap]

/-- A package with an id and a name that no package of its tenant has. -/
theorem Keyed.concat (h : Keyed d) {p : Package} (hid : ∀ q ∈ d.packages, q.id ≠ p.id)
    (hkey : ∀ q ∈ d.packages, key q ≠ key p) : Keyed { d with packages := d.packages ++ [p] } :=
  ⟨nodup_map_concat _ h.ids hid, nodup_map_concat _ h.names hkey⟩

theorem key_ne {tenant_id : UUID} {name : String}
    (h : ¬ Taken d tenant_id none (some name)) : ∀ q ∈ d.packages, key q ≠ (tenant_id, name) := by
  intro q hq heq
  apply h
  obtain ⟨htenant, hname⟩ := Prod.mk.inj heq
  exact ⟨q, hq, htenant, congrArg some hname, by simp⟩

/-- The trial package of an insert that goes through. -/
theorem trial_eq_ok {tenant_id : UUID} {p : Package}
    (h : (PackageStmt.store (.insert_trial_package tenant_id)).eval v d = .ok (p, d')) :
    (∀ q ∈ d.packages, q.id ≠ p.id) ∧ ¬ Taken d tenant_id none (some "Free Trial") ∧
      key p = (tenant_id, "Free Trial") ∧ d' = { d with packages := d.packages ++ [p] } := by
  rw [PackageStmt.eval] at h
  cases hstmt : (Stmt.insert_trial_package tenant_id).eval v.toEnv d.toStore with
  | error e =>
      rw [hstmt] at h
      cases h
  | ok r =>
      rw [hstmt] at h
      cases h
      simp only [Stmt.eval, Except.bind_eq_ok, check_eq_ok, pure, Except.pure, Except.ok.injEq]
        at hstmt
      obtain ⟨price_kes, -, _, hid, _, hfree, _, -, rfl⟩ := hstmt
      refine ⟨by simpa using hid, ?_, rfl, rfl⟩
      rintro ⟨q, hq, htenant, hname, -⟩
      simpa [htenant, Option.some.inj hname] using List.all_eq_true.mp hfree q hq

/-- The insert of a trial package meets a package with the name. -/
theorem trial_violates {tenant_id : UUID} (hid : ∀ q ∈ d.packages, q.id ≠ v.uuid) :
    (∃ c, (PackageStmt.store (.insert_trial_package tenant_id)).eval v d =
      .error (.uniqueViolation c)) ↔ Taken d tenant_id none (some "Free Trial") := by
  have hid : (d.packages.all fun q => q.id != v.uuid) = true := by simpa using hid
  obtain ⟨price_kes, hprice⟩ : ∃ m, moneyParam (.finite 1 0) = .ok m := ⟨_, rfl⟩
  constructor
  · rintro ⟨c, h⟩
    by_contra hfree
    have hfree : (d.packages.all fun r => !(r.tenant_id == tenant_id && r.name == "Free Trial")) =
        true := by
      rw [List.all_eq_true]
      intro q hq
      have hne := key_ne hfree q hq
      simpa [key, imp_iff_not_or] using hne
    cases htenant : d.toStore.hasTenant tenant_id with
    | true =>
        simp only [PackageStmt.eval, Stmt.eval, hprice, hid, hfree, htenant, check] at h
        cases h
    | false =>
        simp only [PackageStmt.eval, Stmt.eval, hprice, hid, hfree, htenant, check] at h
        cases h
  · rintro ⟨q, hq, htenant, hname, -⟩
    have htaken : (d.packages.all fun r => !(r.tenant_id == tenant_id && r.name == "Free Trial")) =
        false := by
      rw [List.all_eq_false]
      exact ⟨q, hq, by simp [htenant, Option.some.inj hname]⟩
    refine ⟨.packages_tenant_name_unique, ?_⟩
    simp only [PackageStmt.eval, Stmt.eval, hprice, hid, htaken, check]
    rfl

theorem names_rule : DirectRule packageSystem answered Uses Keyed fun _ _ => True where
  toDirect := packageSystem_direct
  refl _ := trivial
  trans _ _ _ _ _ := trivial
  edit _ _ h := h.elim
  stmt q v a d d' hq _ hd hx := by
    have h := exec_eq_ok.mp hx
    refine ⟨?_, trivial⟩
    cases q with
    | sync s =>
        cases s with
        | select_package tenant_id package_id =>
            cases h
            exact hd
        | update_package data tenant_id package_id =>
            obtain ⟨price_kes, packages, rfl, hnames, -, rfl, -⟩ := update_eq_ok h
            exact ⟨nodup_kept (fun _ => rfl) hd.ids, hnames⟩
        | deactivate_package tenant_id package_id =>
            cases h
            exact ⟨nodup_kept (fun _ => rfl) hd.ids, nodup_kept (fun _ => rfl) hd.names⟩
        | _ => exact hq.elim
    | store s =>
        cases s with
        | select_trial_package tenant_id =>
            cases h
            exact hd
        | insert_trial_package tenant_id =>
            obtain ⟨hid, hfree, hkey, rfl⟩ := trial_eq_ok h
            exact hd.concat hid (hkey ▸ key_ne hfree)
        | _ => exact hq.elim
    | select_active_named name tenant_id =>
        obtain ⟨_, -, h⟩ := Except.bind_eq_ok.mp h
        cases h
        exact hd
    | insert_package data created_by tenant_id =>
        obtain ⟨hinsertable, hp, hkey, hid, rfl⟩ := insert_eq_ok h
        exact hd.concat (hp ▸ hid) (hkey ▸ key_ne hinsertable.free)

end Keeping

/-- The statements are answered, and the names are unique wherever they are executed. -/
def keyed : PackageRules :=
  { answered with stmt := fun s c d => answered.stmt s c d ∧ Keyed d }

/-- Every run of the program ends with `Q` of its result and of the stores that it meets. -/
def Does {α : Type} (Q : Except Exn α → List (SyncStore × SyncStore) → Prop) (p : PackageM α) :
    Prop :=
  ∀ l d, l.txn = .none → Contributes packageMachine keyed (fun _ _ => True)
    (fun r cs l _ => l.txn = .none ∧ Q r cs) p l d

section Does

variable {α β : Type} {Q : Except Exn β → List (SyncStore × SyncStore) → Prop}

theorem does_ret {r : Except Exn β} (h : Q r []) : Does Q (.ret r) :=
  fun _ _ hl => ⟨hl, h⟩

theorem Does.mono {Q' : Except Exn β → List (SyncStore × SyncStore) → Prop} {p : PackageM β}
    (hp : Does Q p) (h : ∀ r cs, Q r cs → Q' r cs) : Does Q' p :=
  fun l d hl => (hp l d hl).mono fun r cs _ _ hr => ⟨hr.1, h r cs hr.2⟩

theorem Does.bind {B : Except Exn α → List (SyncStore × SyncStore) → Prop} {p : PackageM α}
    {f : α → PackageM β} (hp : Does B p)
    (hok : ∀ a cs, B (.ok a) cs → Does (fun r cs' => Q r (cs ++ cs')) (f a))
    (herror : ∀ e cs, B (.error e) cs → Q (.error e) cs) : Does Q (p >>= f) := by
  intro l d hl
  apply Contributes.handle
  apply (hp l d hl).mono
  intro r cs l' d' hr
  cases r with
  | ok a => exact hok a cs hr.2 l' d' hr.1
  | error e => exact ⟨hr.1, by simpa using herror e cs hr.2⟩

theorem does_run {s : PackageStmt} {Q : Except Exn s.Res → List (SyncStore × SyncStore) → Prop}
    (h : ∀ v d, answers s (.run v) d = true → Keyed d →
      Q (s.exec v d).1 [(d, (s.exec v d).2)]) : Does Q (run s) := by
  intro l d hl
  apply contributes_exec hl
  intro d₁ c hrule
  cases c with
  | run v => exact ⟨hl, h v d₁ hrule.1 hrule.2⟩
  | fail e =>
      obtain ⟨hanswers, -⟩ := hrule
      cases s with
      | store s => cases s <;> cases hanswers
      | _ => cases hanswers

end Does

section Calls

variable {tenant_id package_id created_by : UUID} {but : Option UUID} {name : Option String}
  {x : SyncStore × SyncStore} {cs : List (SyncStore × SyncStore)} {e : Exn}

theorem IsRefusal.ne_conflict (h : IsRefusal e) (detail : String) : e ≠ .conflict detail := by
  rintro rfl
  exact h

/-- A call that raises anything but a conflict is not as claimed. -/
theorem not_answered (h : ∀ detail, e ≠ .conflict detail) :
    ¬ Answered tenant_id but name (.error e) x := by
  rintro ⟨hheld, hfree⟩
  by_cases hx : Held x.1 tenant_id but name
  · obtain ⟨detail, hdetail⟩ := hheld hx
    exact h detail (Except.error.inj hdetail)
  · obtain ⟨p, -, hp, -⟩ := hfree hx
    cases hp

/-- A call that answers its package, whose name no other one had. -/
theorem answered_ok {p : Package} (hfree : ¬ Taken x.1 tenant_id but name) (hp : p ∈ x.2.packages)
    (htenant : p.tenant_id = tenant_id) (hname : some p.name = name) :
    Answered tenant_id but name (.ok (some p)) x := by
  constructor
  · rintro ⟨q, hq, hholds, -⟩
    exact absurd ⟨q, hq, hholds⟩ hfree
  · intro _
    exact ⟨p, hp, rfl, htenant, hname⟩

theorem claimed_last {r : Except Exn (Option Package)} {data : PackageUpdate} :
    Claimed r (cs ++ [x]) (.update tenant_id package_id data) ↔
      Answered tenant_id (some package_id) (resulting data package_id x.1) r x := by
  simp [Claimed]

/-- What the search for an active package with the name answers. -/
theorem select_active_named (tenant_id : UUID) {v : SyncEnv} {d : SyncStore} {name : String}
    {o : Option String} (hname : textParam none (.str name) = .ok o) : ∃ found,
    (PackageStmt.select_active_named name tenant_id).exec v d = (.ok found, d) ∧
      (found ≠ none → Held d tenant_id none (some name)) := by
  refine ⟨_, exec_of_ok (Except.bind_eq_ok.mpr ⟨o, hname, rfl⟩), fun hfound => ?_⟩
  obtain ⟨id, hid⟩ := Option.ne_none_iff_exists'.mp hfound
  obtain ⟨p, hp, -⟩ := Option.map_eq_some_iff.mp hid
  obtain ⟨hmem, hmatch⟩ := fetchrow_eq_some hp
  obtain ⟨⟨hname, htenant⟩, hactive⟩ : (p.name = name ∧ p.tenant_id = tenant_id) ∧
      p.is_active = true := by simpa using hmatch
  exact ⟨p, hmem, ⟨htenant, congrArg some hname, by simp⟩, hactive⟩

/-- A creation ends as claimed if and only if its condition is met. -/
theorem does_create_package (data : PackageCreate) :
    Does (fun r cs => Claimed (r.map some) cs (.create tenant_id data created_by) ↔
      Meets cs (.create tenant_id data created_by))
      (create_package tenant_id data created_by) := by
  apply Does.bind (B := fun r cs => ∃ d : SyncStore, cs = [(d, d)] ∧ match r with
    | .ok found => (∃ o, textParam none (.str data.name) = .ok o) ∧
        (found ≠ none → Held d tenant_id none (some data.name))
    | .error e => IsRefusal e ∧ ¬ ∃ o, textParam none (.str data.name) = .ok o)
  · apply does_run
    intro v d _ _
    cases hname : textParam none (.str data.name) with
    | error e =>
        rw [exec_of_error (e := e) (by simp [PackageStmt.eval, hname, bind, Except.bind])]
        exact ⟨d, rfl, refuses_textParam e hname, by simp⟩
    | ok o =>
        obtain ⟨found, hexec, hheld⟩ := select_active_named tenant_id hname
        rw [hexec]
        exact ⟨d, rfl, ⟨o, rfl⟩, hheld⟩
  · rintro found cs ⟨d, rfl, hname, hheld⟩
    cases found with
    | some id =>
        apply does_ret
        apply iff_of_true
        · refine ⟨(d, d), rfl, fun _ => ⟨_, rfl⟩, fun hfree => ?_⟩
          exact absurd (hheld (by simp)) hfree
        · exact ⟨hname, fun x hx => by cases hx⟩
    | none =>
        apply @does_run (.insert_package data created_by tenant_id)
        intro v d' hanswers _
        have hid : ∀ q ∈ d'.packages, q.id ≠ v.uuid := by simpa [answers] using hanswers
        cases heval : (PackageStmt.insert_package data created_by tenant_id).eval v d' with
        | error e =>
            rw [exec_of_error heval]
            apply iff_of_false
            · rintro ⟨x, hx, hanswered⟩
              exact not_answered (refuses_insert e heval).ne_conflict hanswered
            · rintro ⟨-, hmeets⟩
              obtain ⟨p, d'', hok⟩ := insert_ok (hmeets (d', d') (by simp)) hid
              rw [hok] at heval
              cases heval
        | ok r =>
            obtain ⟨p, d''⟩ := r
            obtain ⟨hinsertable, -, hkey, -, hd''⟩ := insert_eq_ok heval
            obtain ⟨htenant, hpname⟩ := Prod.mk.inj hkey
            rw [exec_of_ok heval]
            apply iff_of_true
            · refine ⟨(d', d''), rfl, answered_ok hinsertable.free ?_ htenant (congrArg some hpname)⟩
              rw [hd'']
              simp
            · exact ⟨hname, fun x hx => by simpa [List.mem_singleton.mp hx] using hinsertable⟩
  · rintro e cs ⟨d, rfl, hrefusal, hname⟩
    apply iff_of_false
    · rintro ⟨x, hx, hanswered⟩
      exact not_answered hrefusal.ne_conflict hanswered
    · exact fun h => hname h.1

/-- The package is looked up in the store that the statement meets. -/
theorem does_get_package_by_id :
    Does (fun r cs => ∃ d : SyncStore, Keyed d ∧ cs = [(d, d)] ∧ match r with
      | .ok p => p ∈ d.packages ∧ p.isActiveIn tenant_id package_id = true
      | .error e => (∃ resource identifier, e = .notFound resource identifier) ∧
          ∀ p ∈ d.packages, ¬ p.isActiveIn tenant_id package_id = true)
      (Prog.embed PackageStmt.sync (SessionSync.get_package_by_id tenant_id package_id)) := by
  rw [SessionSync.get_package_by_id, Prog.embed_bind, Prog.embed_exec]
  apply Does.bind (B := fun r cs => ∃ d : SyncStore, Keyed d ∧ cs = [(d, d)] ∧
    ∃ pick, r = .ok (fetchrow pick (·.isActiveIn tenant_id package_id) d.packages))
  · apply @does_run (.sync (.select_package tenant_id package_id))
    intro v d _ hd
    exact ⟨d, hd, rfl, v.pick, rfl⟩
  · rintro row cs ⟨d, hd, rfl, pick, hrow⟩
    have hrow := Except.ok.inj hrow
    cases row with
    | none =>
        apply does_ret
        exact ⟨d, hd, rfl, ⟨_, _, rfl⟩, fetchrow_eq_none.mp hrow.symm⟩
    | some p =>
        apply does_ret
        exact ⟨d, hd, rfl, fetchrow_eq_some hrow.symm⟩
  · rintro e cs ⟨d, hd, rfl, pick, hrow⟩
    cases hrow

/-- An update that does not find its package. -/
theorem update_missing {r : Except Exn (Option Package)} {data : PackageUpdate}
    (hr : r = .error e) (he : ∀ detail, e ≠ .conflict detail)
    (hmissing : ∀ p ∈ x.1.packages, ¬ p.isActiveIn tenant_id package_id = true) :
    Claimed r (cs ++ [x]) (.update tenant_id package_id data) ↔
      Meets (cs ++ [x]) (.update tenant_id package_id data) := by
  apply iff_of_false
  · rw [claimed_last, hr]
    exact not_answered he
  · rintro ⟨hfound, -⟩
    obtain ⟨p, hp, hactive⟩ := hfound x (by simp)
    exact hmissing p hp hactive

theorem name_of_isEmpty {data : PackageUpdate} (h : data.isEmpty = true) : data.name = none := by
  simp only [PackageUpdate.isEmpty, Bool.and_eq_true, Option.isNone_iff_eq_none] at h
  exact h.1.1.1.1.1

/-- No other package has the name of a package that is not renamed. -/
theorem not_taken_of_isEmpty {d : SyncStore} {data : PackageUpdate} {p : Package} (hd : Keyed d)
    (hp : p ∈ d.packages) (hactive : p.isActiveIn tenant_id package_id = true)
    (hdata : data.isEmpty = true) :
    ¬ Taken d tenant_id (some package_id) (resulting data package_id d) := by
  rw [taken_iff hd hp hactive none]
  rintro ⟨q, hq, hne, hkey⟩
  apply hne
  apply List.inj_on_of_nodup_map hd.names hq hp
  rw [hkey, key, PackageUpdate.apply, name_of_isEmpty hdata]
  rfl

/-- What the update statement does, with the condition under which it goes through. -/
theorem does_update (data : PackageUpdate) :
    Does (fun r cs => ∃ x : SyncStore × SyncStore, cs = [x] ∧ match r with
      | .ok (some q) => q ∈ x.2.packages ∧ q.tenant_id = tenant_id ∧
          some q.name = resulting data package_id x.1 ∧
          (∃ p ∈ x.1.packages, p.isActiveIn tenant_id package_id = true) ∧
          Updatable tenant_id package_id data x.1
      | .ok none => ∀ p ∈ x.1.packages, ¬ p.isActiveIn tenant_id package_id = true
      | .error e => IsRefusal e ∧ ¬ ((∃ p ∈ x.1.packages,
          p.isActiveIn tenant_id package_id = true) ∧ Updatable tenant_id package_id data x.1))
      (run (.sync (.update_package data tenant_id package_id))) := by
  apply @does_run (.sync (.update_package data tenant_id package_id))
  intro v d _ hd
  cases heval : (PackageStmt.sync (.update_package data tenant_id package_id)).eval v d with
  | error e =>
      rw [exec_of_error heval]
      refine ⟨_, rfl, refuses_update e heval, ?_⟩
      rintro ⟨⟨p, hp, hactive⟩, hupdatable⟩
      obtain ⟨a, d', hok⟩ := update_ok hd hp hactive hupdatable
      rw [hok] at heval
      cases heval
  | ok r =>
      obtain ⟨a, d'⟩ := r
      obtain ⟨price_kes, packages, hpackages, hnames, ha, hd', hupdatable⟩ := update_eq_ok heval
      rw [exec_of_ok heval]
      refine ⟨_, rfl, ?_⟩
      by_cases hfound : ∃ p ∈ d.packages, p.isActiveIn tenant_id package_id = true
      · obtain ⟨p, hp, hactive⟩ := hfound
        obtain ⟨q, hq, hfetch, htenant, hname⟩ :=
          update_answer data hd hp hactive price_kes v.pick
        rw [hpackages] at hnames
        rw [ha, hd', hpackages, hfetch]
        exact ⟨hq, htenant, hname, ⟨p, hp, hactive⟩,
          hupdatable ((names_updated hd hp hactive price_kes).mp hnames)⟩
      · have hnone : a = none := by
          rw [ha, hpackages, fetchrow_eq_none]
          intro r hr hactive
          obtain ⟨q, hq, rfl⟩ := List.mem_map.mp hr
          apply hfound
          refine ⟨q, hq, ?_⟩
          by_contra hq'
          rw [if_neg hq'] at hactive
          exact hq' hactive
        rw [hnone]
        intro p hp hactive
        exact hfound ⟨p, hp, hactive⟩

/-- An update ends as claimed if and only if its condition is met. -/
theorem does_update_package (data : PackageUpdate) :
    Does (fun r cs => Claimed (r.map some) cs (.update tenant_id package_id data) ↔
      Meets cs (.update tenant_id package_id data))
      (Prog.embed PackageStmt.sync (SessionSync.update_package tenant_id package_id data)) := by
  rw [SessionSync.update_package, Prog.embed_bind]
  apply does_get_package_by_id.bind
  · rintro p cs ⟨d, hd, rfl, hp, hactive⟩
    have hfound : ∀ (y : SyncStore × SyncStore) q, q ∈ y.1.packages →
        q.isActiveIn tenant_id package_id = true → ∀ x ∈ [(d, d)] ++ [y],
          ∃ q ∈ x.1.packages, q.isActiveIn tenant_id package_id = true := by
      intro y q hq hqactive x hx
      rcases List.mem_append.mp hx with hx | hx
      · rw [List.mem_singleton.mp hx]
        exact ⟨p, hp, hactive⟩
      · rw [List.mem_singleton.mp hx]
        exact ⟨q, hq, hqactive⟩
    cases hdata : data.isEmpty with
    | true =>
        apply does_get_package_by_id.mono
        rintro r cs ⟨d', hd', rfl, hr⟩
        cases r with
        | error e =>
            obtain ⟨⟨resource, identifier, rfl⟩, hmissing⟩ := hr
            exact update_missing rfl (by simp) hmissing
        | ok q =>
            obtain ⟨hq, hqactive⟩ := hr
            have hfree := not_taken_of_isEmpty hd' hq hqactive hdata
            apply iff_of_true
            · rw [claimed_last]
              apply answered_ok hfree hq (isActiveIn_iff.mp hqactive).2.1
              rw [resulting_eq hd' hq hqactive, name_of_isEmpty hdata]
              rfl
            · exact ⟨hfound _ q hq hqactive, fun h => by rw [hdata] at h; cases h⟩
    | false =>
        simp only [Bool.false_eq_true, if_false, Prog.embed_bind, Prog.embed_exec]
        apply (does_update data).bind
        · rintro row cs ⟨x, rfl, hx⟩
          cases row with
          | none =>
              apply does_ret
              exact update_missing rfl (by simp) hx
          | some q =>
              apply does_ret
              obtain ⟨hq, htenant, hname, ⟨p', hp', hactive'⟩, hupdatable⟩ := hx
              apply iff_of_true
              · exact claimed_last.mpr (answered_ok hupdatable.free hq htenant hname)
              · exact ⟨hfound _ p' hp' hactive', fun _ y hy => by
                  simpa [List.mem_singleton.mp hy] using hupdatable⟩
        · rintro e cs ⟨x, rfl, hrefusal, hnot⟩
          apply iff_of_false
          · intro hclaimed
            exact not_answered hrefusal.ne_conflict (claimed_last.mp hclaimed)
          · rintro ⟨hfound', hupdatable⟩
            exact hnot ⟨hfound' x (by simp), hupdatable hdata x (by simp)⟩
  · rintro e cs ⟨d, hd, rfl, ⟨resource, identifier, rfl⟩, hmissing⟩
    change Claimed _ ([] ++ [(d, d)]) _ ↔ Meets ([] ++ [(d, d)]) _
    exact update_missing rfl (by simp) hmissing

/-- A withdrawal never ends with a unique violation. -/
theorem does_deactivate_package :
    Does (fun r (_ : List (SyncStore × SyncStore)) => ∀ c, r ≠ .error (.uniqueViolation c))
      (Prog.embed PackageStmt.sync (SessionSync.deactivate_package tenant_id package_id)) := by
  rw [SessionSync.deactivate_package, Prog.embed_bind, Prog.embed_exec]
  apply Does.bind (B := fun r (_ : List (SyncStore × SyncStore)) => ∃ n, r = .ok n)
  · apply @does_run (.sync (.deactivate_package tenant_id package_id))
    intro v d _ _
    exact ⟨_, rfl⟩
  · intro n cs _
    by_cases hn : n = 0
    · rw [if_pos hn]
      apply does_ret
      simp
    · rw [if_neg hn]
      apply does_ret
      simp
  · rintro e cs ⟨n, h⟩
    cases h

/-- The first free trial ends with a unique violation if and only if its insert meets a package
with the name. -/
theorem does_trial_package :
    Does (fun r cs => (∀ c, r ≠ .error (.uniqueViolation c)) ↔ Meets cs (.trial tenant_id))
      (Prog.embed PackageStmt.store (trial_package tenant_id)) := by
  rw [trial_package, Prog.embed_bind, Prog.embed_exec]
  apply Does.bind (B := fun r cs => ∃ (d : SyncStore) (found : Option Package),
    cs = [(d, d)] ∧ r = .ok found)
  · apply @does_run (.store (.select_trial_package tenant_id))
    intro v d _ _
    exact ⟨d, _, rfl, rfl⟩
  · rintro found cs ⟨d, _, rfl, -⟩
    cases found with
    | some p =>
        apply does_ret
        simp [Meets]
    | none =>
        simp only [Prog.embed_bind, Prog.embed_exec]
        apply Does.bind (B := fun r cs => ∃ x : SyncStore × SyncStore, cs = [x] ∧
          ((∀ c, r ≠ .error (.uniqueViolation c)) ↔
            ¬ Taken x.1 tenant_id none (some "Free Trial")))
        · apply @does_run (.store (.insert_trial_package tenant_id))
          intro v d' hanswers _
          have hid : ∀ q ∈ d'.packages, q.id ≠ v.uuid := by simpa [answers] using hanswers
          refine ⟨_, rfl, ?_⟩
          rw [← not_iff_not, not_not, ← trial_violates hid]
          cases heval : (PackageStmt.store (.insert_trial_package tenant_id)).eval v d' with
          | ok r => simp [exec_of_ok heval]
          | error e => simp [exec_of_error heval]
        · rintro p cs ⟨x, rfl, hx⟩
          apply does_ret
          have hfree := hx.mp (by simp)
          apply iff_of_true (by simp)
          exact fun y hy => by simpa [List.mem_singleton.mp hy] using hfree
        · rintro e cs ⟨x, rfl, hx⟩
          simp only [ne_eq, Except.error.injEq] at hx ⊢
          rw [hx]
          simp [Meets]
  · rintro e cs ⟨d, found, -, h⟩
    cases h

end Calls

/-- Every call ends as claimed if and only if its condition is met. -/
theorem does_prog (w : PackageCall) : Does (fun r cs => Claimed r cs w ↔ Meets cs w) w.prog := by
  cases w with
  | create tenant_id data created_by_user_id =>
      apply (does_create_package data).bind
      · intro p cs h
        apply does_ret
        rwa [List.append_nil]
      · exact fun e cs h => h
  | update tenant_id package_id data =>
      apply (does_update_package data).bind
      · intro p cs h
        apply does_ret
        rwa [List.append_nil]
      · exact fun e cs h => h
  | deactivate tenant_id package_id =>
      apply does_deactivate_package.bind
      · intro p cs h
        apply does_ret
        simp [Claimed, Meets]
      · intro e cs h
        exact iff_of_true (fun c hc => h c (congrArg Except.error (Except.error.inj hc))) trivial
  | trial tenant_id =>
      apply does_trial_package.bind
      · intro p cs h
        apply does_ret
        rw [List.append_nil, ← h]
        simp [Claimed]
      · intro e cs h
        simpa [Claimed] using h

theorem guarded : Guarded packageSystem keyed fun _ _ => True where
  restores := packageMachine_restores
  start _ _ _ _ _ _ _ := trivial
  edit _ _ _ _ _ := trivial
  exec _ _ _ _ _ _ _ _ _ := trivial

/-- In every run from a store with unique names, a call ends as claimed if and only if no other
package, active or not, holds its name in the store that its write meets, the values that it
writes fit, and the package that it updates is there. -/
theorem package_names {d : SyncStore} {s t u : PackageState} {w w' : PackageCall}
    {ls : List PackageLabel} {l : Local PackageStmt Frame SyncEnv}
    {r : Except Exn (Option Package)} (hd : Keyed d)
    (hs : Reaches packageSystem answered { store := d } s) (hw : w.validate = .ok w')
    (hspawn : s.step packageSystem (.spawn w) = some t)
    (hall : AllowedRun packageSystem answered t ls) (hrun : t.run packageSystem ls = some u)
    (hend : u.procs[s.procs.length]? = some ⟨l, .ret r⟩) :
    Claimed r (t.contributions packageSystem s.procs.length ls) w' ↔
      Meets (t.contributions packageSystem s.procs.length ls) w' := by
  obtain ⟨hsd, -, hsp⟩ := names_rule.reaches hs (by simp) hd
  obtain ⟨⟨d', p⟩, hstart, rfl⟩ := Option.map_eq_some_iff.mp hspawn
  obtain ⟨rfl, hplain⟩ := packageSystem_direct.start w s.store d' p hstart
  obtain rfl : w'.prog = p := by
    simp only [packageSystem, hw, Except.toOption, Option.map_some, Option.some.injEq,
      Prod.mk.injEq] at hstart
    exact hstart.2
  have hprocs : ∀ q ∈ s.procs ++ [{ prog := w'.prog }], q.Direct Uses := by
    intro q hq
    rcases List.mem_append.mp hq with hq | hq
    · exact hsp q hq
    · rw [List.mem_singleton.mp hq]
      exact ⟨rfl, hplain⟩
  have hkeyed := names_rule.allowedRun
    (s := { store := s.store, procs := s.procs ++ [{ prog := w'.prog }] }) hprocs hsd hall
  have hcall := does_prog w' {} s.store rfl
  obtain ⟨d'', -, hQ⟩ := Contributes.run (p := { prog := w'.prog }) (Q := fun r cs l _ =>
      l.txn = .none ∧ (Claimed r cs w' ↔ Meets cs w')) guarded (hs.exclusive.append _)
    List.getElem?_concat_length (fun _ hk => by cases hk) hcall hkeyed hrun hend
  exact hQ

section Decidable

variable (s : PackageStmt) (c : Choice Exn SyncEnv) (w : PackageCall) (d d' : SyncStore)

instance : Decidable (answered.stmt s c d) := inferInstanceAs (Decidable (answers s c d = true))

instance : Decidable (answered.spawn w d) := .isTrue trivial

instance : Decidable (answered.edit d d') := .isFalse not_false

end Decidable

/-- What a process has ended with. -/
def ending (p : Proc PackageStmt PackageStmt.Res Frame Exn SyncEnv (Option Package)) :
    Option (Except Exn (Option Package)) :=
  match p.prog with
  | .ret r => some r
  | _ => none

theorem ending_eq_some
    {p : Proc PackageStmt PackageStmt.Res Frame Exn SyncEnv (Option Package)}
    {r : Except Exn (Option Package)} (h : ending p = some r) : p = ⟨p.loc, .ret r⟩ := by
  obtain ⟨l, prog⟩ := p
  cases prog with
  | ret r' =>
      cases h
      rfl
  | ctl ct k => cases h
  | stmt s k => cases h

/-- A tenant and its admin. -/
def aTenant : SyncStore := {
  tenants := [{ id := 1, owner_phone := "254700000001", next_billing_date := 0 }]
  users := [{ id := 2, email := "a@example.com", phone := "254700000001", hashed_password := ""
              role := .admin, tenant_id := 1 }] }

/-- The body of the package "Daily". -/
def daily : PackageCreate where
  name := "Daily"
  price_kes := .finite 5000 (-2)
  duration_minutes := 1440
  speed_mbps := 10

/-- The run of a creation of the package after some moves. -/
theorem daily_run {before after : List PackageLabel} {i : ℕ} {r : Except Exn (Option Package)}
    (hlength : (State.run packageSystem { store := aTenant } before).map (·.procs.length) = some i)
    (hallowed : AllowedRun packageSystem answered { store := aTenant }
      (before ++ .spawn (.create 1 daily 2) :: after))
    (hrun : (State.run packageSystem { store := aTenant }
      (before ++ .spawn (.create 1 daily 2) :: after)).map (fun u => (u.procs[i]?).bind ending) =
        some (some r)) :
    ∃ s t u l, Reaches packageSystem answered { store := aTenant } s ∧
      s.step packageSystem (.spawn (.create 1 daily 2)) = some t ∧
      AllowedRun packageSystem answered t after ∧ t.run packageSystem after = some u ∧
      u.procs[s.procs.length]? = some ⟨l, .ret r⟩ := by
  obtain ⟨u, hu, hend⟩ := Option.map_eq_some_iff.mp hrun
  obtain ⟨s, hs, hlength⟩ := Option.map_eq_some_iff.mp hlength
  have hbefore : AllowedRun packageSystem answered { store := aTenant } before :=
    (hallowed.append hs).1
  rw [State.run_append, hs, Option.bind_some, State.run] at hu
  obtain ⟨t, ht, hu⟩ := Option.bind_eq_some_iff.mp hu
  obtain ⟨p, hp, hending⟩ := Option.bind_eq_some_iff.mp hend
  rw [ending_eq_some hending, ← hlength] at hp
  exact ⟨s, t, u, p.loc, .of_run hbefore hs, ht, (hallowed.append hs).2.2 t ht, hu, hp⟩

theorem aTenant_keyed : Keyed aTenant := ⟨List.nodup_nil, List.nodup_nil⟩

theorem daily_validate : (PackageCall.create 1 daily 2).validate = .ok (.create 1 daily 2) := by
  rfl

/-- The steps of a creation. -/
def creates (i : ℕ) (id : UUID) : List PackageLabel :=
  [.step i (.run {}), .step i (.run { uuid := id })]

/-- The row of the package. -/
def dailyRow : Package where
  id := 3
  name := "Daily"
  price_kes := .units ⟨5000, Money.fits_5000⟩
  duration_minutes := 1440
  speed_mbps := 10
  tenant_id := 1

/-- The first creation of a package, which meets the condition. -/
theorem package_names_daily : ∃ (s t : PackageState),
    s.step packageSystem (.spawn (.create 1 daily 2)) = some t ∧
    (Claimed (.ok (some dailyRow)) (t.contributions packageSystem s.procs.length (creates 0 3))
      (.create 1 daily 2) ↔
      Meets (t.contributions packageSystem s.procs.length (creates 0 3)) (.create 1 daily 2)) := by
  obtain ⟨s, t, u, l, hs, ht, hall, hu, hend⟩ := @daily_run [] (creates 0 3) 0
    (.ok (some dailyRow)) (by decide +kernel) (by decide +kernel) (by decide +kernel)
  exact ⟨s, t, ht, package_names aTenant_keyed hs daily_validate ht hall hu hend⟩

/-- A package cannot be created again after its withdrawal. -/
theorem not_package_names : ¬ EveryCall := by
  intro h
  obtain ⟨s, t, u, l, hs, ht, hall, hu, hend⟩ := @daily_run
    (.spawn (.create 1 daily 2) :: creates 0 3 ++ [.spawn (.deactivate 1 3), .step 1 (.run {})])
    (creates 2 4) 2 (.error (.uniqueViolation .packages_tenant_name_unique)) (by decide +kernel)
    (by decide +kernel) (by decide +kernel)
  obtain ⟨x, -, hanswered⟩ :=
    h aTenant s t u _ _ _ l _ aTenant_keyed hs daily_validate ht hall hu hend
  exact not_answered (by simp) hanswered

end PackageNames

end FrixelConnect
