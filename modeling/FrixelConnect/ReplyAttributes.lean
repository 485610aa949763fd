import FrixelConnect.PackageSchemas
import FrixelConnect.Specs.Sale
import FrixelConnect.Specs.Credentials
import FrixelConnect.Interleaving.View

/-!
# The limits of a package as RADIUS attributes

`Session-Timeout` and `Mikrotik-Total-Limit` are 32-bit attributes, and their rows hold a decimal
text of any size. The rows of a package grant what the package says exactly when both products
fit; a larger byte limit would need its high word in `Mikrotik-Total-Limit-Gigawords`.
-/

namespace FrixelConnect

namespace ReplyAttributes

open Interleaving Alone

/-- The text of a 32-bit attribute is read as the number that it spells, when that fits. -/
def Reads (read : String → Option (BitVec 32)) : Prop :=
  ∀ n : ℕ, n < 2 ^ 32 → read (toString n) = some (BitVec.ofNat 32 n)

variable (read : String → Option (BitVec 32)) (rows : List RadiusRow)

/-- What is read of the rows of an attribute. -/
def values (attr : String) : List (Option (BitVec 32)) :=
  (rows.filter fun r => r.attr == attr).map fun r => read r.value

/-- The rows limit a session to `n` seconds. -/
def Seconds (n : ℤ) : Prop :=
  ∃ t : BitVec 32, values read rows "Session-Timeout" = [some t] ∧ (t.toNat : ℤ) = n

/-- The rows limit the traffic to `n` bytes; the high word may be missing. -/
def Bytes (n : ℤ) : Prop :=
  ∃ low high : BitVec 32, values read rows "Mikrotik-Total-Limit" = [some low] ∧
    (values read rows "Mikrotik-Total-Limit-Gigawords" = [some high] ∨
      values read rows "Mikrotik-Total-Limit-Gigawords" = [] ∧ high = 0) ∧
    (high.toNat * 2 ^ 32 + low.toNat : ℤ) = n

/-- The rows grant what the package says. -/
structure Grants (p : Package) : Prop where
  rate : (rows.filter fun r => r.attr == "Mikrotik-Rate-Limit").map (·.value) =
    [toString p.speed_mbps ++ "M"]
  seconds : Seconds read rows (p.duration_minutes * 60)
  quota : ∀ q, p.data_quota_mb = some q → Bytes read rows (q * 2 ^ 20)
  unlimited : p.data_quota_mb = none → values read rows "Mikrotik-Total-Limit" = [] ∧
    values read rows "Mikrotik-Total-Limit-Gigawords" = []

/-- The credentials of a user with the package. -/
def credentialsOf (p : Package) (username password : String) (tenant_id : UUID) : Credentials :=
  { username, password, speed_mbps := p.speed_mbps, duration_minutes := p.duration_minutes
    tenant_id, data_quota_mb := p.data_quota_mb }

/-- Provisioning that returns, in or out of a transaction, leaves rows that grant the package. -/
def Carries (p : Package) : Prop :=
  ∀ username password tenant_id d (l : RunLocal) x, machine.view d l = some x →
    ∀ y, Solo.Reaches machine anything ⟨(), d, ⟨l, _provision_radius_credentials username password
      p.speed_mbps p.duration_minutes tenant_id p.data_quota_mb⟩⟩ y → y.proc.prog = .ret (.ok ()) →
    ∃ x', machine.view y.store y.proc.loc = some x' ∧
      Grants read (x'.credentials .radreply username tenant_id) p

variable {read} {rows} {p : Package} {username password : String} {tenant_id : UUID} {x : Store}

/-- A statement that provisions. -/
theorem sees_bind {α : Type} {s : Stmt} {f : s.Res → M α} {P : α → Store → Prop}
    (hin : s.inTx = true) (h : ∀ v a x', s.eval v x = .ok (a, x') → Solo.Sees machine P (f a) x') :
    Solo.Sees machine P (exec s >>= f) x :=
  Solo.sees_exec_bind hin fun v a x' he => h v a x' (Stmt.exec_eq_ok.mp he)

/-- Provisioning puts the credentials in place of any older ones. -/
theorem sees_provision (c : Credentials) : Solo.Sees machine (fun _ x' => x' = c.install x)
    (_provision_radius_credentials c.username c.password c.speed_mbps c.duration_minutes
      c.tenant_id c.data_quota_mb) x := by
  refine sees_bind rfl fun _ _ _ he => ?_
  cases he
  refine sees_bind rfl fun _ _ _ he => ?_
  cases he
  refine sees_bind rfl fun _ _ _ he => ?_
  obtain rfl := Stmt.eval_insert_radius he
  refine sees_bind rfl fun _ _ _ he => ?_
  obtain rfl := Stmt.eval_insert_radius he
  refine sees_bind rfl fun _ _ _ he => ?_
  obtain rfl := Stmt.eval_insert_radius he
  cases hq : c.data_quota_mb with
  | none =>
      apply Solo.sees_pure
      simp [Credentials.install, Credentials.check, Credentials.replies, Credentials.others, hq,
        Store.setRadius, Store.radius]
  | some quota =>
      dsimp only
      split
      · next hne =>
          apply Solo.sees_exec (M := machine) (s := .insert_radius .radreply _) rfl
          intro v a x' he
          obtain rfl := Stmt.eval_insert_radius (Stmt.exec_eq_ok.mp he)
          simp [Credentials.install, Credentials.check, Credentials.replies, Credentials.others, hq,
            hne, Store.setRadius, Store.radius]
      · next hne =>
          apply Solo.sees_pure
          simp [Credentials.install, Credentials.check, Credentials.replies, Credentials.others, hq,
            hne, Store.setRadius, Store.radius]

/-- After provisioning the user has the rows of the package and no others. -/
theorem credentials_install (c : Credentials) :
    (c.install x).credentials .radreply c.username c.tenant_id = c.replies := by
  have hrest : (c.others x.radreply).filter (fun r =>
      r.username == c.username && r.tenant_id == c.tenant_id) = [] := by
    simp [Credentials.others, List.filter_filter]
  have hall : ∀ r ∈ c.replies, (r.username == c.username && r.tenant_id == c.tenant_id) = true := by
    intro r hr
    simp only [Credentials.replies] at hr
    cases hq : c.data_quota_mb with
    | none =>
        rw [hq] at hr
        simp at hr
        rcases hr with rfl | rfl <;> simp
    | some quota =>
        rw [hq] at hr
        by_cases hne : quota ≠ 0
        · simp [hne] at hr
          rcases hr with rfl | rfl | rfl <;> simp
        · simp [hne] at hr
          rcases hr with rfl | rfl <;> simp
  simp only [Store.credentials, Store.radius, Credentials.install, List.filter_append, hrest,
    List.nil_append, List.filter_eq_self.mpr hall]

/-- A number is read from its text exactly when it fits. -/
theorem read_iff (hread : Reads read) {n : ℤ} (hn : 0 ≤ n) :
    (∃ t, read (toString n) = some t ∧ (t.toNat : ℤ) = n) ↔ n < 2 ^ 32 := by
  obtain ⟨m, rfl⟩ := Int.eq_ofNat_of_zero_le hn
  have htext : toString (m : ℤ) = toString m := rfl
  rw [htext]
  constructor
  · rintro ⟨t, -, ht⟩
    have := t.isLt
    omega
  · intro hlt
    have hlt : m < 2 ^ 32 := by omega
    refine ⟨_, hread m hlt, ?_⟩
    rw [BitVec.toNat_ofNat, Nat.mod_eq_of_lt hlt]

/-- The rows of a package, by attribute. -/
theorem values_replies (c : Credentials) :
    ((c.replies.filter fun r => r.attr == "Mikrotik-Rate-Limit").map (·.value) =
      [toString c.speed_mbps ++ "M"]) ∧
    values read c.replies "Session-Timeout" = [read (toString (c.duration_minutes * 60))] ∧
    values read c.replies "Mikrotik-Total-Limit" = ((c.data_quota_mb.filter (· ≠ 0)).map fun q =>
      read (toString (q * 1024 * 1024))).toList ∧
    values read c.replies "Mikrotik-Total-Limit-Gigawords" = [] := by
  cases hq : c.data_quota_mb with
  | none => simp [values, Credentials.replies, hq]
  | some q =>
      by_cases hne : q = 0
      · simp [values, Credentials.replies, hq, hne]
      · simp [values, Credentials.replies, hq, hne, Option.filter]

/-- What the rows of a package grant. -/
theorem grants_replies_iff (hread : Reads read) {id tenant : UUID} {packages : List Package}
    {data : PackageCreate} (hp : data.row id tenant packages = .ok p) :
    Grants read (credentialsOf p username password tenant_id).replies p ↔
      p.duration_minutes ≤ 71582788 ∧ ∀ q, p.data_quota_mb = some q → q ≤ 4095 := by
  obtain ⟨hduration, hquota⟩ := PackageCreate.row_limits hp
  obtain ⟨hrate, hseconds, hlimit, hhigh⟩ :=
    @values_replies read (credentialsOf p username password tenant_id)
  have htimeout : Seconds read (credentialsOf p username password tenant_id).replies
      (p.duration_minutes * 60) ↔ p.duration_minutes * 60 < 2 ^ 32 := by
    rw [← read_iff hread (by omega), Seconds, hseconds]
    simp [credentialsOf]
  have hbytes (q : ℤ) (hq : p.data_quota_mb = some q) : Bytes read
      (credentialsOf p username password tenant_id).replies (q * 2 ^ 20) ↔ q * 2 ^ 20 < 2 ^ 32 := by
    have hpos := hquota q hq
    have hvalues : values read (credentialsOf p username password tenant_id).replies
        "Mikrotik-Total-Limit" = [read (toString (q * 2 ^ 20))] := by
      have hmul : q * 1024 * 1024 = q * 2 ^ 20 := by ring
      rw [hlimit]
      simp [credentialsOf, hq, hpos.ne', hmul]
    rw [← read_iff hread (by positivity), Bytes, hvalues, hhigh]
    simp
  constructor
  · intro h
    refine ⟨?_, fun q hq => ?_⟩
    · have := htimeout.mp h.seconds
      omega
    · have := (hbytes q hq).mp (h.quota q hq)
      omega
  · rintro ⟨hle, hall⟩
    refine ⟨hrate, htimeout.mpr (by omega), fun q hq => (hbytes q hq).mpr ?_, fun hnone => ?_⟩
    · have := hall q hq
      omega
    · rw [hlimit, hhigh]
      simp [credentialsOf, hnone]

/-- A tenant that exists can be provisioned for, and its rows are then those of the package. -/
theorem grants_of_carries (h : Carries read p) (t : Tenant) :
    Grants read (credentialsOf p username password t.id).replies p := by
  let d : Store := { tenants := [t] }
  have hrun : Solo.Always machine anything (fun _ _ => True)
      (fun r _ d' l' => r = .ok () → ∃ x', machine.view d' l' = some x' ∧
        Grants read (x'.credentials .radreply username t.id) p)
      (_provision_radius_credentials username password p.speed_mbps p.duration_minutes t.id
        p.data_quota_mb) () d {} := by
    refine Solo.always_iff.mpr fun y hy => ⟨trivial, fun r hr hok => ?_⟩
    exact h username password t.id d {} d rfl y hy (hok ▸ hr)
  have hinsert (x : Store) (table : RadiusTable) (row : RadiusRow) (hx : x.tenants = [t])
      (hrow : row.tenant_id = t.id) : (Stmt.insert_radius table row).eval {} x =
        .ok ((), x.setRadius table (x.radius table ++ [row])) :=
    eval_insert_radius_of table {} (by simp [Store.hasTenant, hx, hrow])
  have hrun := run (v := {}) hrun rfl rfl rfl
  have hrun := run (v := {}) hrun rfl rfl rfl
  have hrun := run hrun rfl rfl (hinsert _ _ _ rfl rfl)
  have hrun := run hrun rfl rfl (hinsert _ _ _ rfl rfl)
  have hrun := run hrun rfl rfl (hinsert _ _ _ rfl rfl)
  cases hq : p.data_quota_mb with
  | none =>
      rw [hq] at hrun
      obtain ⟨x', hx', hgrants⟩ := hrun.2 rfl
      cases hx'
      simpa [Credentials.replies, credentialsOf, hq, Store.credentials, Store.setRadius,
        Store.radius, d] using hgrants
  | some quota =>
      rw [hq] at hrun
      by_cases hne : quota ≠ 0
      · dsimp only at hrun
        rw [if_pos hne] at hrun
        have hrun := last hrun rfl rfl (hinsert _ _ _ rfl rfl)
        obtain ⟨x', hx', hgrants⟩ := hrun rfl
        cases hx'
        simpa [Credentials.replies, credentialsOf, hq, hne, Store.credentials, Store.setRadius,
          Store.radius, d] using hgrants
      · dsimp only at hrun
        rw [if_neg hne] at hrun
        obtain ⟨x', hx', hgrants⟩ := hrun.2 rfl
        cases hx'
        simpa [Credentials.replies, credentialsOf, hq, hne, Store.credentials, Store.setRadius,
          Store.radius, d] using hgrants

/-- The rows of a package grant what it says exactly when its duration is at most 71582788 minutes
and its quota, if it has one, less than 4096 megabytes. -/
theorem carries_iff (hread : Reads read) {id tenant : UUID} {packages : List Package}
    {data : PackageCreate} (hp : data.row id tenant packages = .ok p) :
    Carries read p ↔ p.duration_minutes ≤ 71582788 ∧
      ∀ q, p.data_quota_mb = some q → q ≤ 4095 := by
  constructor
  · intro h
    let t : Tenant := { id := 0, owner_phone := "", next_billing_date := 0 }
    have hgrants : Grants read (credentialsOf p "" "" t.id).replies p := grants_of_carries h t
    exact (grants_replies_iff hread hp).mp hgrants
  · intro hfits username password tenant_id d l x hx y hy hret
    have hsees := sees_provision (x := x) (credentialsOf p username password tenant_id) d l hx
    obtain ⟨x', hx', rfl⟩ := (Solo.always_iff.mp hsees y hy).2 _ hret () rfl
    refine ⟨_, hx', ?_⟩
    rw [show (Store.credentials _ .radreply username tenant_id) = _ from
      credentials_install (credentialsOf p username password tenant_id)]
    exact (grants_replies_iff hread hp).mpr hfits

/-- A text read digit by digit, modulo 2 to the 32. -/
def strtoul (s : String) : Option (BitVec 32) :=
  some (BitVec.ofNat 32 (Nat.ofDigitChars 10 s.toList 0))

theorem reads_strtoul : Reads strtoul := by
  intro n _
  have htext : toString n = n.repr := rfl
  rw [strtoul, htext, Nat.toList_repr]
  simp

/-- A month with a quota of so many megabytes. -/
def monthly (data_quota_mb : ℤ) : PackageCreate :=
  { name := "Monthly", price_kes := .finite 1500 0, duration_minutes := 43200, speed_mbps := 10
    data_quota_mb := some data_quota_mb }

/-- The row of such a package. -/
def monthlyRow (data_quota_mb : ℤ) : Package :=
  { id := 1, name := "Monthly", price_kes := .units ⟨150000, Money.fits_150000⟩, duration_minutes := 43200
    speed_mbps := 10, data_quota_mb := some data_quota_mb, tenant_id := 2 }

theorem carries_three_gigabytes : Carries strtoul (monthlyRow 3072) :=
  have hrow : (monthly 3072).row 1 2 [] = .ok (monthlyRow 3072) := by decide +kernel
  (carries_iff reads_strtoul hrow).mpr ⟨by decide, by decide⟩

/-- Of five gigabytes only one is left. -/
theorem not_carries : (monthly 5120).row 1 2 [] = .ok (monthlyRow 5120) ∧
    ∀ read, Reads read → ¬ Carries read (monthlyRow 5120) := by
  have hrow : (monthly 5120).row 1 2 [] = .ok (monthlyRow 5120) := by decide +kernel
  refine ⟨hrow, fun read hread h => ?_⟩
  let t : Tenant := { id := 0, owner_phone := "", next_billing_date := 0 }
  have hgrants : Grants read (credentialsOf (monthlyRow 5120) "" "" t.id).replies _ :=
    grants_of_carries h t
  have hle := ((grants_replies_iff hread hrow).mp hgrants).2 5120 rfl
  omega

end ReplyAttributes

end FrixelConnect
