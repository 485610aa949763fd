import FrixelConnect.Ordering.Windows
import FrixelConnect.Python.Stateful
import FrixelConnect.SessionSync
import FrixelConnect.SuperAdmins

/-!
# The lists of the super admins

The tenants and the audit log are shown in pages, the newest rows first. A page and a limit are
any integers. The rows are counted by one query and fetched by another one, whose `ORDER BY`
compares nothing but the time of creation.

## Implementation notes

How the database matches a pattern is a parameter, and how it arranges rows that were created at
the same time is a choice of the environment for each query. An answer holds values where the
code holds their texts. The client's address is one that the middleware has accepted.
-/

namespace FrixelConnect

open Calendar Ordering Python

/-- The columns of a tenant that the list shows. -/
structure TenantAccount where
  id : UUID
  business_name : String
  owner_email : String
  subscription_tier : SubscriptionTier := .starter
  status : TenantStatus := .active
  next_billing_date : Option Timestamptz := none
  created_at : Timestamptz
  deriving DecidableEq

/-- A row of `super_admin_audit_log`. -/
structure AuditEntry where
  id : UUID
  super_admin_id : UUID
  action : String
  target_type : Option String := none
  target_id : Option UUID := none
  metadata : Json := .obj []
  ip_address : Option String := none
  created_at : Timestamptz

/-- The tables of the lists, with their keys. -/
structure PortalStore where
  tenants : List TenantAccount := []
  users : List User := []
  super_admins : List SuperAdmin := []
  super_admin_audit_log : List AuditEntry := []
  tenants_pkey : (tenants.map (·.id)).Nodup := by decide
  super_admins_pkey : (super_admins.map (·.id)).Nodup := by decide
  audit_log_pkey : (super_admin_audit_log.map (·.id)).Nodup := by decide
  audit_log_fkey : ∀ r ∈ super_admin_audit_log, r.super_admin_id ∈ super_admins.map (·.id) :=
    by decide

/-- What the environment contributes to a call. -/
structure PortalEnv where
  uuid : UUID := 0
  now : Timestamptz := 0
  ip_address : String := "0.0.0.0"

abbrev PortalM := Stateful Exn PortalStore

/-- `INSERT INTO super_admin_audit_log …`. -/
def PortalStore.insert_audit_log (d : PortalStore) (r : AuditEntry) : Except Exn PortalStore :=
  if hid : ∀ r' ∈ d.super_admin_audit_log, r'.id ≠ r.id then
    if hadmin : r.super_admin_id ∈ d.super_admins.map (·.id) then
      .ok { d with
        super_admin_audit_log := d.super_admin_audit_log ++ [r]
        audit_log_pkey := nodup_map_concat _ d.audit_log_pkey hid
        audit_log_fkey := by
          intro r' hr'
          rcases List.mem_append.mp hr' with h | h
          · exact d.audit_log_fkey r' h
          · rwa [List.mem_singleton.mp h] }
    else .error (.database "insert or update violates foreign key constraint")
  else .error (.uniqueViolation .primary_key)

def _log_action (v : PortalEnv) (super_admin_id : UUID) (action : String) (metadata : Json) :
    PortalM Unit := do
  let d ← getThe PortalStore
  let d ← liftExcept (d.insert_audit_log
    { id := v.uuid, super_admin_id, action, metadata, ip_address := some v.ip_address
      created_at := v.now })
  set d

/-! ## The statements of a page -/

/-- A condition of the `WHERE` clause, with the value that it binds. -/
structure Condition (α : Type) where
  value : String
  holds : α → Bool

/-- The condition of a filter that is given; an empty one is none. -/
def condition {α : Type} (filter : Option String) (value : String → String)
    (holds : α → String → Bool) : List (Condition α) :=
  match filter.filter (· ≠ "") with
  | some s => [{ value := value s, holds := fun r => holds r (value s) }]
  | none => []

/-- `WHERE … AND …`. -/
def matching {α : Type} (conditions : List (Condition α)) (rows : List α) : List α :=
  rows.filter fun r => conditions.all fun c => c.holds r

/-- No text of the database has a null character. -/
def bind_values {α : Type} (conditions : List (Condition α)) : Except Exn Unit :=
  if conditions.any (fun c => c.value.toList.contains '\x00') then
    .error (.database "invalid byte sequence for encoding \"UTF8\": 0x00")
  else .ok ()

/-- `SELECT COUNT(*)`. -/
def count_rows {α : Type} (rows : List α) : Except Exn ℤ :=
  if isBigint rows.length then .ok rows.length else .error (.database "bigint out of range")

/-- `LIMIT … OFFSET …`. -/
def limit_offset {α : Type} (limit offset : ℤ) (rows : List α) : Except Exn (List α) :=
  if (isBigint limit && isBigint offset) = false then
    .error (.database "invalid input for query argument: value out of int64 range")
  else if offset < 0 then .error (.database "OFFSET must not be negative")
  else if limit < 0 then .error (.database "LIMIT must not be negative")
  else .ok (window limit.toNat offset.toNat rows)

/-- `max(1, -(-total // limit))`. -/
def page_count (total limit : ℤ) : Except Exn ℤ :=
  if limit = 0 then .error (.exception "integer division or modulo by zero")
  else .ok (max 1 (-(-total).fdiv limit))

/-! ## The tenants -/

structure TenantEntry where
  tenant : TenantAccount
  current_customer_count : ℕ

structure TenantPage where
  tenants : List TenantEntry
  total : ℤ
  page : ℤ
  limit : ℤ
  pages : ℤ

def SubscriptionTier.value : SubscriptionTier → String
  | .starter => "starter"
  | .growth => "growth"
  | .scale => "scale"
  | .enterprise => "enterprise"

def TenantStatus.value : TenantStatus → String
  | .active => "active"
  | .suspended => "suspended"
  | .cancelled => "cancelled"

variable (ilike : String → String → Bool)

def tenant_conditions (status_filter tier_filter search : Option String) :
    List (Condition TenantAccount) :=
  condition status_filter id (fun t s => t.status.value == s) ++
  condition tier_filter id (fun t s => t.subscription_tier.value == s) ++
  condition search (fun s => "%" ++ s ++ "%")
    (fun t s => ilike t.business_name s || ilike t.owner_email s)

/-- A tenant with the number of its customers, by `LEFT JOIN users … GROUP BY t.id`. -/
def PortalStore.tenant_entry (d : PortalStore) (t : TenantAccount) : TenantEntry where
  tenant := t
  current_customer_count := d.users.countP fun u =>
    u.tenant_id == t.id && u.role == .customer && u.is_active

/-- A filter in the metadata of a call. -/
def jsonText (s : Option String) : Json := s.elim .null .str

def get_all_tenants (o : OrderBy fun e : TenantEntry => e.tenant.created_at) (v : PortalEnv)
    (super_admin_id : UUID) (page limit : ℤ) (status_filter tier_filter search : Option String) :
    PortalM TenantPage := do
  let offset := (page - 1) * limit
  let conditions := tenant_conditions ilike status_filter tier_filter search
  let d ← getThe PortalStore
  liftExcept (bind_values conditions)
  let total ← liftExcept (count_rows (matching conditions d.tenants))
  let rows ← liftExcept (limit_offset limit offset
    (o.arrange ((matching conditions d.tenants).map d.tenant_entry)))
  _log_action v super_admin_id "tenant.list" (.obj
    [("page", .int page), ("limit", .int limit), ("status_filter", jsonText status_filter),
      ("tier_filter", jsonText tier_filter), ("search", jsonText search)])
  let pages ← liftExcept (page_count total limit)
  return { tenants := rows, total, page, limit, pages }

/-! ## The audit log -/

structure AuditLogEntry where
  entry : AuditEntry
  super_admin_email : String

structure AuditLogPage where
  entries : List AuditLogEntry
  total : ℤ
  page : ℤ
  limit : ℤ
  pages : ℤ

def audit_conditions (action_filter : Option String) : List (Condition AuditEntry) :=
  condition action_filter (fun s => "%" ++ s ++ "%") fun l s => ilike l.action s

/-- `JOIN super_admins sa ON sa.id = l.super_admin_id`. -/
def PortalStore.join_super_admins (d : PortalStore) (rows : List AuditEntry) :
    List AuditLogEntry :=
  rows.flatMap fun l => (d.super_admins.filter fun sa => sa.id == l.super_admin_id).map fun sa =>
    { entry := l, super_admin_email := sa.email }

def get_audit_log (o : OrderBy fun e : AuditLogEntry => e.entry.created_at) (page limit : ℤ)
    (action_filter : Option String) : PortalM AuditLogPage := do
  let offset := (page - 1) * limit
  let conditions := audit_conditions ilike action_filter
  let d ← getThe PortalStore
  liftExcept (bind_values conditions)
  let total ← liftExcept (count_rows (matching conditions d.super_admin_audit_log))
  let rows ← liftExcept (limit_offset limit offset
    (o.arrange (d.join_super_admins (matching conditions d.super_admin_audit_log))))
  let pages ← liftExcept (page_count total limit)
  return { entries := rows, total, page, limit, pages }

/-! ## What a call shows -/

/-- The rows and the page count of a call, from the arrangement of its rows. -/
def show_page {α : Type} (conditions : List (Condition α)) (xs : List α) (page limit : ℤ) :
    Except Exn (List α × ℤ) := do
  bind_values conditions
  let total ← count_rows xs
  let rows ← limit_offset limit ((page - 1) * limit) xs
  let pages ← page_count total limit
  return (rows, pages)

theorem limit_offset_map {α β : Type} (f : α → β) (limit offset : ℤ) (xs : List α) :
    limit_offset limit offset (xs.map f) = (limit_offset limit offset xs).map (List.map f) := by
  unfold limit_offset window
  split_ifs with h₁ h₂ h₃
  · rfl
  · rfl
  · rfl
  · rw [← List.map_drop, ← List.map_take]
    rfl

theorem count_rows_eq {α β : Type} {xs : List α} {ys : List β} (h : xs.length = ys.length) :
    count_rows xs = count_rows ys := by
  rw [count_rows, count_rows, h]

variable {ilike} {d : PortalStore} {v : PortalEnv} {super_admin_id : UUID} {page limit : ℤ}

theorem insert_audit_log_ok {r : AuditEntry} (hid : ∀ r' ∈ d.super_admin_audit_log, r'.id ≠ r.id)
    (hadmin : r.super_admin_id ∈ d.super_admins.map (·.id)) :
    ∃ d', d.insert_audit_log r = .ok d' := by
  rw [PortalStore.insert_audit_log, dif_pos hid, dif_pos hadmin]
  exact ⟨_, rfl⟩

theorem log_action_exec (action : String) (metadata : Json)
    (hid : ∀ r ∈ d.super_admin_audit_log, r.id ≠ v.uuid)
    (hadmin : super_admin_id ∈ d.super_admins.map (·.id)) :
    ∃ d', (_log_action v super_admin_id action metadata).exec d = (.ok (), d') := by
  obtain ⟨d', hd'⟩ := insert_audit_log_ok (d := d) (r :=
    { id := v.uuid, super_admin_id, action, metadata, ip_address := some v.ip_address
      created_at := v.now }) hid hadmin
  refine ⟨d', ?_⟩
  simp only [_log_action, Stateful.exec_bind, Stateful.exec_get, Stateful.exec_liftExcept, hd']
  rfl

/-- The tenants that a call lists, and the page count. -/
def TenantPage.shown (r : TenantPage) : List TenantAccount × ℤ := (r.tenants.map (·.tenant), r.pages)

theorem get_all_tenants_shown {o : OrderBy fun e : TenantEntry => e.tenant.created_at}
    {status_filter tier_filter search : Option String} {rows : List TenantAccount}
    (hrows : matching (tenant_conditions ilike status_filter tier_filter search) d.tenants = rows)
    (hid : ∀ r ∈ d.super_admin_audit_log, r.id ≠ v.uuid)
    (hadmin : super_admin_id ∈ d.super_admins.map (·.id)) :
    ((get_all_tenants ilike o v super_admin_id page limit status_filter tier_filter search).exec
        d).1.map TenantPage.shown =
      show_page (tenant_conditions ilike status_filter tier_filter search)
        ((o.arrange (rows.map d.tenant_entry)).map (·.tenant)) page limit := by
  have hcount : count_rows ((o.arrange (rows.map d.tenant_entry)).map (·.tenant)) =
      count_rows rows := by
    apply count_rows_eq
    rw [List.length_map, (o.arranged _).length_eq, List.length_map]
  obtain ⟨d', hlog⟩ := log_action_exec "tenant.list" (.obj
    [("page", .int page), ("limit", .int limit), ("status_filter", jsonText status_filter),
      ("tier_filter", jsonText tier_filter), ("search", jsonText search)]) hid hadmin
  calc _ = (bind_values (tenant_conditions ilike status_filter tier_filter search)).bind fun _ =>
        (count_rows rows).bind fun total =>
          (limit_offset limit ((page - 1) * limit) (o.arrange (rows.map d.tenant_entry))).bind
            fun xs => (page_count total limit).bind fun pages => .ok (xs.map (·.tenant), pages) := by
          rw [get_all_tenants, Stateful.exec_bind_ok Stateful.exec_get]
          simp only [hrows, Stateful.fst_bind_liftExcept, Stateful.exec_bind_ok hlog]
          rfl
    _ = _ := by
          rw [show_page, hcount, limit_offset_map]
          cases limit_offset limit ((page - 1) * limit) (o.arrange (rows.map d.tenant_entry)) with
          | error e => rfl
          | ok xs => rfl

/-- The entries of the log that a call shows, and the page count. -/
def AuditLogPage.shown (r : AuditLogPage) : List AuditEntry × ℤ := (r.entries.map (·.entry), r.pages)

theorem filter_key_length {sas : List SuperAdmin} (hkey : (sas.map (·.id)).Nodup) {id : UUID}
    (hid : id ∈ sas.map (·.id)) : (sas.filter fun sa => sa.id == id).length = 1 := by
  have hcount : ((sas.map (·.id)).filter fun x => x == id).length = 1 := by
    rw [← List.countP_eq_length_filter]
    exact List.count_eq_one_of_mem hkey hid
  rw [← hcount, List.filter_map, List.length_map]
  rfl

/-- An entry of the log with the address of its admin. -/
def PortalStore.audit_entry (d : PortalStore) (l : AuditEntry) : AuditLogEntry where
  entry := l
  super_admin_email := ((d.super_admins.filter fun sa => sa.id == l.super_admin_id).head?.map
    (·.email)).getD ""

/-- Every entry of the log is joined with one admin. -/
theorem join_super_admins_eq {rows : List AuditEntry}
    (h : ∀ r ∈ rows, r ∈ d.super_admin_audit_log) :
    d.join_super_admins rows = rows.map d.audit_entry := by
  induction rows with
  | nil => rfl
  | cons r rows ih =>
      have hone := filter_key_length d.super_admins_pkey (d.audit_log_fkey r (h r List.mem_cons_self))
      obtain ⟨sa, hsa⟩ := List.length_eq_one_iff.mp hone
      have hrest := ih fun r' hr' => h r' (List.mem_cons_of_mem _ hr')
      have hentry : d.audit_entry r = { entry := r, super_admin_email := sa.email } := by
        unfold PortalStore.audit_entry
        rw [hsa]
        rfl
      rw [List.map_cons, hentry, ← hrest, PortalStore.join_super_admins, List.flatMap_cons, hsa]
      rfl

theorem get_audit_log_shown {o : OrderBy fun e : AuditLogEntry => e.entry.created_at}
    {action_filter : Option String} {rows : List AuditEntry}
    (hrows : matching (audit_conditions ilike action_filter) d.super_admin_audit_log = rows) :
    ((get_audit_log ilike o page limit action_filter).exec d).1.map AuditLogPage.shown =
      show_page (audit_conditions ilike action_filter)
        ((o.arrange (rows.map d.audit_entry)).map (·.entry)) page limit := by
  have hmem : ∀ r ∈ rows, r ∈ d.super_admin_audit_log := by
    rw [← hrows]
    exact fun r hr => List.mem_of_mem_filter hr
  have hcount : count_rows ((o.arrange (rows.map d.audit_entry)).map (·.entry)) =
      count_rows rows := by
    apply count_rows_eq
    rw [List.length_map, (o.arranged _).length_eq, List.length_map]
  calc _ = (bind_values (audit_conditions ilike action_filter)).bind fun _ =>
        (count_rows rows).bind fun total =>
          (limit_offset limit ((page - 1) * limit) (o.arrange (rows.map d.audit_entry))).bind
            fun xs => (page_count total limit).bind fun pages => .ok (xs.map (·.entry), pages) := by
          rw [get_audit_log, Stateful.exec_bind_ok Stateful.exec_get]
          simp only [hrows, join_super_admins_eq hmem, Stateful.fst_bind_liftExcept]
          rfl
    _ = _ := by
          rw [show_page, hcount, limit_offset_map]
          cases limit_offset limit ((page - 1) * limit) (o.arrange (rows.map d.audit_entry)) with
          | error e => rfl
          | ok xs => rfl

/-! ## When a call shows a page -/

section Pages

variable {α : Type} {conditions : List (Condition α)} {xs rows : List α}

theorem bind_values_ok : bind_values conditions = .ok () ↔
    ∀ c ∈ conditions, '\x00' ∉ c.value.toList := by
  rw [bind_values]
  split
  · next h => simpa using h
  · next h => simpa using h

theorem count_rows_ok {total : ℤ} :
    count_rows xs = .ok total ↔ xs.length < 2 ^ 63 ∧ total = xs.length := by
  have hsize : isBigint xs.length = true ↔ xs.length < 2 ^ 63 := by
    rw [isBigint, Bool.and_eq_true, decide_eq_true_eq, decide_eq_true_eq]
    omega
  rw [count_rows]
  split
  · next h => rw [Except.ok.injEq, eq_comm, and_iff_right (hsize.mp h)]
  · next h => exact iff_of_false (by simp) fun hsmall => h (hsize.mpr hsmall.1)

theorem limit_offset_ok {limit offset : ℤ} : limit_offset limit offset xs = .ok rows ↔
    (0 ≤ limit ∧ limit < 2 ^ 63) ∧ (0 ≤ offset ∧ offset < 2 ^ 63) ∧
      rows = window limit.toNat offset.toNat xs := by
  have hsize : ∀ n : ℤ, isBigint n = true ↔ -2 ^ 63 ≤ n ∧ n < 2 ^ 63 := fun n => by
    rw [isBigint, Bool.and_eq_true, decide_eq_true_eq, decide_eq_true_eq]
  have hsizes : (isBigint limit && isBigint offset) = true ↔
      (-2 ^ 63 ≤ limit ∧ limit < 2 ^ 63) ∧ (-2 ^ 63 ≤ offset ∧ offset < 2 ^ 63) := by
    rw [Bool.and_eq_true, hsize, hsize]
  rw [limit_offset]
  split_ifs with h₁ h₂ h₃
  · rw [← Bool.not_eq_true, hsizes] at h₁
    refine iff_of_false (by simp) fun h => h₁ ?_
    omega
  · exact iff_of_false (by simp) fun h => by omega
  · exact iff_of_false (by simp) fun h => by omega
  · rw [Bool.not_eq_false, hsizes] at h₁
    rw [Except.ok.injEq, eq_comm]
    constructor
    · intro h
      exact ⟨⟨by omega, h₁.1.2⟩, ⟨by omega, h₁.2.2⟩, h⟩
    · exact fun h => h.2.2

/-- The call gives a page exactly when all of its parts do. -/
theorem show_page_ok {r : List α × ℤ} : show_page conditions xs page limit = .ok r ↔
    (∀ c ∈ conditions, '\x00' ∉ c.value.toList) ∧ xs.length < 2 ^ 63 ∧
      (1 ≤ limit ∧ limit < 2 ^ 63) ∧ (1 ≤ page ∧ (page - 1) * limit < 2 ^ 63) ∧
        r = (window limit.toNat ((page - 1) * limit).toNat xs,
          max 1 (-(-(xs.length : ℤ)).fdiv limit)) := by
  rw [show_page]
  simp only [Except.bind_eq_ok, limit_offset_ok, pure, Except.pure, Except.ok.injEq]
  constructor
  · rintro ⟨⟨⟩, hvalues, total, htotal, rows, ⟨hlimit, hoffset, rfl⟩, pages, hpages, rfl⟩
    obtain ⟨hcount, rfl⟩ := count_rows_ok.mp htotal
    rw [page_count] at hpages
    split at hpages
    · cases hpages
    · next hzero =>
        have hpos : 0 < limit := by omega
        cases hpages
        have hpage : 0 ≤ page - 1 := nonneg_of_mul_nonneg_left hoffset.1 hpos
        exact ⟨bind_values_ok.mp hvalues, hcount, ⟨hpos, hlimit.2⟩, ⟨by omega, hoffset.2⟩, rfl⟩
  · rintro ⟨hvalues, hcount, hlimit, hpage, rfl⟩
    have hoffset : 0 ≤ (page - 1) * limit := mul_nonneg (by omega) (by omega)
    refine ⟨(), bind_values_ok.mpr hvalues, _, count_rows_ok.mpr ⟨hcount, rfl⟩, _,
      ⟨⟨by omega, hlimit.2⟩, ⟨hoffset, hpage.2⟩, rfl⟩, _, ?_, rfl⟩
    rw [page_count, if_neg (by omega)]

/-- The rows fit on the pages, and they do not fit on fewer. -/
theorem page_count_bounds {total limit : ℤ} (hlimit : 0 < limit) :
    total ≤ max 1 (-(-total).fdiv limit) * limit ∧
      ∀ p : ℤ, 0 < p → p < max 1 (-(-total).fdiv limit) → p * limit < total := by
  rw [Int.fdiv_eq_ediv_of_nonneg _ hlimit.le]
  have hle : -total / limit * limit ≤ -total := Int.ediv_mul_le _ hlimit.ne'
  have hlt : -total < (-total / limit + 1) * limit := Int.lt_ediv_add_one_mul_self _ hlimit
  constructor
  · calc total ≤ -(-total / limit) * limit := by linarith
      _ ≤ max 1 (-(-total / limit)) * limit :=
          mul_le_mul_of_nonneg_right (le_max_right _ _) hlimit.le
  · intro p hp hpages
    have hp' : p ≤ -(-total / limit + 1) := by omega
    calc p * limit ≤ -(-total / limit + 1) * limit := mul_le_mul_of_nonneg_right hp' hlimit.le
      _ < total := by linarith

/-- What pagination is for: a call gives its page, and the pages up to the reported count show
every row once. Each of them is fetched by a call of its own, in its own circumstances. -/
structure Paginates {C : Type} (call : C → ℤ → Except Exn (List α × ℤ)) (valid : C → Prop)
    (rows : List α) (page : ℤ) : Prop where
  succeeds : ∀ c, valid c → ∃ r, call c page = .ok r
  partitions : ∀ c r, valid c → call c page = .ok r → ∀ σ : ℕ → C, (∀ p, valid (σ p)) →
    ∃ shown : ℕ → List α, (∀ p < r.2.toNat, ∃ n, call (σ p) (p + 1) = .ok (shown p, n)) ∧
      ((List.range r.2.toNat).flatMap shown).Perm rows

/-- When it does so: the numbers are in range, and no page ends between rows that were created at
the same time. -/
structure Pageable (key : α → Timestamptz) (conditions : List (Condition α)) (rows : List α)
    (page limit : ℤ) : Prop where
  limit_pos : 1 ≤ limit
  limit_max : limit < 2 ^ 63
  page_pos : 1 ≤ page
  offset_max : (page - 1) * limit < 2 ^ 63
  values : ∀ c ∈ conditions, '\x00' ∉ c.value.toList
  count : rows.length < 2 ^ 63
  ties : ∀ k, ¬ Splits key rows (k * limit.toNat)

variable {key : α → Timestamptz} {C : Type} {call : C → ℤ → Except Exn (List α × ℤ)}
  {valid : C → Prop}

/-- The pages of one limit, whatever the arrangements are that they are taken from. -/
theorem Pageable.shown (h : Pageable key conditions rows page limit) {p : ℕ}
    (hp : (p : ℤ) < max 1 (-(-(rows.length : ℤ)).fdiv limit)) (hxs : Arranged key rows xs) :
    ∃ n, show_page conditions xs (p + 1) limit =
      .ok (window limit.toNat (p * limit.toNat) xs, n) := by
  have hlimit : 0 < limit := h.limit_pos
  have hoffset : (p + 1 - 1) * limit = ((p * limit.toNat : ℕ) : ℤ) := by
    push_cast
    rw [Int.toNat_of_nonneg hlimit.le, add_sub_cancel_right]
  have hbound : (p + 1 - 1 : ℤ) * limit < 2 ^ 63 := by
    rw [add_sub_cancel_right]
    rcases Nat.eq_zero_or_pos p with rfl | hpos
    · simp
    · have hlt := (page_count_bounds hlimit).2 p (by omega) hp
      have hcount : (rows.length : ℤ) < 2 ^ 63 := by exact_mod_cast h.count
      exact hlt.trans hcount
  refine ⟨max 1 (-(-(xs.length : ℤ)).fdiv limit), show_page_ok.mpr
    ⟨h.values, ?_, ⟨h.limit_pos, h.limit_max⟩, ⟨by omega, hbound⟩, ?_⟩⟩
  · rw [hxs.length_eq]
    exact h.count
  · rw [hoffset, Int.toNat_natCast]

theorem length_le_pages {limit : ℤ} (hlimit : 0 < limit) (rows : List α) :
    rows.length ≤ (max 1 (-(-(rows.length : ℤ)).fdiv limit)).toNat * limit.toNat := by
  zify
  rw [Int.toNat_of_nonneg (zero_le_one.trans (le_max_left _ _)), Int.toNat_of_nonneg hlimit.le]
  exact (page_count_bounds hlimit).1

/-- Calls whose pages come from arrangements of the rows paginate exactly where this is so. -/
theorem paginates_iff (hrows : rows.Nodup)
    (hcall : ∀ c, valid c → ∃ xs, Arranged key rows xs ∧
      ∀ page, call c page = show_page conditions xs page limit)
    (hall : ∀ xs, Arranged key rows xs → ∃ c, valid c ∧
      ∀ page, call c page = show_page conditions xs page limit) :
    Paginates call valid rows page ↔ Pageable key conditions rows page limit := by
  constructor
  · intro h
    obtain ⟨xs, hxs⟩ := exists_arranged key rows
    obtain ⟨c, hc, hshow⟩ := hall xs hxs
    obtain ⟨r, hr⟩ := h.succeeds c hc
    have hok := hr
    rw [hshow] at hok
    obtain ⟨hvalues, hcount, hlimit, hpage, rfl⟩ := show_page_ok.mp hok
    rw [hxs.length_eq] at hcount
    refine ⟨hlimit.1, hlimit.2, hpage.1, hpage.2, hvalues, hcount, fun k hs => ?_⟩
    -- calls whose arrangements show a row twice
    obtain ⟨σ, hσ, hdup⟩ := exists_duplicate (n := (max 1 (-(-(xs.length : ℤ)).fdiv limit)).toNat)
      (by omega) hrows hs (hxs.length_eq ▸ length_le_pages hlimit.1 rows)
    choose cs hcs hshows using fun p => hall (σ p) (hσ p)
    obtain ⟨shown, hshown, hperm⟩ := h.partitions c _ hc hr cs hcs
    refine hdup ((List.Perm.of_eq ?_).trans hperm)
    apply List.flatMap_congr
    intro p hp
    obtain ⟨n, hn⟩ := hshown p (List.mem_range.mp hp)
    rw [hshows] at hn
    have heq : shown p = window limit.toNat ((p + 1 - 1 : ℤ) * limit).toNat (σ p) :=
      congrArg Prod.fst (show_page_ok.mp hn).2.2.2.2
    rw [heq, add_sub_cancel_right, Int.toNat_mul (by omega) (by omega), Int.toNat_natCast]
  · intro h
    have hshow {c : C} (hc : valid c) : ∃ xs, Arranged key rows xs ∧
        call c page = .ok (window limit.toNat ((page - 1) * limit).toNat xs,
          max 1 (-(-(rows.length : ℤ)).fdiv limit)) := by
      obtain ⟨xs, hxs, hshow⟩ := hcall c hc
      refine ⟨xs, hxs, (hshow page).trans (show_page_ok.mpr ⟨h.values, ?_,
        ⟨h.limit_pos, h.limit_max⟩, ⟨h.page_pos, h.offset_max⟩, by rw [hxs.length_eq]⟩)⟩
      rw [hxs.length_eq]
      exact h.count
    constructor
    · intro c hc
      obtain ⟨xs, -, hok⟩ := hshow hc
      exact ⟨_, hok⟩
    · intro c r hc hr σ hσ
      obtain ⟨xs, -, hok⟩ := hshow hc
      cases hr.symm.trans hok
      choose ys hys hshows using fun p => hcall (σ p) (hσ p)
      refine ⟨fun p => window limit.toNat (p * limit.toNat) (ys p), fun p hp => ?_,
        flatMap_window_perm (fun p _ => hys p) h.ties (length_le_pages h.limit_pos rows)⟩
      obtain ⟨n, hn⟩ := h.shown (Int.lt_toNat.mp hp) (hys p)
      exact ⟨n, (hshows p _).trans hn⟩

end Pages

/-! ## The two endpoints -/

/-- A call of `get_all_tenants`, with what it meets. -/
structure TenantsCall where
  d : PortalStore
  v : PortalEnv
  super_admin_id : UUID
  o : OrderBy fun e : TenantEntry => e.tenant.created_at

/-- The caller exists, the id of the new log entry is fresh, and the rows are these. -/
structure TenantsCall.Valid (conditions : List (Condition TenantAccount))
    (rows : List TenantAccount) (c : TenantsCall) : Prop where
  rows : matching conditions c.d.tenants = rows
  fresh : ∀ r ∈ c.d.super_admin_audit_log, r.id ≠ c.v.uuid
  caller : c.super_admin_id ∈ c.d.super_admins.map (·.id)

variable (ilike) in
/-- What a call of `get_all_tenants` shows. -/
def TenantsCall.shown (status_filter tier_filter search : Option String) (limit : ℤ)
    (c : TenantsCall) (page : ℤ) : Except Exn (List TenantAccount × ℤ) :=
  ((get_all_tenants ilike c.o c.v c.super_admin_id page limit status_filter tier_filter search).exec
    c.d).1.map TenantPage.shown

theorem tenants_paginate_iff {status_filter tier_filter search : Option String}
    {rows : List TenantAccount} {c : TenantsCall}
    (hc : c.Valid (tenant_conditions ilike status_filter tier_filter search) rows) :
    Paginates (TenantsCall.shown ilike status_filter tier_filter search limit)
        (TenantsCall.Valid (tenant_conditions ilike status_filter tier_filter search) rows)
        rows page ↔
      Pageable (·.created_at) (tenant_conditions ilike status_filter tier_filter search) rows page
        limit := by
  apply paginates_iff
  · rw [← hc.rows]
    exact (List.Nodup.of_map _ c.d.tenants_pkey).filter _
  · intro c hc
    refine ⟨_, arranged_entries c.d.tenant_entry TenantEntry.tenant (fun _ => rfl) c.o rows,
      fun page => ?_⟩
    rw [TenantsCall.shown, get_all_tenants_shown hc.rows hc.fresh hc.caller]
  · intro xs hxs
    obtain ⟨o, ho⟩ := hxs.exists_entries c.d.tenant_entry TenantEntry.tenant fun _ => rfl
    refine ⟨{ c with o }, ⟨hc.rows, hc.fresh, hc.caller⟩, fun page => ?_⟩
    rw [TenantsCall.shown, get_all_tenants_shown hc.rows hc.fresh hc.caller]
    dsimp only
    rw [ho]

/-- A call of `get_audit_log`, with what it meets. -/
structure AuditCall where
  d : PortalStore
  o : OrderBy fun e : AuditLogEntry => e.entry.created_at

variable (ilike) in
/-- What a call of `get_audit_log` shows. -/
def AuditCall.shown (action_filter : Option String) (limit : ℤ) (c : AuditCall) (page : ℤ) :
    Except Exn (List AuditEntry × ℤ) :=
  ((get_audit_log ilike c.o page limit action_filter).exec c.d).1.map AuditLogPage.shown

/-- The rows of the log that match. -/
def AuditCall.Valid (conditions : List (Condition AuditEntry)) (rows : List AuditEntry)
    (c : AuditCall) : Prop := matching conditions c.d.super_admin_audit_log = rows

theorem audit_log_paginates_iff {action_filter : Option String} {rows : List AuditEntry}
    (hrows : matching (audit_conditions ilike action_filter) d.super_admin_audit_log = rows) :
    Paginates (AuditCall.shown ilike action_filter limit)
        (AuditCall.Valid (audit_conditions ilike action_filter) rows) rows page ↔
      Pageable (·.created_at) (audit_conditions ilike action_filter) rows page limit := by
  apply paginates_iff
  · rw [← hrows]
    exact (List.Nodup.of_map _ d.audit_log_pkey).filter _
  · intro c hc
    refine ⟨_, arranged_entries c.d.audit_entry AuditLogEntry.entry (fun _ => rfl) c.o rows,
      fun page => ?_⟩
    rw [AuditCall.shown, get_audit_log_shown hc]
  · intro xs hxs
    obtain ⟨o, ho⟩ := hxs.exists_entries d.audit_entry AuditLogEntry.entry fun _ => rfl
    refine ⟨{ d, o }, hrows, fun page => ?_⟩
    rw [AuditCall.shown, get_audit_log_shown hrows]
    dsimp only
    rw [ho]

/-- Both lists are paginated where the numbers of the call are in range and no page ends between
rows that were created at the same time, and nowhere else. -/
theorem super_admin_lists {status_filter tier_filter search action_filter : Option String}
    {tenants : List TenantAccount} {entries : List AuditEntry} {c : TenantsCall} (page limit : ℤ)
    (hc : c.Valid (tenant_conditions ilike status_filter tier_filter search) tenants)
    (hentries : matching (audit_conditions ilike action_filter) d.super_admin_audit_log = entries) :
    (Paginates (TenantsCall.shown ilike status_filter tier_filter search limit)
        (TenantsCall.Valid (tenant_conditions ilike status_filter tier_filter search) tenants)
        tenants page ↔
      Pageable (·.created_at) (tenant_conditions ilike status_filter tier_filter search) tenants
        page limit) ∧
      (Paginates (AuditCall.shown ilike action_filter limit)
          (AuditCall.Valid (audit_conditions ilike action_filter) entries) entries page ↔
        Pageable (·.created_at) (audit_conditions ilike action_filter) entries page limit) :=
  ⟨tenants_paginate_iff hc, audit_log_paginates_iff hentries⟩

/-- Two tenants. -/
def twoTenants (created_at : Timestamptz) : List TenantAccount :=
  [{ id := 1, business_name := "a", owner_email := "a@x", created_at := 0 },
    { id := 2, business_name := "b", owner_email := "b@x", created_at }]

def portal (created_at : Timestamptz) : PortalStore where
  tenants := twoTenants created_at
  super_admins := [{ id := 7, email := "s@x", hashed_password := "", full_name := "" }]
  super_admin_audit_log := [{ id := 3, super_admin_id := 7, action := "tenant.list", created_at := 0 }]
  tenants_pkey := by simp [twoTenants]

/-- A call of the first page. -/
def firstCall (created_at : Timestamptz) : TenantsCall where
  d := portal created_at
  v := {}
  super_admin_id := 7
  o := .stable _

theorem firstCall_valid (created_at : Timestamptz) : (firstCall created_at).Valid
    (tenant_conditions (fun _ _ => false) none none none) (twoTenants created_at) :=
  ⟨rfl, by simp [firstCall, portal], by simp [firstCall, portal]⟩

/-- Two tenants of different times, on pages of one row, and a log of one entry. -/
theorem super_admin_lists_pages :
    Paginates (TenantsCall.shown (fun _ _ => false) none none none 1)
        (TenantsCall.Valid (tenant_conditions (fun _ _ => false) none none none) (twoTenants 1))
        (twoTenants 1) 1 ∧
      Paginates (AuditCall.shown (fun _ _ => false) none 1)
        (AuditCall.Valid (audit_conditions (fun _ _ => false) none)
          (portal 1).super_admin_audit_log) (portal 1).super_admin_audit_log 1 := by
  have hlog : matching (audit_conditions (fun _ _ => false) none)
      (portal 1).super_admin_audit_log = (portal 1).super_admin_audit_log := rfl
  have h := super_admin_lists 1 1 (firstCall_valid 1) hlog
  refine ⟨h.1.mpr ⟨by decide, by decide, by decide, by decide, by simp [tenant_conditions,
    condition], by decide, ?_⟩, h.2.mpr ⟨by decide, by decide, by decide, by decide,
    by simp [audit_conditions, condition], by decide, ?_⟩⟩
  · rintro k ⟨r, hr, hlt, hle⟩
    simp only [twoTenants, List.mem_cons, List.not_mem_nil, or_false] at hr
    rcases hr with rfl | rfl
    · simp [twoTenants] at hlt hle
      omega
    · simp [twoTenants] at hlt hle
      omega
  · rintro k ⟨r, hr, hlt, hle⟩
    simp only [portal, List.mem_singleton] at hr
    subst hr
    simp [portal] at hlt hle
    omega

/-- No call succeeds with the limit 0, and of two tenants that were created at the same time, pages
of one row can show one twice. -/
theorem not_super_admin_lists :
    ¬ Paginates (TenantsCall.shown (fun _ _ => false) none none none 0)
        (TenantsCall.Valid (tenant_conditions (fun _ _ => false) none none none) (twoTenants 1))
        (twoTenants 1) 1 ∧
      ¬ Paginates (TenantsCall.shown (fun _ _ => false) none none none 1)
        (TenantsCall.Valid (tenant_conditions (fun _ _ => false) none none none) (twoTenants 0))
        (twoTenants 0) 1 := by
  constructor
  · rw [tenants_paginate_iff (firstCall_valid 1)]
    exact fun h => absurd h.limit_pos (by decide)
  · rw [tenants_paginate_iff (firstCall_valid 0)]
    intro h
    apply h.ties 1
    exact ⟨_, List.mem_cons_self, by decide, by decide⟩

end FrixelConnect
