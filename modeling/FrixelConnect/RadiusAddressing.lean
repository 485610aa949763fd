import FrixelConnect.Specs.Credentials
import FrixelConnect.Specs.Outcome

/-!
# How a RADIUS request finds its tenant

A router sends its system identity as NAS-Identifier. The identity that it was
given carries the first eight digits of the tenant's id behind a name; the
authorization queries of FreeRADIUS read eight characters from the tenth on and
compare them with the first eight digits of every active tenant.
-/

namespace FrixelConnect

open Interleaving

/-- `str(tenant_id).replace("-", "")[:8]`. -/
def tenant_prefix (tenant_id : UUID) : List Char := (tenant_id.str.filter (· != '-')).take 8

/-- The name that `setup_hotspot_server` sets as system identity. -/
def nas_identifier (tenant_id : UUID) : List Char :=
  "Frixel Connect-".toList ++ tenant_prefix tenant_id

/-- `substring(text from start for count)`. -/
def substring (text : List Char) (start count : ℕ) : List Char :=
  (text.drop (start - 1)).take count

/-- `left(replace(id::text, '-', ''), 8)`. -/
def left_of_id (id : UUID) : List Char := (id.str.filter (· != '-')).take 8

/-- What FreeRADIUS expands in its queries. -/
structure AccessRequest where
  sql_user_name : String
  nas_identifier : List Char

/-- The subquery of both queries; `LIMIT 1` returns any of the rows. -/
def select_tenant (d : Store) (request : AccessRequest) (pick : ℕ) : Option UUID :=
  (fetchrow pick (fun t : Tenant => left_of_id t.id == substring request.nas_identifier 10 8 &&
    t.status == .active) d.tenants).map (·.id)

/-- The rows are in the order of their ids. -/
def authorize_query (t : RadiusTable) (d : Store) (request : AccessRequest) (pick : ℕ) :
    List RadiusRow :=
  match select_tenant d request pick with
  | none => []
  | some tenant_id =>
      (d.radius t).filter fun r => r.username == request.sql_user_name && r.tenant_id == tenant_id

def authorize_check_query : Store → AccessRequest → ℕ → List RadiusRow := authorize_query .radcheck

def authorize_reply_query : Store → AccessRequest → ℕ → List RadiusRow := authorize_query .radreply

namespace RadiusAddressing

/-- The request that a router of the tenant sends for a user. -/
def requestOf (tenant_id : UUID) (username : String) : AccessRequest :=
  { sql_user_name := username, nas_identifier := nas_identifier tenant_id }

/-- Both queries answer the request with the rows of the tenant. -/
def Addressed (d : Store) (tenant_id : UUID) (username : String) : Prop :=
  ∀ pick, authorize_check_query d (requestOf tenant_id username) pick =
      d.credentials .radcheck username tenant_id ∧
    authorize_reply_query d (requestOf tenant_id username) pick =
      d.credentials .radreply username tenant_id

variable {d : Store} {tenant_id id : UUID} {username : String}

/-- The tenth character is still one of the name. -/
theorem substring_nas_identifier :
    substring (nas_identifier tenant_id) 10 8 =
      "nnect-".toList ++ ( tenant_prefix tenant_id).take 2 := by
  have hdrop : "Frixel Connect-".toList.drop 9 = "nnect-".toList := by decide
  have hlength : "nnect-".toList.length = 6 := by decide
  calc substring (nas_identifier tenant_id) 10 8
      = ("nnect-".toList ++ tenant_prefix tenant_id).take 8 := by
        unfold substring nas_identifier
        rw [List.drop_append_of_le_length (by decide)]
        exact congrArg (fun s => (s ++ tenant_prefix tenant_id).take 8) hdrop
    _ = "nnect-".toList ++ ( tenant_prefix tenant_id).take 2 := by
        rw [List.take_append, hlength, List.take_of_length_le (by rw [hlength]; decide)]

/-- No id has the letter. -/
theorem not_mem_str : 'n' ∉ UUID.str id := by
  intro h
  rcases UUID.mem_str h with hdash | hdigit
  · exact absurd hdash (by decide)
  · exact absurd hdigit (by decide)

theorem left_of_id_ne : left_of_id id ≠ substring (nas_identifier tenant_id) 10 8 := by
  intro h
  rw [substring_nas_identifier] at h
  have hmem : 'n' ∈ left_of_id id := by
    rw [h]
    exact List.mem_cons_self
  exact not_mem_str (List.mem_of_mem_filter (List.mem_of_mem_take hmem))

/-- The subquery finds no tenant for any identity that a router was given. -/
theorem select_tenant_requestOf (pick : ℕ) :
    select_tenant d (requestOf tenant_id username) pick = none := by
  rw [select_tenant, Option.map_eq_none_iff, fetchrow_eq_none]
  intro t _ h
  rw [Bool.and_eq_true, beq_iff_eq] at h
  exact left_of_id_ne h.1

theorem authorize_query_requestOf (t : RadiusTable) (pick : ℕ) :
    authorize_query t d (requestOf tenant_id username) pick = [] := by
  rw [authorize_query, select_tenant_requestOf]

/-- A request from a router of the tenant is answered with the tenant's rows exactly when the
tenant has no row for the user in either table. -/
theorem addressed_iff (d : Store) (tenant_id : UUID) (username : String) :
    Addressed d tenant_id username ↔ d.credentials .radcheck username tenant_id = [] ∧
      d.credentials .radreply username tenant_id = [] := by
  constructor
  · intro h
    obtain ⟨hcheck, hreply⟩ := h 0
    rw [authorize_check_query, authorize_query_requestOf] at hcheck
    rw [authorize_reply_query, authorize_query_requestOf] at hreply
    exact ⟨hcheck.symm, hreply.symm⟩
  · rintro ⟨hcheck, hreply⟩ pick
    rw [authorize_check_query, authorize_reply_query, authorize_query_requestOf,
      authorize_query_requestOf, hcheck, hreply]
    exact ⟨rfl, rfl⟩

/-- The shop with one sold voucher. -/
def stocked : Store :=
  { shop with
    radcheck := [{ username := "AAAAAAAAAA", attr := "Cleartext-Password", op := ":="
                   value := "AAAAAAAAAA", tenant_id := 1 }] }

/-- The router's request finds no row. -/
theorem not_addressed : ¬ ∀ (d : Store), ∀ t ∈ d.tenants, t.status = .active →
    ∀ username, Addressed d t.id username := by
  intro h
  have haddressed := h stocked _ List.mem_cons_self rfl "AAAAAAAAAA" 0
  exact absurd haddressed.1 (by decide +kernel)

end RadiusAddressing

end FrixelConnect
