import FrixelConnect.SessionSync

/-!
# Package forms

What the bodies of the requests that create and change a package accept, and the row that
`create_package` inserts.

## Implementation notes

The validators of the two bodies differ only in that a field of the second may be absent.
Both bodies take a finite number as price.
-/

namespace Decimals

/-- `round(d, places)`: half even; a result with too many digits raises. -/
def Context.round (ctx : Context) (places : ℕ) : Decimal → Except Signal Decimal
  | .finite c e =>
      let n := if 0 ≤ e + places then c * 10 ^ (e + places).toNat
        else c.sign * halfEven c.natAbs (10 ^ (-(e + places)).toNat)
      if digits n.natAbs ≤ ctx.prec then .ok (.finite n (-places)) else .error .invalidOperation
  | .nan => .ok .nan
  | _ => .error .invalidOperation

theorem Context.round_finite {ctx : Context} {places : ℕ} {c e : ℤ} {d : Decimal}
    (h : ctx.round places (.finite c e) = .ok d) : ∃ n, d = .finite n (-places) := by
  simp only [Context.round] at h
  split at h
  all_goals
    split at h
    · exact ⟨_, (Except.ok.inj h).symm⟩
    · cases h

end Decimals

namespace FrixelConnect

open Decimals Python

/-- The body of `POST /packages`. -/
structure PackageCreate where
  name : String
  description : Option String := none
  price_kes : Decimal
  duration_minutes : ℤ
  speed_mbps : ℤ
  data_quota_mb : Option ℤ := none

/-- A validator of a number that must be positive. -/
def must_be_positive (field : String) (v : ℤ) : Except Exn ℤ := do
  check (0 < v) (.valueError (field ++ " must be greater than 0."))
  pure v

/-- Rounded to the two decimals of the column. -/
def price_must_be_positive : Decimal → Except Exn Decimal
  | .finite c e => do
      check (0 < c) (.valueError "price_kes must be greater than 0.")
      (defaultContext.round 2 (.finite c e)).mapError .decimal
  | _ => .error (.valueError "Input should be a finite number")

/-- A price that is accepted is a number. -/
theorem price_finite {v w : Decimal} (h : price_must_be_positive v = .ok w) :
    ∃ c e, w = .finite c e := by
  cases v with
  | finite c e =>
      obtain ⟨_, -, h⟩ := Except.bind_eq_ok.mp h
      cases hround : defaultContext.round 2 (.finite c e) with
      | ok d =>
          rw [hround] at h
          obtain ⟨n, hd⟩ := Context.round_finite hround
          exact ⟨n, _, (Except.ok.inj h).symm.trans hd⟩
      | error s =>
          rw [hround] at h
          cases h
  | infinity a => cases h
  | nan => cases h
  | snan => cases h

def name_must_not_be_empty (v : String) : Except Exn String := do
  let v := strip v.toList
  check (!v.isEmpty) (.valueError "Package name cannot be empty.")
  check (v.length ≤ 100) (.valueError "Package name cannot exceed 100 characters.")
  pure (String.ofList v)

namespace PackageCreate

variable (data : PackageCreate)

def data_quota_must_be_positive : Option ℤ → Except Exn (Option ℤ) :=
  Option.mapM (must_be_positive "data_quota_mb")

def duration_must_be_positive : ℤ → Except Exn ℤ := must_be_positive "duration_minutes"

def speed_must_be_positive : ℤ → Except Exn ℤ := must_be_positive "speed_mbps"

/-- The body after its validators. -/
def validate : Except Exn PackageCreate := do
  let name ← name_must_not_be_empty data.name
  let price_kes ← price_must_be_positive data.price_kes
  let duration_minutes ← duration_must_be_positive data.duration_minutes
  let speed_mbps ← speed_must_be_positive data.speed_mbps
  let data_quota_mb ← data_quota_must_be_positive data.data_quota_mb
  pure { data with name, price_kes, duration_minutes, speed_mbps, data_quota_mb }

/-- `INSERT INTO packages`, next to the rows that are already there. -/
def insert (id tenant_id : UUID) (packages : List Package) : Except Exn Package := do
  let _ ← textParam (some 100) (.str data.name)
  let description ← textParam none ((data.description.map Json.str).getD .null)
  let price_kes ← moneyParam data.price_kes
  check (isInteger data.duration_minutes && isInteger data.speed_mbps &&
    data.data_quota_mb.all isInteger)
    (.database "invalid input for query argument: value out of int32 range")
  check (price_kes.positive && 0 < data.duration_minutes && 0 < data.speed_mbps)
    (.database "violates check constraint")
  check (packages.all fun p => p.id != id) (.uniqueViolation .primary_key)
  check (packages.all fun p => !(p.tenant_id == tenant_id && p.name == data.name))
    (.uniqueViolation .packages_tenant_name_unique)
  pure { id, name := data.name, description, price_kes, duration_minutes := data.duration_minutes
         speed_mbps := data.speed_mbps, data_quota_mb := data.data_quota_mb, tenant_id }

/-- The row for an unchecked body. -/
def row (id tenant_id : UUID) (packages : List Package) : Except Exn Package :=
  data.validate >>= fun data => data.insert id tenant_id packages

variable {data} {id tenant_id : UUID} {packages : List Package} {p : Package}

theorem validate_eq_ok {data' : PackageCreate} (h : data.validate = .ok data') :
    price_must_be_positive data.price_kes = .ok data'.price_kes ∧
      (∀ q, data'.data_quota_mb = some q → 0 < q) := by
  simp only [validate, duration_must_be_positive, speed_must_be_positive, must_be_positive,
    data_quota_must_be_positive, Except.bind_eq_ok, check_eq_ok, pure, Except.pure,
    Except.ok.injEq] at h
  obtain ⟨name, -, price_kes, hprice, duration_minutes, -, speed_mbps, -, data_quota_mb, hquota,
    rfl⟩ := h
  refine ⟨hprice, fun q hq => ?_⟩
  cases hdata : data.data_quota_mb with
  | none =>
      rw [hdata] at hquota
      cases hquota
      cases hq
  | some r =>
      rw [hdata] at hquota
      by_cases hr : 0 < r
      · simp [must_be_positive, check, hr, Functor.map, Except.map, pure, Except.pure,
          bind, Except.bind] at hquota
        rw [← hquota] at hq
        cases hq
        exact hr
      · simp [must_be_positive, check, hr, Functor.map, Except.map, bind, Except.bind]
          at hquota

theorem insert_eq_ok (h : data.insert id tenant_id packages = .ok p) :
    moneyParam data.price_kes = .ok p.price_kes ∧ p.price_kes.positive = true ∧
      0 < p.duration_minutes ∧ p.data_quota_mb = data.data_quota_mb := by
  simp only [insert, Except.bind_eq_ok, check_eq_ok, Bool.and_eq_true, decide_eq_true_eq, pure,
    Except.pure, Except.ok.injEq] at h
  obtain ⟨_, _, _, _, price_kes, hprice, _, _, _, ⟨⟨hpositive, hduration⟩, _⟩, _, _, _, _, rfl⟩ := h
  exact ⟨hprice, hpositive, hduration, rfl⟩

/-- The limits of a package are positive. -/
theorem row_limits (h : data.row id tenant_id packages = .ok p) :
    0 < p.duration_minutes ∧ ∀ q, p.data_quota_mb = some q → 0 < q := by
  obtain ⟨data', hvalid, hinsert⟩ := Except.bind_eq_ok.mp h
  obtain ⟨-, -, hduration, hquota⟩ := insert_eq_ok hinsert
  refine ⟨hduration, fun q hq => (validate_eq_ok hvalid).2 q (hquota ▸ hq)⟩

end PackageCreate

namespace PackageUpdate

variable (data : PackageUpdate)

/-- The body after its validators. -/
def validate : Except Exn PackageUpdate := do
  let name ← data.name.mapM name_must_not_be_empty
  let price_kes ← data.price_kes.mapM price_must_be_positive
  let duration_minutes ← data.duration_minutes.mapM (must_be_positive "duration_minutes")
  let speed_mbps ← data.speed_mbps.mapM (must_be_positive "speed_mbps")
  let data_quota_mb ← data.data_quota_mb.mapM (must_be_positive "data_quota_mb")
  pure { data with name, price_kes, duration_minutes, speed_mbps, data_quota_mb }

end PackageUpdate

end FrixelConnect
