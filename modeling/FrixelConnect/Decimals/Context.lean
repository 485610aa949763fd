import FrixelConnect.Decimals.Rounding
import Mathlib.Data.Int.Order.Lemmas
import Mathlib.Tactic.Positivity
import Mathlib.Tactic.Push

/-!
# Decimal arithmetic in a context, and fixed-point columns

A finite decimal is `coeff * 10 ^ exp`. Sums are exact and then rounded half
even to the number of digits of the context. A column of precision `p` and
scale `s` keeps whole units of `10 ^ -s`, rounded half away from zero, with
less than `p` digits in total, or a NaN.

The two roundings meet when a sum is stored. `Straddles` says when the first
one moves a sum onto a half unit of the column, which the second one then
rounds up; in every other case the column holds the sum of the stored parts.

## Implementation notes

The sign of a zero and the spelling of a number with a trailing zero are not
kept. When rounding carries into a further digit, the coefficient keeps that
digit, which does not change the value.
-/

namespace Decimals

/-- A decimal floating-point number. -/
inductive Decimal where
  | finite (coeff exp : ℤ)
  | infinity (negative : Bool)
  | nan
  | snan
  deriving DecidableEq

/-- The conditions that raise instead of giving a result. -/
inductive Signal where
  | invalidOperation
  | overflow
  deriving DecidableEq

/-- Precision and exponent range of the arithmetic. -/
structure Context where
  prec : ℕ := 28
  emax : ℤ := 999999
  emin : ℤ := -999999

/-- The number of decimal digits, one for zero. -/
def digits (m : ℕ) : ℕ := Nat.log 10 m + 1

theorem digits_le_iff {m k : ℕ} (hk : 0 < k) : digits m ≤ k ↔ m < 10 ^ k := by
  rw [digits]
  rcases Nat.eq_zero_or_pos m with rfl | hm
  · simp only [Nat.log_zero_right, zero_add]
    exact ⟨fun _ => by positivity, fun _ => hk⟩
  · rw [← Nat.log_lt_iff_lt_pow (by omega) (by omega)]
    omega

namespace Context

variable (ctx : Context)

/-- The least exponent of a result. -/
def etiny : ℤ := ctx.emin - ctx.prec + 1

/-- Round a nonzero exact result to the precision of the context. -/
def fix (coeff exp : ℤ) : Except Signal Decimal :=
  let low := max (digits coeff.natAbs + exp - ctx.prec) ctx.etiny
  if coeff = 0 then .ok (.finite 0 exp)
  else if ctx.emax < digits coeff.natAbs + exp - 1 then .error .overflow
  else if low ≤ exp then .ok (.finite coeff exp)
  else .ok (.finite (coeff.sign * halfEven coeff.natAbs (10 ^ (low - exp).toNat)) low)

/-- The exact sum of two finite numbers, over the smaller exponent. -/
def sumCoeff (c e c' e' : ℤ) : ℤ :=
  c * 10 ^ (e - min e e').toNat + c' * 10 ^ (e' - min e e').toNat

def add : Decimal → Decimal → Except Signal Decimal
  | .snan, _ => .error .invalidOperation
  | _, .snan => .error .invalidOperation
  | .nan, _ => .ok .nan
  | _, .nan => .ok .nan
  | .infinity a, .infinity b =>
      if a = b then .ok (.infinity a) else .error .invalidOperation
  | .infinity a, .finite _ _ => .ok (.infinity a)
  | .finite _ _, .infinity b => .ok (.infinity b)
  | .finite c e, .finite c' e' => ctx.fix (sumCoeff c e c' e') (min e e')

end Context

/-- The number with the opposite sign. -/
def Decimal.neg : Decimal → Decimal
  | .finite c e => .finite (-c) e
  | .infinity a => .infinity (!a)
  | d => d

def Context.sub (ctx : Context) (a b : Decimal) : Except Signal Decimal := ctx.add a b.neg

/-- Strict order; a comparison with a NaN raises. -/
def Decimal.lt : Decimal → Decimal → Except Signal Bool
  | .snan, _ => .error .invalidOperation
  | _, .snan => .error .invalidOperation
  | .nan, _ => .error .invalidOperation
  | _, .nan => .error .invalidOperation
  | .infinity a, .infinity b => .ok (a && !b)
  | .infinity a, .finite _ _ => .ok a
  | .finite _ _, .infinity b => .ok (!b)
  | .finite c e, .finite c' e' =>
      .ok (c * 10 ^ (e - min e e').toNat < c' * 10 ^ (e' - min e e').toNat)

/-- The contents of a `NUMERIC(p, s)` column: whole units of `10 ^ -s`, or NaN. -/
inductive Column (p : ℕ) where
  | nan
  | units (n : {n : ℤ // n.natAbs < 10 ^ p})
  deriving DecidableEq

/-- A finite number in units of `10 ^ -s`, rounded half away from zero. -/
def roundUnits (s : ℕ) (c e : ℤ) : ℤ :=
  if 0 ≤ e + s then c * 10 ^ (e + s).toNat
  else c.sign * halfAway c.natAbs (10 ^ (-(e + s)).toNat)

/-- Writing a number to a column; `none` when the column cannot hold it. A number with
more than 16383 decimals cannot be sent at all, and an infinity does not fit. -/
def Column.store (p s : ℕ) : Decimal → Option (Column p)
  | .finite c e =>
      if e < -16383 then none
      else if h : (roundUnits s c e).natAbs < 10 ^ p then some (.units ⟨_, h⟩)
      else none
  | .infinity _ => none
  | .nan => some .nan
  | .snan => some .nan

/-- Reading a column gives a number with exactly `s` decimals. -/
def Column.load {p : ℕ} (s : ℕ) : Column p → Decimal
  | .nan => .nan
  | .units n => .finite n (-s)

@[simp] theorem roundUnits_exact (s : ℕ) (c : ℤ) : roundUnits s c (-s) = c := by
  simp [roundUnits]

theorem roundUnits_zero (s : ℕ) (e : ℤ) : roundUnits s 0 e = 0 := by
  simp [roundUnits]

/-- Rounding a natural number that is `j` decimals finer than the column. -/
theorem roundUnits_natCast (s m j : ℕ) :
    roundUnits s m (-(s + j)) = halfAway m (10 ^ j) := by
  have hj : (-(-((s : ℤ) + j) + s)).toNat = j := by omega
  unfold roundUnits
  rw [hj, Int.natAbs_natCast]
  split
  · have h0 : j = 0 := by omega
    subst h0
    simp [halfAway_one]
  · rcases Nat.eq_zero_or_pos m with rfl | hm
    · simp [halfAway_zero]
    · rw [Int.sign_eq_one_of_pos (by omega), one_mul]

theorem roundUnits_neg (s : ℕ) (c e : ℤ) : roundUnits s (-c) e = -roundUnits s c e := by
  unfold roundUnits
  split
  · ring
  · rw [Int.sign_neg, Int.natAbs_neg]
    ring

theorem roundUnits_sign (s : ℕ) (a c e : ℤ) :
    roundUnits s (a.sign * c) e = a.sign * roundUnits s c e := by
  rcases lt_trichotomy a 0 with h | rfl | h
  · rw [Int.sign_eq_neg_one_of_neg h, neg_one_mul, neg_one_mul, roundUnits_neg]
  · simp [roundUnits_zero]
  · rw [Int.sign_eq_one_of_pos h, one_mul, one_mul]

/-- A column stores what was read from it. -/
theorem Column.store_load {p s : ℕ} (hs : s ≤ 16383) (x : Column p) :
    Column.store p s (x.load s) = some x := by
  cases x with
  | nan => rfl
  | units n =>
      obtain ⟨n, hn⟩ := n
      simp only [Column.load, Column.store, roundUnits_exact]
      rw [if_neg (by omega), dif_pos hn]

theorem Column.store_finite_eq_some {p s : ℕ} {c e : ℤ} {x : Column p}
    (h : Column.store p s (.finite c e) = some x) :
    -16383 ≤ e ∧ ∃ hb, x = .units ⟨roundUnits s c e, hb⟩ := by
  simp only [Column.store] at h
  split at h
  · cases h
  · split at h
    · next hle hb => exact ⟨by omega, hb, (Option.some.inj h).symm⟩
    · cases h

/-- The context has room for sums of two numbers of a column, and for their scale. -/
structure Context.Holds (ctx : Context) (p s : ℕ) : Prop where
  prec : p + 4 ≤ ctx.prec
  emax : (p : ℤ) + 2 ≤ ctx.emax
  emin : ctx.emin ≤ -16383 - s

namespace Context

variable {ctx : Context} {p s : ℕ}

/-- A result with few enough digits is not rounded. -/
theorem fix_exact {c e : ℤ} (hd : digits c.natAbs ≤ ctx.prec) (he : ctx.etiny ≤ e)
    (hmax : digits c.natAbs + e - 1 ≤ ctx.emax) : ctx.fix c e = .ok (.finite c e) := by
  unfold fix
  by_cases h0 : c = 0
  · simp [h0]
  · rw [if_neg h0, if_neg (by omega), if_pos (by omega)]

end Context

/-- One unit of the last digit that rounding `m` keeps; zero when `m` is not rounded. -/
def Context.slack (ctx : Context) (m : ℕ) : ℕ :=
  if digits m ≤ ctx.prec then 0 else 10 ^ (digits m - ctx.prec)

/-- Rounding to the precision carries `m`, counted in parts of which `n` make a column
unit, up to the next half unit. -/
def Context.Straddles (ctx : Context) (m n : ℕ) : Prop :=
  (2 * halfAway m n + 1) * n ≤ 2 * m + ctx.slack m

instance (ctx : Context) (m n : ℕ) : Decidable (ctx.Straddles m n) :=
  inferInstanceAs (Decidable (_ ≤ _))

theorem halfAway_scale {m n k : ℕ} (hk : 0 < k) :
    halfAway (m * k) (n * k) = halfAway m n := by
  have h₁ : 2 * (m * k) + n * k = (2 * m + n) * k := by ring
  have h₂ : 2 * (n * k) = 2 * n * k := by ring
  rw [halfAway, halfAway, h₁, h₂, Nat.mul_div_mul_right _ _ hk]

namespace Context

variable {ctx : Context} {p s : ℕ}

/-- How far rounding goes for a number that is `j` decimals finer than the column. -/
private theorem excess_lt (h : ctx.Holds p s) {m j : ℕ} (hm : m < 10 ^ (p + 1) * 10 ^ j) :
    digits m < ctx.prec + j - 1 := by
  have hd : digits m ≤ p + 1 + j := by
    rw [digits_le_iff (by omega), pow_add]
    exact hm
  have := h.prec
  omega

/-- The stored value of a rounded natural number of `10 ^ -(s + j)`. -/
theorem roundUnits_fix (h : ctx.Holds p s) {m j : ℕ} (hm : m < 10 ^ (p + 1) * 10 ^ j)
    (hj : (s : ℤ) + j ≤ 16383 + s) :
    ∃ r e : ℤ, ctx.fix m (-(s + j)) = .ok (.finite r e) ∧
      (¬ ctx.Straddles m (10 ^ j) → roundUnits s r e = halfAway m (10 ^ j)) ∧
      (roundUnits s r e = 0 ↔ 2 * m + ctx.slack m < 10 ^ j) ∧ 0 ≤ roundUnits s r e := by
  have hex := excess_lt h hm
  have hprec := h.prec
  have hemax := h.emax
  have hemin := h.emin
  have hdig : digits m ≤ p + 1 + j := by
    rw [digits_le_iff (by omega), pow_add]
    exact hm
  have hjpos : 0 < 10 ^ j := by positivity
  by_cases hd : digits m ≤ ctx.prec
  · -- Nothing is rounded before the column rounds.
    have hfix : ctx.fix m (-(s + j)) = .ok (.finite m (-(s + j))) :=
      fix_exact (by simpa using hd) (by simp only [etiny]; omega) (by simp; omega)
    have hround := roundUnits_natCast s m j
    refine ⟨m, -(s + j), hfix, fun _ => hround, ?_, by rw [hround]; omega⟩
    rw [hround, slack, if_pos hd, ← Nat.cast_zero, Nat.cast_inj, halfAway_eq_zero_iff hjpos]
    omega
  · -- `i` digits are dropped first; they are all finer than the column.
    obtain ⟨i, hi⟩ : ∃ i, digits m = ctx.prec + i := ⟨digits m - ctx.prec, by omega⟩
    obtain ⟨t, rfl⟩ : ∃ t, j = i + (t + 2) := ⟨j - i - 2, by omega⟩
    have hm0 : m ≠ 0 := by
      rintro rfl
      simp [digits] at hd
      omega
    have hlow : max ((digits m : ℤ) + -(s + (i + (t + 2) : ℕ)) - ctx.prec) ctx.etiny =
        -(s + (t + 2)) := by
      rw [max_eq_left (by simp only [etiny]; omega)]
      push_cast
      omega
    have hsteps : (-((s : ℤ) + (t + 2)) - -(s + (i + (t + 2) : ℕ))).toNat = i := by
      push_cast
      omega
    have hfix : ctx.fix m (-(s + (i + (t + 2) : ℕ))) =
        .ok (.finite (halfEven m (10 ^ i)) (-(s + (t + 2)))) := by
      unfold fix
      simp only [Int.natAbs_natCast, hlow, hsteps]
      rw [if_neg (by omega), if_neg (by omega), if_neg (by omega),
        Int.sign_eq_one_of_pos (by omega), one_mul]
    have hround : roundUnits s (halfEven m (10 ^ i)) (-(s + (t + 2))) =
        halfAway (halfEven m (10 ^ i) * 10 ^ i) (10 ^ (i + (t + 2))) := by
      have hr := roundUnits_natCast s (halfEven m (10 ^ i)) (t + 2)
      push_cast at hr
      rw [hr, Nat.add_comm i, pow_add 10 (t + 2) i, halfAway_scale (by positivity)]
    have hslack : ctx.slack m = 10 ^ i := by
      rw [slack, if_neg hd, hi, Nat.add_sub_cancel_left]
    have hgrid : 10 ^ (i + (t + 2)) = 2 * 10 ^ i * (50 * 10 ^ t) := by
      rw [pow_add, pow_add]
      ring
    have hipos : 0 < 10 ^ i := by positivity
    refine ⟨_, _, hfix, fun hns => ?_, ?_, by rw [hround]; omega⟩
    · rw [hround, hgrid]
      rw [Straddles, hslack, hgrid] at hns
      rw [halfAway_halfEven hipos (by positivity) (by omega)]
    · rw [hround, hslack, ← Nat.cast_zero, Nat.cast_inj, halfAway_eq_zero_iff hjpos, hgrid]
      have hhalf : 2 * 10 ^ i * (50 * 10 ^ t) = 2 * (50 * 10 ^ t * 10 ^ i) := by ring
      rw [hhalf]
      constructor
      · intro hlt
        by_contra hge
        -- The number is at the tie or above it, and the half unit is an even multiple.
        have hle : 50 * 10 ^ t ≤ halfEven m (10 ^ i) := by
          rcases Nat.lt_or_ge (2 * (50 * 10 ^ t * 10 ^ i)) (2 * m + 10 ^ i) with hgt | heq
          · exact le_halfEven_of_tie_lt hipos hgt
          · exact (halfEven_tie hipos (by omega) (by omega)).ge
        have := Nat.mul_le_mul_right (10 ^ i) hle
        omega
      · intro hlt
        have := (halfEven_bounds (m := m) hipos).1
        omega

/-- Rounding is symmetric. -/
theorem fix_sign {c e r e' : ℤ} (h : ctx.fix c.natAbs e = .ok (.finite r e')) :
    ctx.fix c e = .ok (.finite (c.sign * r) e') := by
  by_cases h0 : c = 0
  · subst h0
    simp only [fix, Int.natAbs_zero, Nat.cast_zero, if_true, Except.ok.injEq,
      Decimal.finite.injEq] at h ⊢
    simp [h.2]
  · have hpos : (0 : ℤ) < c.natAbs := by omega
    simp only [fix, Int.natAbs_natCast, if_neg h0, if_neg hpos.ne'] at h ⊢
    split at h
    · cases h
    · next hmax =>
        rw [if_neg hmax]
        split at h
        · next hlow =>
            cases h
            rw [if_pos hlow, Int.sign_mul_natAbs]
        · next hlow =>
            rw [if_neg hlow]
            rw [Int.sign_eq_one_of_pos hpos, one_mul] at h
            cases h
            rfl

/-- How much finer than the column the exact sum of a column value and a number is. -/
def finer (s : ℕ) (e : ℤ) : ℕ := (-(s : ℤ) - min (-(s : ℤ)) e).toNat

/-- The sum of a column value and a storable number, rounded in the context and stored. -/
theorem store_add (h : ctx.Holds p s) {b c e : ℤ} (hb : b.natAbs < 10 ^ p)
    (hc : (roundUnits s c e).natAbs < 10 ^ p) (he : -16383 ≤ e) :
    ∃ r e' : ℤ, ctx.add (.finite b (-s)) (.finite c e) =
        .ok (.finite ((sumCoeff b (-s) c e).sign * r) e') ∧
      (¬ ctx.Straddles (sumCoeff b (-s) c e).natAbs (10 ^ finer s e) →
        roundUnits s r e' = halfAway (sumCoeff b (-s) c e).natAbs (10 ^ finer s e)) ∧
      (roundUnits s r e' = 0 ↔
        2 * (sumCoeff b (-s) c e).natAbs + ctx.slack (sumCoeff b (-s) c e).natAbs <
          10 ^ finer s e) ∧ 0 ≤ roundUnits s r e' := by
  have hmin : min (-(s : ℤ)) e = -(s + finer s e) := by
    unfold finer
    omega
  have hp : 10 ^ (p + 1) = 10 ^ p * 10 := pow_succ 10 p
  have hbound : (sumCoeff b (-s) c e).natAbs < 10 ^ (p + 1) * 10 ^ finer s e := by
    rcases le_or_gt (-(s : ℤ)) e with hle | hlt
    · -- The number is no finer than the column, so its units are exact.
      have hj : finer s e = 0 := by
        unfold finer
        omega
      have hround : roundUnits s c e = c * 10 ^ (e + s).toNat := by
        rw [roundUnits, if_pos (by omega)]
      have hsum : sumCoeff b (-s) c e = b + roundUnits s c e := by
        rw [sumCoeff, min_eq_left hle, hround]
        simp
      rw [hsum, hj]
      omega
    · obtain ⟨j, hj⟩ : ∃ j : ℕ, e = -(s + j) := ⟨(-(s : ℤ) - e).toNat, by omega⟩
      have hfiner : finer s e = j := by
        unfold finer
        omega
      have hround : (roundUnits s c e).natAbs = halfAway c.natAbs (10 ^ j) := by
        have hnat := roundUnits_natCast s c.natAbs j
        rw [← hj] at hnat
        have hsign : roundUnits s c e = c.sign * halfAway c.natAbs (10 ^ j) := by
          rw [roundUnits, if_neg (by omega), show (-(e + s)).toNat = j by omega]
        rw [hsign, Int.natAbs_mul, Int.natAbs_natCast]
        rcases eq_or_ne c 0 with rfl | hc0
        · simp [halfAway_zero]
        · rw [Int.natAbs_sign_of_ne_zero hc0, one_mul]
      rw [hround] at hc
      have hsum : sumCoeff b (-s) c e = b * 10 ^ j + c := by
        rw [sumCoeff, min_eq_right hlt.le, show (-(s : ℤ) - e).toNat = j by omega]
        simp
      have hpos : 0 < 10 ^ j := by positivity
      have hc' : 2 * c.natAbs < 2 * 10 ^ p * 10 ^ j := by
        obtain ⟨-, hup⟩ := (halfAway_eq_iff (m := c.natAbs) hpos).mp rfl
        have := Nat.mul_le_mul_right (10 ^ j) (show 2 * (halfAway c.natAbs (10 ^ j) + 1) ≤
          2 * 10 ^ p by omega)
        omega
      have hb' : b.natAbs * 10 ^ j + 10 ^ j ≤ 10 ^ p * 10 ^ j := by
        have := Nat.mul_le_mul_right (10 ^ j) (show b.natAbs + 1 ≤ 10 ^ p by omega)
        rwa [Nat.add_mul, one_mul] at this
      have habs : (b * 10 ^ j + c).natAbs ≤ b.natAbs * 10 ^ j + c.natAbs := by
        refine (Int.natAbs_add_le _ _).trans ?_
        rw [Int.natAbs_mul, Int.natAbs_pow]
        rfl
      rw [hsum, hfiner, hp]
      nlinarith
  have hj : (s : ℤ) + finer s e ≤ 16383 + s := by
    unfold finer
    omega
  obtain ⟨r, e', hfix, hround, hzero, hnonneg⟩ := roundUnits_fix h hbound hj
  refine ⟨r, e', ?_, hround, hzero, hnonneg⟩
  rw [add, hmin]
  exact fix_sign hfix

/-- Storing a sum that is not carried over a half unit gives the rounded exact sum. -/
theorem store_sum (h : ctx.Holds p s) {b c e : ℤ} {d : Decimal} {x y : Column p}
    (hb : b.natAbs < 10 ^ p) (hx : Column.store p s (.finite c e) = some x)
    (hd : ctx.add (.finite b (-s)) (.finite c e) = .ok d) (hy : Column.store p s d = some y)
    (hs : ¬ ctx.Straddles (sumCoeff b (-s) c e).natAbs (10 ^ finer s e)) :
    ∃ hn, y = .units ⟨(sumCoeff b (-s) c e).sign *
      halfAway (sumCoeff b (-s) c e).natAbs (10 ^ finer s e), hn⟩ := by
  obtain ⟨he, hc, -⟩ := Column.store_finite_eq_some hx
  obtain ⟨r, e', hadd, hround, -⟩ := store_add h hb hc he
  rw [hadd] at hd
  cases hd
  obtain ⟨-, hn, rfl⟩ := Column.store_finite_eq_some hy
  have hvalue : roundUnits s ((sumCoeff b (-s) c e).sign * r) e' = (sumCoeff b (-s) c e).sign *
      halfAway (sumCoeff b (-s) c e).natAbs (10 ^ finer s e) := by
    rw [roundUnits_sign, hround hs]
  refine ⟨hvalue ▸ hn, ?_⟩
  simp only [hvalue]

/-- The stored sum is negative when the exact one is and does not round to zero. -/
theorem store_sum_neg_iff (h : ctx.Holds p s) {b c e : ℤ} {d : Decimal} {x : Column p}
    {n : {n : ℤ // n.natAbs < 10 ^ p}} (hb : b.natAbs < 10 ^ p)
    (hx : Column.store p s (.finite c e) = some x)
    (hd : ctx.add (.finite b (-s)) (.finite c e) = .ok d)
    (hy : Column.store p s d = some (.units n)) :
    n.val < 0 ↔ sumCoeff b (-s) c e < 0 ∧
      10 ^ finer s e ≤ 2 * (sumCoeff b (-s) c e).natAbs + ctx.slack (sumCoeff b (-s) c e).natAbs := by
  obtain ⟨he, hc, -⟩ := Column.store_finite_eq_some hx
  obtain ⟨r, e', hadd, -, hzero, hnonneg⟩ := store_add h hb hc he
  rw [hadd] at hd
  cases hd
  obtain ⟨-, hn, hunits⟩ := Column.store_finite_eq_some hy
  cases hunits
  change roundUnits s _ _ < 0 ↔ _
  rw [roundUnits_sign]
  rcases le_or_gt 0 (sumCoeff b (-s) c e) with hle | hlt
  · have := mul_nonneg (Int.sign_nonneg_iff.mpr hle) hnonneg
    omega
  · rw [Int.sign_eq_neg_one_of_neg hlt]
    omega

/-- A sum that is stored is a finite number when the summands are. -/
theorem store_sum_finite (h : ctx.Holds p s) {b c e : ℤ} {d : Decimal} {x y : Column p}
    (hb : b.natAbs < 10 ^ p) (hx : Column.store p s (.finite c e) = some x)
    (hd : ctx.add (.finite b (-s)) (.finite c e) = .ok d) (hy : Column.store p s d = some y) :
    ∃ n, y = .units n := by
  obtain ⟨he, hc, -⟩ := Column.store_finite_eq_some hx
  obtain ⟨r, e', hadd, -⟩ := store_add h hb hc he
  rw [hadd] at hd
  cases hd
  obtain ⟨-, hn, rfl⟩ := Column.store_finite_eq_some hy
  exact ⟨_, rfl⟩

/-- A sum with a number that is no finer than the column is exact. -/
theorem sumCoeff_coarse {b c e : ℤ} (he : -(s : ℤ) ≤ e) :
    finer s e = 0 ∧ sumCoeff b (-s) c e = b + roundUnits s c e := by
  refine ⟨by unfold finer; omega, ?_⟩
  rw [sumCoeff, min_eq_left he, roundUnits, if_pos (by omega)]
  simp

/-- The rounded exact sum of a column value and a positive number is the sum of the stored
values. -/
theorem halfAway_sumCoeff {b c e : ℤ} (hb : 0 ≤ b) (hc : 0 < c) :
    0 < sumCoeff b (-s) c e ∧
      (halfAway (sumCoeff b (-s) c e).natAbs (10 ^ finer s e) : ℤ) = b + roundUnits s c e := by
  rcases le_or_gt (-(s : ℤ)) e with hle | hlt
  · obtain ⟨hj, hsum⟩ := sumCoeff_coarse (b := b) (c := c) hle
    have hpos : 0 < roundUnits s c e := by
      rw [roundUnits, if_pos (by omega)]
      positivity
    rw [hsum, hj, pow_zero, halfAway_one]
    omega
  · obtain ⟨j, rfl⟩ : ∃ j : ℕ, e = -(s + j) := ⟨(-(s : ℤ) - e).toNat, by omega⟩
    have hfiner : finer s (-(s + j)) = j := by
      unfold finer
      omega
    have hsum : sumCoeff b (-s) c (-(s + j)) = b * 10 ^ j + c := by
      rw [sumCoeff, min_eq_right hlt.le, show (-(s : ℤ) - -(s + j)).toNat = j by omega]
      simp
    obtain ⟨b, rfl⟩ := Int.eq_ofNat_of_zero_le hb
    obtain ⟨c, rfl⟩ := Int.eq_ofNat_of_zero_le hc.le
    have hnat : ((b : ℤ) * 10 ^ j + c).natAbs = b * 10 ^ j + c := by
      rw [← Int.natAbs_natCast (b * 10 ^ j + c)]
      push_cast
      rfl
    rw [hsum, hfiner, hnat, halfAway_mul_add (by positivity), roundUnits_natCast]
    refine ⟨?_, by push_cast; rfl⟩
    have : (0 : ℤ) ≤ b * 10 ^ j := by positivity
    omega

/-- A sum of few digits does not straddle the unit itself. -/
theorem not_straddles_one {m : ℕ} (hm : digits m ≤ ctx.prec) : ¬ ctx.Straddles m 1 := by
  rw [Straddles, slack, if_pos hm, halfAway_one]
  omega

end Context

end Decimals
