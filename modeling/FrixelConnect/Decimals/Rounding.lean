import Mathlib.Data.Nat.Log
import Mathlib.Tactic.Ring
import Mathlib.Tactic.Linarith

/-!
# Rounding quotients of natural numbers

`halfAway m n` and `halfEven m n` are `m / n` rounded to the nearest integer.
They differ on ties only: the first goes up, the second to the even neighbour.

The last result is about rounding twice, first to a fine grid and then to a
coarse one that contains it. The two roundings give what the coarse one alone
gives, except just below a tie of the coarse grid, where the first rounding can
reach the tie.
-/

namespace Decimals

/-- The nearest integer to `m / n`, the upper one on a tie. -/
def halfAway (m n : ℕ) : ℕ := (2 * m + n) / (2 * n)

/-- The nearest integer to `m / n`, the even one on a tie. -/
def halfEven (m n : ℕ) : ℕ :=
  if 2 * (m % n) < n then m / n
  else if n < 2 * (m % n) then m / n + 1
  else if m / n % 2 = 0 then m / n
  else m / n + 1

variable {m n k : ℕ}

theorem halfAway_eq_iff (hn : 0 < n) :
    halfAway m n = k ↔ 2 * k * n ≤ 2 * m + n ∧ 2 * m + n < 2 * (k + 1) * n := by
  rw [halfAway, Nat.div_eq_iff (by omega)]
  have h₁ : k * (2 * n) = 2 * k * n := by ring
  have h₂ : 2 * (k + 1) * n = 2 * k * n + 2 * n := by ring
  rw [h₁, h₂]
  omega

/-- Whole multiples pass through the rounding. -/
theorem halfAway_mul_add (hn : 0 < n) : halfAway (k * n + m) n = k + halfAway m n := by
  have h : 2 * (k * n + m) + n = 2 * m + n + k * (2 * n) := by ring
  rw [halfAway, halfAway, h, Nat.add_mul_div_right _ _ (by omega), Nat.add_comm]

theorem halfAway_zero (n : ℕ) : halfAway 0 n = 0 := by
  rw [halfAway, Nat.div_eq_zero_iff]
  omega

theorem halfAway_one : halfAway m 1 = m := by
  simp [halfAway]
  omega

theorem halfAway_eq_zero_iff (hn : 0 < n) : halfAway m n = 0 ↔ 2 * m < n := by
  rw [halfAway_eq_iff hn]
  omega

theorem halfEven_bounds (hn : 0 < n) :
    2 * (halfEven m n * n) ≤ 2 * m + n ∧ 2 * m ≤ 2 * (halfEven m n * n) + n := by
  have hdiv := Nat.div_add_mod m n
  have hmod := Nat.mod_lt m hn
  have hcomm : n * (m / n) = m / n * n := Nat.mul_comm _ _
  have hsucc : (m / n + 1) * n = m / n * n + n := by ring
  unfold halfEven
  split
  · omega
  · split
    · omega
    · split <;> omega

/-- Rounding to the nearest multiple does not pass a multiple from below. -/
theorem le_halfEven (hn : 0 < n) (h : k * n ≤ m) : k ≤ halfEven m n := by
  have hk : k ≤ m / n := (Nat.le_div_iff_mul_le hn).mpr h
  unfold halfEven
  split
  · exact hk
  · split
    · omega
    · split <;> omega

/-- On a tie below an even multiple the rounding reaches it. -/
theorem halfEven_tie (hn : 0 < n) (hk : k % 2 = 0) (h : 2 * m + n = 2 * (k * n)) :
    halfEven m n = k := by
  have hdiv := Nat.div_add_mod m n
  have hmod := Nat.mod_lt m hn
  have hcomm : n * (m / n) = m / n * n := Nat.mul_comm _ _
  have hq : m / n + 1 = k := by
    have hlt : m / n * n < k * n := by omega
    have hle : k * n < (m / n + 2) * n := by
      have : (m / n + 2) * n = m / n * n + 2 * n := by ring
      omega
    have h₁ := Nat.lt_of_mul_lt_mul_right hlt
    have h₂ := Nat.lt_of_mul_lt_mul_right hle
    omega
  have hr : 2 * (m % n) = n := by
    have hsucc : (m / n + 1) * n = m / n * n + n := by ring
    rw [← hq, hsucc] at h
    omega
  unfold halfEven
  split
  · omega
  · split
    · omega
    · split <;> omega

/-- Above the tie below a multiple the rounding reaches that multiple. -/
theorem le_halfEven_of_tie_lt (hn : 0 < n) (h : 2 * (k * n) < 2 * m + n) :
    k ≤ halfEven m n := by
  by_contra hlt
  have hb := (halfEven_bounds (m := m) hn).2
  have hmul : (halfEven m n + 1) * n ≤ k * n := Nat.mul_le_mul_right n (by omega)
  have hsucc : (halfEven m n + 1) * n = halfEven m n * n + n := by ring
  omega

/-- Rounding to multiples of `n` first does not change the rounding to multiples of
`2 * n * k`, unless `m` lies within `n / 2` below a tie of the latter. -/
theorem halfAway_halfEven (hn : 0 < n) (hk : 0 < k)
    (h : 2 * m + n < (2 * halfAway m (2 * n * k) + 1) * (2 * n * k)) :
    halfAway (halfEven m n * n) (2 * n * k) = halfAway m (2 * n * k) := by
  have hN : 0 < 2 * n * k := by positivity
  obtain ⟨p, hp⟩ : ∃ p, halfAway m (2 * n * k) = p := ⟨_, rfl⟩
  rw [hp] at h ⊢
  obtain ⟨hlow, -⟩ := (halfAway_eq_iff hN).mp hp
  obtain ⟨hup, -⟩ := halfEven_bounds (m := m) hn
  rw [halfAway_eq_iff hN]
  constructor
  · -- The lower tie is itself a multiple of `n`, so the first rounding stays above it.
    rcases Nat.eq_zero_or_pos p with h0 | h0
    · simp [h0]
    · obtain ⟨t, rfl⟩ : ∃ t, p = t + 1 := ⟨p - 1, by omega⟩
      have htie : (2 * t + 1) * k * n ≤ m := by nlinarith
      have := Nat.mul_le_mul_right n (le_halfEven hn htie)
      nlinarith
  · nlinarith

end Decimals
