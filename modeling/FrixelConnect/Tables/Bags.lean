import Mathlib.Data.Multiset.Bind

/-!
# Queries over bags of rows

A query puts rows of its tables together, keeps some of them, and shows columns of what it has
kept. The rows of a table are of several kinds. Where two versions of a table agree on the rows
of one kind, a query that keeps rows of this kind only does not tell them apart, and neither does
one that puts such rows together with rows of a second table that agrees on all that they meet.
-/

namespace Bags

variable {α β γ : Type} {p w w' : α → Bool} {q r : β → Bool} {on : α → β → Bool}
  {xs xs' : Multiset α} {ys ys' : Multiset β}

/-- `WHERE`. -/
def select (p : α → Bool) (xs : Multiset α) : Multiset α := xs.filter fun x => p x = true

/-- `EXISTS`. -/
def present (q : β → Bool) (ys : Multiset β) : Bool := decide (0 < (select q ys).card)

/-- Every row with what is made of the rows that it meets. -/
def combine (g : Multiset β → Multiset γ) (on : α → β → Bool) (xs : Multiset α)
    (ys : Multiset β) : Multiset (α × γ) :=
  xs.bind fun x => (g (select (on x) ys)).map (Prod.mk x)

/-- `JOIN … ON`. -/
def join (on : α → β → Bool) : Multiset α → Multiset β → Multiset (α × β) := combine id on

/-- The rows that are met, or nulls where there is none. -/
def orNull (ys : Multiset β) : Multiset (Option β) :=
  if ys.card = 0 then {none} else ys.map some

/-- `LEFT JOIN … ON`. -/
def leftJoin (on : α → β → Bool) : Multiset α → Multiset β → Multiset (α × Option β) :=
  combine orNull on

/-- Two versions of a table have the same rows of the kind `p`. -/
def Agree (p : α → Bool) (xs xs' : Multiset α) : Prop := select p xs = select p xs'

/-- The rows that a row of the kind `p` meets are of the kind `q`. -/
def Meets (p : α → Bool) (q : β → Bool) (on : α → β → Bool) (xs : Multiset α)
    (ys : Multiset β) : Prop :=
  ∀ x ∈ xs, p x = true → ∀ y ∈ ys, on x y = true → q y = true

theorem mem_select {x : α} : x ∈ select p xs ↔ x ∈ xs ∧ p x = true := Multiset.mem_filter

theorem mem_join {c : α × β} : c ∈ join on xs ys ↔ c.1 ∈ xs ∧ c.2 ∈ ys ∧ on c.1 c.2 = true := by
  rw [join, combine, Multiset.mem_bind]
  constructor
  · rintro ⟨x, hx, hc⟩
    obtain ⟨y, hy, rfl⟩ := Multiset.mem_map.mp hc
    exact ⟨hx, mem_select.mp hy⟩
  · rintro ⟨hx, hy⟩
    exact ⟨c.1, hx, Multiset.mem_map.mpr ⟨c.2, mem_select.mpr hy, rfl⟩⟩

/-- Rows meet rows of the same owner. -/
theorem Meets.of_owner {K : Type} [BEq K] [LawfulBEq K] {k : K} {owner : α → K} {owner' : β → K}
    (h : ∀ x ∈ xs, ∀ y ∈ ys, on x y = true → owner' y = owner x) :
    Meets (fun x => owner x == k) (fun y => owner' y == k) on xs ys := by
  intro x hx hk y hy hon
  rw [beq_iff_eq] at *
  rw [h x hx y hy hon, hk]

/-- What a row meets does not depend on what else it was put together with. -/
theorem Meets.of_fst {zs : Multiset γ} {on' : α → γ → Bool} (h : Meets p q on xs ys) :
    Meets (fun c => p c.1) q (fun c => on c.1) (join on' xs zs) ys :=
  fun c hc => h c.1 (mem_join.mp hc).1

/-- A stronger condition needs the rows that satisfy a weaker one only. -/
theorem select_select (hw : ∀ x, w x = true → p x = true) :
    select w (select p xs) = select w xs := by
  rw [select, select, Multiset.filter_filter]
  exact Multiset.filter_congr fun x _ => and_iff_left_of_imp (hw x)

theorem select_congr (h : ∀ x ∈ xs, w x = w' x) : select w xs = select w' xs :=
  Multiset.filter_congr fun x hx => by rw [h x hx]

/-- A row of the kind is in both tables or in none. -/
theorem Agree.mem_iff (h : Agree p xs xs') {x : α} (hx : p x = true) : x ∈ xs ↔ x ∈ xs' := by
  have hmem : x ∈ select p xs ↔ x ∈ select p xs' := by rw [h]
  rwa [mem_select, mem_select, and_iff_left hx, and_iff_left hx] at hmem

/-- A query that keeps rows of one kind only. -/
theorem Agree.select_eq (h : Agree p xs xs') (hw : ∀ x, w x = true → p x = true) :
    select w xs = select w xs' := by
  rw [← select_select hw, h, select_select hw]

/-- Two conditions that mean the same for the rows of one kind. -/
theorem Agree.select_eq_select (h : Agree p xs xs') (hw : ∀ x, w x = true → p x = true)
    (hw' : ∀ x, w' x = true → p x = true) (heq : ∀ x, p x = true → w x = w' x) :
    select w xs = select w' xs' := by
  rw [← select_select hw, h, ← select_select hw']
  exact select_congr fun x hx => heq x (mem_select.mp hx).2

theorem Agree.present_eq (h : Agree q ys ys') (hr : ∀ y, r y = true → q y = true) :
    present r ys = present r ys' := by
  rw [present, present, h.select_eq hr]

/-- The rows of one kind with what they meet. -/
theorem select_combine (g : Multiset β → Multiset γ) (h : Meets p q on xs ys) :
    select (fun c => p c.1) (combine g on xs ys) =
      combine g on (select p xs) (select q ys) := by
  rw [select, combine, combine, Multiset.filter_bind, select, Multiset.bind_filter]
  refine Multiset.bind_congr fun x hx => ?_
  rw [Multiset.filter_map]
  by_cases hp : p x = true
  · have hmet : select (on x) (select q ys) = select (on x) ys := by
      rw [select, select, select, Multiset.filter_filter]
      exact Multiset.filter_congr fun y hy => and_iff_left_of_imp (h x hx hp y hy)
    have hall : (g (select (on x) ys)).filter ((fun c => p c.1 = true) ∘ Prod.mk x) =
        g (select (on x) ys) := Multiset.filter_eq_self.mpr fun _ _ => hp
    rw [if_pos hp, hmet, hall]
  · have hnone : (g (select (on x) ys)).filter ((fun c => p c.1 = true) ∘ Prod.mk x) = 0 :=
      Multiset.filter_eq_nil.mpr fun _ _ => hp
    rw [if_neg hp, hnone, Multiset.map_zero]

/-- Tables that agree on rows of one kind, and on all that these meet. -/
theorem Agree.combine (g : Multiset β → Multiset γ) (hx : Agree p xs xs') (hy : Agree q ys ys')
    (h : Meets p q on xs ys) (h' : Meets p q on xs' ys') :
    Agree (fun c => p c.1) (combine g on xs ys) (combine g on xs' ys') := by
  rw [Agree, select_combine g h, select_combine g h', hx, hy]

end Bags
