import Mathlib.Data.List.Nodup
import Mathlib.Data.List.Sort
import Mathlib.Data.Nat.Notation

/-!
# Windows of ordered rows

An `ORDER BY` that compares rows by a key leaves the order of rows with equal keys open, so that
one table has several arrangements. A window is what `LIMIT` and `OFFSET` cut out of one. The
windows of one size, each cut out of an arrangement of its own, make up the table whatever the
arrangements are if no group of rows with equal keys lies across a border of two windows, and
only then.
-/

namespace Ordering

variable {α K : Type} [LinearOrder K] {key : α → K} {rows xs ys : List α} {i limit n : ℕ} {c : K}

/-- The rows in descending order of their keys. -/
structure Arranged (key : α → K) (rows xs : List α) : Prop where
  perm : xs.Perm rows
  sorted : xs.Pairwise fun a b => key b ≤ key a

/-- `LIMIT limit OFFSET offset`. -/
def window (limit offset : ℕ) (xs : List α) : List α := (xs.drop offset).take limit

/-- A group of rows with equal keys lies across the border behind the first `i` rows. -/
def Splits (key : α → K) (rows : List α) (i : ℕ) : Prop :=
  ∃ r ∈ rows, rows.countP (fun x => key r < key x) < i ∧ i < rows.countP fun x => key r ≤ key x

/-- How a query arranges the rows that it is given. -/
structure OrderBy (key : α → K) where
  arrange : List α → List α
  arranged : ∀ rows, Arranged key rows (arrange rows)

/-- Rows with equal keys stay in the order of the table. -/
def OrderBy.stable (key : α → K) : OrderBy key where
  arrange rows := rows.mergeSort fun a b => key b ≤ key a
  arranged rows := by
    refine ⟨List.mergeSort_perm rows _, ?_⟩
    have h := @List.pairwise_mergeSort α (fun a b => decide (key b ≤ key a))
      (fun a b c hab hbc => by
        rw [decide_eq_true_eq] at *
        exact hbc.trans hab)
      (fun a b => by
        rw [Bool.or_eq_true, decide_eq_true_eq, decide_eq_true_eq]
        exact le_total _ _) rows
    exact h.imp fun hab => of_decide_eq_true hab

/-- Every table has an arrangement. -/
theorem exists_arranged (key : α → K) (rows : List α) : ∃ xs, Arranged key rows xs :=
  ⟨_, (OrderBy.stable key).arranged rows⟩

/-- Where the first row does not satisfy an upward closed condition, none does. -/
theorem countP_cons_eq_zero {p : α → Bool} {x : α}
    (hp : ∀ a b, key a ≤ key b → p a = true → p b = true)
    (h : (x :: xs).Pairwise fun a b => key b ≤ key a) (hx : ¬ p x = true) : xs.countP p = 0 := by
  rw [List.countP_eq_zero]
  intro y hy hpy
  exact hx (hp y x (List.rel_of_pairwise_cons h hy) hpy)

/-- A query may arrange its rows in every way that its key leaves open. -/
theorem Arranged.exists_orderBy (h : Arranged key rows xs) :
    ∃ o : OrderBy key, o.arrange rows = xs := by
  classical
  choose arrange harrange using exists_arranged (α := α) key
  refine ⟨⟨Function.update arrange rows xs, fun rows' => ?_⟩, Function.update_self rows xs arrange⟩
  by_cases heq : rows' = rows
  · subst heq
    rwa [Function.update_self]
  · rw [Function.update_of_ne heq]
    exact harrange rows'

/-- Rows that are extended by other columns are arranged as before. -/
theorem Arranged.map {β : Type} {key' : β → K} (f : α → β) (hf : ∀ a, key' (f a) = key a)
    (h : Arranged key rows xs) : Arranged key' (rows.map f) (xs.map f) where
  perm := h.perm.map f
  sorted := List.pairwise_map.mpr (h.sorted.imp fun {a b} hab => by rwa [hf, hf])

section Entries

variable {β : Type} (entry : α → β) (row : β → α) (hrow : ∀ a, row (entry a) = a)

include hrow

theorem map_entries (xs : List α) : (xs.map entry).map row = xs := by
  rw [List.map_map, show row ∘ entry = id from funext hrow, List.map_id]

/-- The rows inside arranged entries are arranged. -/
theorem arranged_entries (o : OrderBy fun e => key (row e)) (rows : List α) :
    Arranged key rows ((o.arrange (rows.map entry)).map row) := by
  have h : Arranged key ((rows.map entry).map row) ((o.arrange (rows.map entry)).map row) :=
    (o.arranged (rows.map entry)).map row fun _ => rfl
  rwa [map_entries entry row hrow] at h

/-- Every arrangement of the rows is one of their entries. -/
theorem Arranged.exists_entries (h : Arranged key rows xs) :
    ∃ o : OrderBy fun e => key (row e), (o.arrange (rows.map entry)).map row = xs := by
  have hentries : Arranged (fun e => key (row e)) (rows.map entry) (xs.map entry) :=
    h.map entry fun a => congrArg key (hrow a)
  obtain ⟨o, ho⟩ := hentries.exists_orderBy
  exact ⟨o, by rw [ho, map_entries entry row hrow]⟩

end Entries

/-- The rows that satisfy an upward closed condition come first. -/
theorem take_countP {p : α → Bool} (hp : ∀ a b, key a ≤ key b → p a = true → p b = true)
    (h : xs.Pairwise fun a b => key b ≤ key a) : xs.take (xs.countP p) = xs.filter p := by
  induction xs with
  | nil => rfl
  | cons x xs ih =>
      by_cases hx : p x = true
      · rw [List.countP_cons_of_pos hx, List.filter_cons_of_pos hx, List.take_succ_cons, ih h.tail]
      · have hnone := countP_cons_eq_zero hp h hx
        rw [List.countP_cons_of_neg hx, List.filter_cons_of_neg hx, hnone, List.take_zero]
        rw [List.countP_eq_length_filter] at hnone
        exact (List.eq_nil_of_length_eq_zero hnone).symm

/-- The positions of the rows that satisfy it. -/
theorem getElem_iff_lt_countP {p : α → Bool}
    (hp : ∀ a b, key a ≤ key b → p a = true → p b = true)
    (h : xs.Pairwise fun a b => key b ≤ key a) (hi : i < xs.length) :
    p xs[i] = true ↔ i < xs.countP p := by
  induction xs generalizing i with
  | nil => simp at hi
  | cons x xs ih =>
      by_cases hx : p x = true
      · rw [List.countP_cons_of_pos hx]
        cases i with
        | zero => simpa using hx
        | succ i => simpa using ih h.tail (Nat.lt_of_succ_lt_succ hi)
      · have hnone := countP_cons_eq_zero hp h hx
        rw [List.countP_cons_of_neg hx, hnone]
        refine iff_of_false (fun hpi => ?_) (Nat.not_lt_zero i)
        cases i with
        | zero => exact hx hpi
        | succ i => exact List.countP_eq_zero.mp hnone _ (List.getElem_mem _) hpi

namespace Arranged

theorem length_eq (h : Arranged key rows xs) : xs.length = rows.length := h.perm.length_eq

/-- The rows with larger keys come first. -/
theorem take_lt (h : Arranged key rows xs) (c : K) :
    xs.take (rows.countP fun x => c < key x) = xs.filter fun x => c < key x := by
  rw [← h.perm.countP_eq]
  apply take_countP _ h.sorted
  intro a b hab ha
  exact decide_eq_true ((of_decide_eq_true ha).trans_le hab)

theorem lt_getElem_iff (h : Arranged key rows xs) (c : K) (hi : i < xs.length) :
    c < key xs[i] ↔ i < rows.countP fun x => c < key x := by
  rw [← h.perm.countP_eq, ← getElem_iff_lt_countP _ h.sorted hi, decide_eq_true_eq]
  intro a b hab ha
  exact decide_eq_true ((of_decide_eq_true ha).trans_le hab)

theorem le_getElem_iff (h : Arranged key rows xs) (c : K) (hi : i < xs.length) :
    c ≤ key xs[i] ↔ i < rows.countP fun x => c ≤ key x := by
  rw [← h.perm.countP_eq, ← getElem_iff_lt_countP _ h.sorted hi, decide_eq_true_eq]
  intro a b hab ha
  exact decide_eq_true ((of_decide_eq_true ha).trans hab)

/-- The first rows do not depend on the arrangement where no group lies across the border. -/
theorem take_perm (hx : Arranged key rows xs) (hy : Arranged key rows ys)
    (h : ¬ Splits key rows i) : (xs.take i).Perm (ys.take i) := by
  rcases Nat.lt_or_ge i xs.length with hi | hi
  · have hle : i < rows.countP fun x => key xs[i] ≤ key x := (hx.le_getElem_iff _ hi).mp le_rfl
    have hge : rows.countP (fun x => key xs[i] < key x) ≤ i :=
      Nat.le_of_not_lt fun hlt => lt_irrefl _ ((hx.lt_getElem_iff _ hi).mpr hlt)
    have heq : i = rows.countP fun x => key xs[i] < key x := by
      by_contra hne
      have hmem : xs[i] ∈ rows := hx.perm.mem_iff.mp (List.getElem_mem hi)
      exact h ⟨xs[i], hmem, by omega, hle⟩
    have htake {zs : List α} (hz : Arranged key rows zs) :
        zs.take i = zs.filter fun x => key xs[i] < key x := by
      rw [← hz.take_lt]
      exact congrArg (List.take · zs) heq
    rw [htake hx, htake hy]
    exact (hx.perm.trans hy.perm.symm).filter _
  · have hi' : ys.length ≤ i := by rw [hy.length_eq, ← hx.length_eq]; exact hi
    rw [List.take_of_length_le hi, List.take_of_length_le hi']
    exact hx.perm.trans hy.perm.symm

/-- So does a window between two such borders. -/
theorem window_perm (hx : Arranged key rows xs) (hy : Arranged key rows ys)
    (h : ¬ Splits key rows i) (h' : ¬ Splits key rows (i + limit)) :
    (window limit i xs).Perm (window limit i ys) := by
  have hlong := hx.take_perm hy h'
  rw [List.take_add, List.take_add] at hlong
  have hshort := (hx.take_perm hy h).append_right (window limit i ys)
  exact (List.perm_append_left_iff (xs.take i)).mp (hlong.trans hshort.symm)

end Arranged

/-- Consecutive windows of one list. -/
theorem flatMap_window (xs : List α) (limit n : ℕ) :
    (List.range n).flatMap (fun p => window limit (p * limit) xs) = xs.take (n * limit) := by
  induction n with
  | zero => simp
  | succ n ih =>
      rw [List.range_succ, List.flatMap_append, ih, List.flatMap_singleton, Nat.succ_mul,
        List.take_add]
      rfl

/-- Where no group lies across a border, the windows make up the table. -/
theorem flatMap_window_perm {σ : ℕ → List α} (hσ : ∀ p < n, Arranged key rows (σ p))
    (h : ∀ p, ¬ Splits key rows (p * limit)) (hn : rows.length ≤ n * limit) :
    ((List.range n).flatMap fun p => window limit (p * limit) (σ p)).Perm rows := by
  obtain ⟨xs, hxs⟩ := exists_arranged key rows
  have hsame : ∀ m ≤ n, ((List.range m).flatMap fun p => window limit (p * limit) (σ p)).Perm
      ((List.range m).flatMap fun p => window limit (p * limit) xs) := by
    intro m hm
    induction m with
    | zero => exact .refl _
    | succ m ih =>
        have hwindow : (window limit (m * limit) (σ m)).Perm (window limit (m * limit) xs) := by
          apply (hσ m hm).window_perm hxs (h m)
          rw [← Nat.succ_mul]
          exact h (m + 1)
        simpa [List.range_succ] using (ih (Nat.le_of_succ_le hm)).append hwindow
  refine (hsame n le_rfl).trans ?_
  rw [flatMap_window, List.take_of_length_le (hxs.length_eq.trans_le hn)]
  exact hxs.perm

/-- Two neighbours with equal keys may change places. -/
theorem Arranged.swap {before after : List α} {a b : α}
    (h : Arranged key rows (before ++ a :: b :: after)) (hab : key a = key b) :
    Arranged key rows (before ++ b :: a :: after) := by
  constructor
  · exact ((List.Perm.swap a b after).append_left before).trans h.perm
  · have hsorted := h.sorted
    simp only [List.pairwise_append, List.pairwise_cons, List.mem_cons, forall_eq_or_imp] at *
    obtain ⟨hbefore, ⟨⟨-, ha⟩, hb, hafter⟩, hcross⟩ := hsorted
    refine ⟨hbefore, ⟨⟨hab.le, hb⟩, ha, hafter⟩, fun x hx => ?_⟩
    obtain ⟨hxa, hxb, hxafter⟩ := hcross x hx
    exact ⟨hxb, hxa, hxafter⟩

/-- The two rows at a border that splits a group have the same key. -/
theorem Arranged.split (h : Arranged key rows xs) (hs : Splits key rows i) :
    ∃ before a b after, xs = before ++ a :: b :: after ∧ before.length + 1 = i ∧ key a = key b := by
  obtain ⟨r, -, hlt, hle⟩ := hs
  have hi : i < xs.length := by
    rw [h.length_eq]
    exact hle.trans_le List.countP_le_length
  obtain ⟨j, rfl⟩ : ∃ j, i = j + 1 := ⟨i - 1, by omega⟩
  have hkey (k : ℕ) (hk : k < xs.length) (hjk : j ≤ k) (hkj : k ≤ j + 1) : key xs[k] = key r := by
    apply le_antisymm
    · exact le_of_not_gt fun hgt => absurd ((h.lt_getElem_iff _ hk).mp hgt) (by omega)
    · exact (h.le_getElem_iff _ hk).mpr (by omega)
  refine ⟨xs.take j, xs[j], xs[j + 1], xs.drop (j + 2), ?_, ?_, ?_⟩
  · rw [← List.drop_eq_getElem_cons, ← List.drop_eq_getElem_cons, List.take_append_drop]
  · rw [List.length_take]
    omega
  · rw [hkey j (by omega) le_rfl (by omega), hkey (j + 1) hi (by omega) le_rfl]

theorem mem_window {t : ℕ} {a : α} (h : xs[i + t]? = some a) (ht : t < limit) :
    a ∈ window limit i xs := by
  apply List.mem_of_getElem? (i := t)
  rw [window, List.getElem?_take_of_lt ht, List.getElem?_drop, h]

/-- Where a group lies across a border, some arrangements give one of its rows twice. -/
theorem exists_duplicate {k : ℕ} (hlimit : 0 < limit) (hrows : rows.Nodup)
    (hs : Splits key rows (k * limit)) (hn : rows.length ≤ n * limit) :
    ∃ σ : ℕ → List α, (∀ p, Arranged key rows (σ p)) ∧
      ¬ ((List.range n).flatMap fun p => window limit (p * limit) (σ p)).Perm rows := by
  obtain ⟨xs, hxs⟩ := exists_arranged key rows
  obtain ⟨before, a, b, after, rfl, hlength, hab⟩ := hxs.split hs
  obtain ⟨j, rfl⟩ : ∃ j, k = j + 1 := by
    cases k with
    | zero => simp at hlength
    | succ j => exact ⟨j, rfl⟩
  refine ⟨fun p => if p = j + 1 then before ++ b :: a :: after else before ++ a :: b :: after,
    fun p => ?_, fun hperm => ?_⟩
  · dsimp only
    split
    · exact hxs.swap hab
    · exact hxs
  · have hnodup := (List.nodup_flatMap.mp (hperm.nodup_iff.mpr hrows)).2
    have hpages := List.pairwise_iff_getElem.mp hnodup j (j + 1)
    have hlength_rows := hxs.length_eq
    simp only [List.length_append, List.length_cons] at hlength_rows
    have hj : j + 1 < n := Nat.lt_of_mul_lt_mul_right (a := limit) (by omega)
    have hborder : (j + 1) * limit = j * limit + limit := Nat.succ_mul j limit
    have hlast : a ∈ window limit (j * limit) (before ++ a :: b :: after) := by
      apply mem_window (t := limit - 1) _ (by omega)
      have hindex : j * limit + (limit - 1) = before.length := by omega
      simp [hindex]
    have hfirst : a ∈ window limit ((j + 1) * limit) (before ++ b :: a :: after) := by
      apply mem_window (t := 0) _ hlimit
      simp [← hlength]
    have hdisjoint := hpages (by simp; omega) (by simpa using hj) j.lt_succ_self
    simp only [List.getElem_range, Function.onFun, if_true, j.lt_succ_self.ne, if_false] at hdisjoint
    exact hdisjoint hlast hfirst

end Ordering
