import Mathlib.Algebra.Order.Group.Defs
import Mathlib.Algebra.Order.Sub.Defs
import Mathlib.Data.Finset.Card
import Mathlib.Data.List.Induction

/-!
# Sliding windows

Events with times in an ordered group, in the order of their times. If an event is accepted only
when the window that ends with it holds fewer than `n` earlier events, then no stretch of time
shorter than the window holds more than `n` accepted ones.
-/

namespace SlidingWindow

variable {T : Type} [AddCommGroup T] [LinearOrder T]

/-- The times in the window of length `w` that ends at `t`. -/
def recent (w t : T) (times : List T) : List T := times.filter fun x => t - w < x ∧ x ≤ t

theorem mem_recent {w t x : T} {times : List T} :
    x ∈ recent w t times ↔ x ∈ times ∧ t - w < x ∧ x ≤ t := by
  simp [recent]

theorem recent_append (w t : T) (times times' : List T) :
    recent w t (times ++ times') = recent w t times ++ recent w t times' := List.filter_append ..

/-- The number of different times in the window. -/
def distinct (w t : T) (times : List T) : ℕ := (recent w t times).toFinset.card

/-- One more event adds at most one time. -/
theorem distinct_concat_le (w t : T) (times : List T) :
    distinct w t (times ++ [t]) ≤ (recent w t times).length + 1 := by
  calc distinct w t (times ++ [t])
      ≤ (recent w t (times ++ [t])).length := List.toFinset_card_le _
    _ ≤ (recent w t times).length + 1 := by
        rw [recent_append, List.length_append]
        exact Nat.add_le_add_left (List.length_filter_le ..) _

/-- The accepted events at the times `I`. -/
def accepted (I : T → Prop) [DecidablePred I] (events : List (T × Bool)) : List (T × Bool) :=
  events.filter fun e => e.2 ∧ I e.1

/-- The bound, for any stretch of time that is shorter than the window. -/
theorem accepted_le [IsOrderedAddMonoid T] {w : T} {n : ℕ} {events : List (T × Bool)} {I : T → Prop} [DecidablePred I]
    (hI : ∀ x y, I x → I y → x - y < w) (hsorted : (events.map Prod.fst).Pairwise (· ≤ ·))
    (haccept : ∀ earlier e later, events = earlier ++ e :: later → e.2 = true →
      (recent w e.1 (earlier.map Prod.fst)).length < n) : (accepted I events).length ≤ n := by
  induction events using List.reverseRecOn with
  | nil => exact Nat.zero_le n
  | append_singleton events e ih =>
      rw [List.map_append, List.pairwise_append] at hsorted
      obtain ⟨hbefore, -, hlast⟩ := hsorted
      have hrest : (accepted I events).length ≤ n := by
        refine ih hbefore fun earlier e' later heq he' => haccept earlier e' (later ++ [e]) ?_ he'
        rw [heq, List.append_assoc, List.cons_append]
      rw [accepted, List.filter_append]
      by_cases he : e.2 = true ∧ I e.1
      · -- the accepted ones before the last one are in its window
        have hwindow : (accepted I events).length ≤
            (recent w e.1 (events.map Prod.fst)).length := by
          rw [recent, List.filter_map, List.length_map, accepted, ← List.countP_eq_length_filter,
            ← List.countP_eq_length_filter]
          apply List.countP_mono_left
          intro x hx hacc
          have hacc : x.2 = true ∧ I x.1 := of_decide_eq_true hacc
          have hle : x.1 ≤ e.1 := hlast x.1 (List.mem_map_of_mem hx) e.1 (by simp)
          have hlt : e.1 - w < x.1 := sub_lt_comm.mp (hI e.1 x.1 he.2 hacc.2)
          exact decide_eq_true ⟨hlt, hle⟩
        have hfew := haccept events e [] rfl he.1
        rw [List.length_append]
        have hone : ([e].filter fun e => e.2 ∧ I e.1).length ≤ 1 := List.length_filter_le ..
        change (accepted I events).length + _ ≤ n
        omega
      · rw [List.filter_cons_of_neg (by simpa using he), List.filter_nil, List.append_nil]
        exact hrest

end SlidingWindow
