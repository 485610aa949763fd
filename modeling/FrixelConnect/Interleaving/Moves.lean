import Mathlib.Data.List.Basic
import Mathlib.Tactic.Tauto

/-!
# Sequences of moves

Moves act on a state one after the other. What holds along a sequence is what each of its moves
satisfies in the state that it meets.
-/

namespace Interleaving

variable {C D N : Type} (step : C → D → D) (trail : D → List N) (changes : C → D → List N)

/-- The state after the moves. -/
def after : List C → D → D
  | [], d => d
  | c :: rest, d => after rest (step c d)

/-- The changes of all moves, each in the state that it meets. -/
def allChanges : List C → D → List N
  | [], _ => []
  | c :: rest, d => changes c d ++ allChanges rest (step c d)

/-- Every move satisfies `P` in the state that it meets. -/
def Along (P : C → D → Prop) : List C → D → Prop
  | [], _ => True
  | c :: rest, d => P c d ∧ Along P rest (step c d)

/-- The move adds the entries of its changes to the trail. -/
def KeepsTrail (c : C) (d : D) : Prop := trail (step c d) = trail d ++ changes c d

variable {step trail changes} {P Q : C → D → Prop} {moves : List C} {d : D}

/-- Two conditions that agree in the states of an invariant. -/
theorem Along.congr_of {I : D → Prop} (hI : ∀ c d, I d → I (step c d)) (h₀ : I d)
    (h : ∀ c d, I d → (P c d ↔ Q c d)) : Along step P moves d ↔ Along step Q moves d := by
  induction moves generalizing d with
  | nil => exact Iff.rfl
  | cons c rest ih => exact and_congr (h c d h₀) (ih (hI c d h₀))

/-- What holds of the states that are met is what every move has to keep. -/
theorem always_iff_along {I J : D → Prop} (hI : ∀ c d, I d → I (step c d)) (h₀ : I d) (h₁ : J d)
    (hJ : ∀ c d, I d → J d → (J (step c d) ↔ P c d)) :
    (∀ made, made <+: moves → J (after step made d)) ↔ Along step P moves d := by
  induction moves generalizing d with
  | nil =>
      refine iff_of_true (fun made hmade => ?_) trivial
      rw [List.prefix_nil.mp hmade]
      exact h₁
  | cons c rest ih =>
      constructor
      · intro h
        have hnext : J (step c d) := h [c] (by simp)
        refine ⟨(hJ c d h₀ h₁).mp hnext, (ih (hI c d h₀) hnext).mp fun made hmade => ?_⟩
        exact h (c :: made) (List.cons_prefix_cons.mpr ⟨rfl, hmade⟩)
      · rintro ⟨hfirst, hrest⟩ made hmade
        cases made with
        | nil => exact h₁
        | cons c' made =>
            obtain ⟨rfl, htail⟩ := List.cons_prefix_cons.mp hmade
            exact (ih (hI c' d h₀) ((hJ c' d h₀ h₁).mpr hfirst)).mpr hrest made htail

theorem Along.congr (h : ∀ c d, P c d ↔ Q c d) : Along step P moves d ↔ Along step Q moves d :=
  Along.congr_of (I := fun _ => True) (fun _ _ _ => trivial) trivial fun c d _ => h c d

theorem along_and : Along step (fun c d => P c d ∧ Q c d) moves d ↔
    Along step P moves d ∧ Along step Q moves d := by
  induction moves generalizing d with
  | nil => simp [Along]
  | cons c rest ih =>
      simp only [Along, ih]
      tauto

/-- The trail has the entries of all changes at every point of the sequence exactly when each move
adds the entries of its own. -/
theorem trail_iff : (∀ made, made <+: moves →
      trail (after step made d) = trail d ++ allChanges step changes made d) ↔
    Along step (KeepsTrail step trail changes) moves d := by
  induction moves generalizing d with
  | nil =>
      refine iff_of_true (fun made hmade => ?_) trivial
      rw [List.prefix_nil.mp hmade]
      exact (List.append_nil _).symm
  | cons c rest ih =>
      constructor
      · intro h
        have hfirst : KeepsTrail step trail changes c d := by
          have hone := h [c] (by simp)
          rw [allChanges, allChanges, List.append_nil] at hone
          exact hone
        refine ⟨hfirst, ih.mp fun made hmade => ?_⟩
        have hmore := h (c :: made) (List.cons_prefix_cons.mpr ⟨rfl, hmade⟩)
        rw [KeepsTrail] at hfirst
        rwa [after, allChanges, ← List.append_assoc, ← hfirst] at hmore
      · rintro ⟨hfirst, hrest⟩ made hmade
        cases made with
        | nil => exact (List.append_nil _).symm
        | cons c' made =>
            obtain ⟨rfl, htail⟩ := List.cons_prefix_cons.mp hmade
            rw [after, ih.mpr hrest made htail, allChanges, ← List.append_assoc, ← hfirst]

end Interleaving
