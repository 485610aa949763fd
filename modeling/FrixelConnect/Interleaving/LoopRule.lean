import FrixelConnect.Interleaving.EventLoop

/-!
# A rule for programs of an event loop

While a program waits, the other tasks change the store. The rule asks of each program that it
leaves the store in `I` where it waits and where it ends, that what it does is in the preorder
`rely`, and that it goes on so after any answer, in any store that the others may have left.
`LoopRule.run` carries `I` along every sequence of moves.
-/

namespace Interleaving

variable {S : Type} {R : S → Type} {F E D V W A α β : Type}

namespace Prog

/-- The program is in order from the store on, and ends with a result in `Q`. -/
def Guarded (Y : Script S R F E D V W A) (I : D → Prop) (rely : D → D → Prop)
    (Q : Except E α → D → Prop) : Prog S R F E α → D → Prop
  | .ret r, d => Q r d
  | .ctl _ k, d => Guarded Y I rely Q (k (.ok ())) d
  | .stmt s k, d =>
      (∀ r d', Y.sync s d = some (r, d') → rely d d' ∧ Guarded Y I rely Q (k r) d') ∧
        (Y.sync s d = none → I d ∧ ∀ d', rely d d' → I d' → ∀ v r d'',
          Y.settle s v d' = some (r, d'') → rely d' d'' ∧ Guarded Y I rely Q (k r) d'')

section Guarded

variable {Y : Script S R F E D V W A} {I : D → Prop} {rely : D → D → Prop}
  {Q : Except E α → D → Prop} {Q' : Except E β → D → Prop} {d d' : D}

theorem Guarded.handle {p : Prog S R F E α} {h : Except E α → Prog S R F E β}
    (hp : p.Guarded Y I rely Q d) (hh : ∀ r d', Q r d' → (h r).Guarded Y I rely Q' d') :
    (p.handle h).Guarded Y I rely Q' d := by
  induction p generalizing d with
  | ret r => exact hh r d hp
  | ctl c k ih => exact ih _ hp
  | stmt s k ih =>
      refine ⟨fun r d' hs => ?_, fun hs => ⟨(hp.2 hs).1, fun d' hr hI v r d'' hv => ?_⟩⟩
      · obtain ⟨hrely, hk⟩ := hp.1 r d' hs
        exact ⟨hrely, ih r hk⟩
      · obtain ⟨hrely, hk⟩ := (hp.2 hs).2 d' hr hI v r d'' hv
        exact ⟨hrely, ih r hk⟩

theorem Guarded.bind {p : Prog S R F E α} {f : α → Prog S R F E β}
    (hp : p.Guarded Y I rely Q d) (hf : ∀ a d', Q (.ok a) d' → (f a).Guarded Y I rely Q' d')
    (he : ∀ e d', Q (.error e) d' → Q' (.error e) d') : (p >>= f).Guarded Y I rely Q' d := by
  apply hp.handle
  intro r d' hr
  cases r with
  | ok a => exact hf a d' hr
  | error e => exact he e d' hr

/-- A statement that is answered at once. -/
theorem guarded_sync {s : S} {f : R s → Prog S R F E β} {a : R s}
    (hs : Y.sync s d = some (.ok a, d')) (hrely : rely d d')
    (hf : (f a).Guarded Y I rely Q' d') : (exec s >>= f).Guarded Y I rely Q' d := by
  refine ⟨fun r d'' h => ?_, fun h => ?_⟩
  · rw [hs] at h
    cases h
    exact ⟨hrely, hf⟩
  · rw [hs] at h
    cases h

/-- A statement that is waited for. -/
theorem guarded_wait {s : S} {f : R s → Prog S R F E β} (hs : Y.sync s d = none) (hI : I d)
    (hok : ∀ d' v a d'', rely d d' → I d' → Y.settle s v d' = some (.ok a, d'') →
      rely d' d'' ∧ (f a).Guarded Y I rely Q' d'')
    (herror : ∀ d' v e d'', rely d d' → I d' → Y.settle s v d' = some (.error e, d'') →
      rely d' d'' ∧ Q' (.error e) d'') : (exec s >>= f).Guarded Y I rely Q' d := by
  refine ⟨fun r d'' h => ?_, fun _ => ⟨hI, fun d' hrely hI' v r d'' hv => ?_⟩⟩
  · rw [hs] at h
    cases h
  · cases r with
    | ok a => exact hok d' v a d'' hrely hI' hv
    | error e => exact herror d' v e d'' hrely hI' hv

/-- The task has ended, or it waits and is in order after every answer. -/
def Parked (Y : Script S R F E D V W A) (I : D → Prop) (rely : D → D → Prop) :
    Prog S R F E α → D → Prop
  | .ret _, _ => True
  | .ctl _ _, _ => False
  | .stmt s k, d => ∀ d', rely d d' → I d' → ∀ v r d'', Y.settle s v d' = some (r, d'') →
      rely d' d'' ∧ (k r).Guarded Y I rely (fun _ => I) d''

end Guarded

end Prog

/-- What the moves of a loop keep, and what they may do to its store. -/
structure LoopRule (Y : Script S R F E D V W A) (I : D → Prop) (rely : D → D → Prop) : Prop where
  refl : ∀ d, rely d d
  trans : ∀ d d' d'', rely d d' → rely d' d'' → rely d d''
  start : ∀ w d d' p, I d → Y.start w d = some (d', p) →
    rely d d' ∧ p.Guarded Y I rely (fun _ => I) d'

namespace LoopRule

variable {Y : Script S R F E D V W A} {I : D → Prop} {rely : D → D → Prop} {d d' : D}
  {p : Prog S R F E A}

/-- What the others do leaves a waiting task in order. -/
theorem parked (h : LoopRule Y I rely) (hp : p.Parked Y I rely d) (hd : rely d d') :
    p.Parked Y I rely d' := by
  cases p with
  | ret r => trivial
  | ctl c k => exact hp.elim
  | stmt s k => exact fun d'' hd' => hp d'' (h.trans _ _ _ hd hd')

/-- A program runs to where it waits or ends. -/
theorem advance (h : LoopRule Y I rely) (hp : p.Guarded Y I rely (fun _ => I) d) :
    rely d (advance Y.sync p d).2 ∧ I (Interleaving.advance Y.sync p d).2 ∧
      (Interleaving.advance Y.sync p d).1.Parked Y I rely (Interleaving.advance Y.sync p d).2 := by
  induction p generalizing d with
  | ret r => exact ⟨h.refl d, hp, trivial⟩
  | ctl c k ih => exact ih _ hp
  | stmt s k ih =>
      rw [Interleaving.advance]
      cases hs : Y.sync s d with
      | none => exact ⟨h.refl d, (hp.2 hs).1, (hp.2 hs).2⟩
      | some x =>
          obtain ⟨hrely, hk⟩ := hp.1 x.1 x.2 hs
          obtain ⟨hrest, hI, hparked⟩ := ih x.1 hk
          exact ⟨h.trans _ _ _ hrely hrest, hI, hparked⟩

/-- The store is in `I`, and all tasks are in order. -/
structure Holds (Y : Script S R F E D V W A) (I : D → Prop) (rely : D → D → Prop)
    (s : LoopState S R F E D A) : Prop where
  store : I s.store
  tasks : ∀ p ∈ s.tasks, p.Parked Y I rely s.store

theorem step (h : LoopRule Y I rely) {s : LoopState S R F E D A} (hs : Holds Y I rely s)
    (m : LoopMove V W) : Holds Y I rely (Y.step m s) := by
  cases m with
  | start w =>
      cases hstart : Y.start w s.store with
      | none =>
          rw [step_start_none hstart]
          exact hs
      | some x =>
          obtain ⟨hrely, hp⟩ := h.start w s.store x.1 x.2 hs.store hstart
          obtain ⟨hrest, hI, hparked⟩ := h.advance hp
          have hothers : ∀ q ∈ s.tasks, q.Parked Y I rely (Interleaving.advance Y.sync x.2 x.1).2 :=
            fun q hq => h.parked (hs.tasks q hq) (h.trans _ _ _ hrely hrest)
          cases hw : Y.unloads w with
          | false =>
              rw [step_start hstart hw]
              refine ⟨hI, fun q hq => ?_⟩
              rcases List.mem_append.mp hq with hq | hq
              · exact hothers q hq
              · rw [List.mem_singleton.mp hq]
                exact hparked
          | true =>
              rw [step_start_unloads hstart hw]
              refine ⟨hI, fun q hq => ?_⟩
              rw [List.mem_singleton.mp hq]
              exact hparked
  | resume i v =>
      cases hi : s.tasks[i]? with
      | none =>
          rw [step_resume_absent hi]
          exact hs
      | some p =>
          have hp := hs.tasks p (List.mem_of_getElem? hi)
          cases p with
          | ret r =>
              rw [step_resume_ret hi]
              exact hs
          | ctl c k => exact hp.elim
          | stmt q k =>
              cases hq : Y.settle q v s.store with
              | none =>
                  rw [step_resume_none hi hq]
                  exact hs
              | some x =>
                  obtain ⟨hrely, hk⟩ := hp s.store (h.refl _) hs.store v x.1 x.2 hq
                  obtain ⟨hrest, hI, hparked⟩ := h.advance hk
                  rw [step_resume hi hq]
                  refine ⟨hI, fun t ht => ?_⟩
                  rcases List.mem_or_eq_of_mem_set ht with ht | rfl
                  · exact h.parked (hs.tasks t ht) (h.trans _ _ _ hrely hrest)
                  · exact hparked

/-- The property along every sequence of moves. -/
theorem run (h : LoopRule Y I rely) (moves : List (LoopMove V W)) {s : LoopState S R F E D A}
    (hs : Holds Y I rely s) : Holds Y I rely (after Y.step moves s) := by
  induction moves generalizing s with
  | nil => exact hs
  | cons m rest ih => exact ih (h.step hs m)

end LoopRule

end Interleaving
