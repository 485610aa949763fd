import FrixelConnect.FrontendSteps

/-!
# The queue of requests that wait for a refresh

While a refresh is in flight other requests that need one wait for it. The queue of a page never
wedges as long as every interceptor that is to start a refresh finds a refresh token: where there
is none, the interceptor has announced the refresh already and leaves without taking it back.

## Implementation notes

The page is not loaded again. What else the browser does to the storage, the path and the clock is
a move of its own.
-/

namespace FrixelConnect

namespace Frontend

open Interleaving

section Queue

variable (jsonPayload : String → Option DecodedToken)

/-- What happens while a page is open. -/
inductive PageEvent where
  | tab (e : Event)
  | browser (b : Browser)

abbrev PageMove := LoopMove (Except JsError (Option RefreshData)) PageEvent

def page : Script FrontStmt FrontStmt.Res Unit JsError Page
    (Except JsError (Option RefreshData)) PageEvent Unit where
  sync := FrontStmt.sync
  settle := FrontStmt.settled
  start
    | .tab e, d => e.start jsonPayload d
    | .browser b, d => some ({ d with toBrowser := b }, pure ())

/-- How many refreshes are in flight. -/
def refreshes (s : FrontState) : ℕ := s.tasks.countP fun p => (posted p).isSome

/-- How often a promise was resolved or rejected. -/
def settlements (d : Page) (prom : ℕ) : ℕ := d.settled.countP fun x => x.1 == prom

/-- The refresh queue is not wedged: the flag stands for a refresh in flight, without one nothing
waits, and what does not wait any longer was resolved or rejected once. -/
structure Unwedged (s : FrontState) : Prop where
  flag : s.store.isRefreshing = true → 0 < refreshes s
  idle : refreshes s = 0 → s.store.failedQueue = []
  once : ∀ prom < s.store.promises,
    settlements s.store prom = if prom ∈ s.store.failedQueue then 0 else 1

/-- A request that has failed and is to start a refresh finds a refresh token. -/
def FindsToken (m : PageMove) (s : FrontState) : Prop :=
  match m with
  | .start (.tab (.fails i status)) => ∀ config, s.store.inFlight[i]? = some config →
      s.store.NeedsRefresh config status → s.store.isRefreshing = false →
      (truthy s.store.currentRefreshToken).isSome
  | _ => True

/-- A page that was loaded. -/
def fresh (b : Browser) : FrontState := { store := { toBrowser := b } }

/-! ## What a move does -/

/-- What a move does to the queue, and whether it finds a token. -/
inductive Effect (s s' : FrontState) : Prop → Prop
  | same (queue : s'.store.queue = s.store.queue) (count : refreshes s' = refreshes s) :
      Effect s s' True
  | waits (flag : s.store.isRefreshing = true)
      (queue : s'.store.queue = (true, s.store.failedQueue ++ [s.store.promises],
        s.store.promises + 1, s.store.settled))
      (count : refreshes s' = refreshes s) : Effect s s' True
  | posts (flag : s.store.isRefreshing = false)
      (queue : s'.store.queue =
        (true, s.store.failedQueue, s.store.promises, s.store.settled))
      (count : refreshes s' = refreshes s + 1) : Effect s s' True
  | lost (flag : s.store.isRefreshing = false)
      (queue : s'.store.queue =
        (true, s.store.failedQueue, s.store.promises, s.store.settled))
      (count : refreshes s' = refreshes s) : Effect s s' False
  | answered {outcome : Except JsError (Option String)}
      (queue : s'.store.queue = (false, [], s.store.promises, s.store.released outcome))
      (count : refreshes s = refreshes s' + 1) : Effect s s' True

variable {jsonPayload} {s s' : FrontState} {d : Page}

theorem queue_eq_iff {a : Bool} {q : List ℕ} {n : ℕ}
    {l : List (ℕ × Except JsError (Option String))} : d.queue = (a, q, n, l) ↔
      d.isRefreshing = a ∧ d.failedQueue = q ∧ d.promises = n ∧ d.settled = l := by
  simp only [Page.queue, Prod.mk.injEq]

/-- A new task counts when it waits for a refresh. -/
theorem refreshes_append (p : FrontM Unit) :
    refreshes { store := d, tasks := s.tasks ++ [p] } =
      refreshes s + if (posted p).isSome then 1 else 0 := by
  simp [refreshes, List.countP_append, List.countP_singleton]

/-- A task that goes on does not wait for a refresh any longer. -/
theorem refreshes_set {i : ℕ} {p : FrontM Unit} {r : Except JsError Unit}
    (hp : s.tasks[i]? = some p) (htasks : s'.tasks = s.tasks.set i (.ret r)) :
    refreshes s = refreshes s' + if (posted p).isSome then 1 else 0 := by
  obtain ⟨hi, rfl⟩ := List.getElem?_eq_some_iff.mp hp
  simp only [refreshes, htasks]
  rw [List.countP_set hi]
  have hpos : (posted s.tasks[i]).isSome = true →
      0 < s.tasks.countP fun p => (posted p).isSome := fun h =>
    List.countP_pos_iff.mpr ⟨_, List.getElem_mem hi, h⟩
  cases h : (posted s.tasks[i]).isSome with
  | true => exact (Nat.sub_add_cancel (hpos h)).symm
  | false => rfl

variable (jsonPayload) in
/-- What a request that has failed does to the queue. -/
theorem effect_onError (config : Config) (status : Option ℕ) (hd : d.queue = s.store.queue) :
    ∃ P, Effect s
      { store := (go (onError jsonPayload config status) d).2
        tasks := s.tasks ++ [(go (onError jsonPayload config status) d).1] } P ∧
      (P ↔ (d.NeedsRefresh config status → d.isRefreshing = false →
        (truthy d.currentRefreshToken).isSome)) := by
  obtain ⟨hflag, hqueue, hpromises, hsettled⟩ := queue_eq_iff.mp hd
  by_cases hneeds : d.NeedsRefresh config status
  · cases hrefreshing : d.isRefreshing with
    | true =>
        rw [onError_waits jsonPayload hneeds hrefreshing]
        refine ⟨True, .waits (hflag ▸ hrefreshing) ?_ (refreshes_append _), by simp⟩
        rw [← hqueue, ← hpromises, ← hsettled, ← hrefreshing]
        rfl
    | false =>
        cases htoken : truthy d.currentRefreshToken with
        | none =>
            obtain ⟨d', h, hqueue', -⟩ :=
              onError_lost jsonPayload hneeds hrefreshing htoken
            rw [h]
            refine ⟨False, .lost (hflag ▸ hrefreshing) ?_ (refreshes_append _), by simp [hneeds]⟩
            rw [← hqueue, ← hpromises, ← hsettled]
            exact hqueue'
        | some refreshToken =>
            rw [onError_refreshes jsonPayload hneeds hrefreshing htoken]
            refine ⟨True, .posts (hflag ▸ hrefreshing) ?_ (refreshes_append _), by simp⟩
            rw [← hqueue, ← hpromises, ← hsettled]
            rfl
  · obtain ⟨r, d', h, hqueue', -⟩ := onError_other jsonPayload hneeds
    rw [h]
    exact ⟨True, .same (hqueue'.trans hd) (refreshes_append _), by simp [hneeds]⟩

/-- What the handler of an event does to the queue. -/
theorem effect_start (w : PageEvent) (s : FrontState) {p : FrontM Unit}
    (h : (page jsonPayload).start w s.store = some (d, p)) :
    ∃ P, Effect s { store := (go p d).2, tasks := s.tasks ++ [(go p d).1] } P ∧
      (P ↔ FindsToken (.start w) s) := by
  have hends {r : Except JsError Unit} {d' : Page} (hgo : go p d = (.ret r, d'))
      (hqueue : d'.queue = s.store.queue) (htrue : FindsToken (.start w) s) :
      ∃ P, Effect s { store := (go p d).2, tasks := s.tasks ++ [(go p d).1] } P ∧
        (P ↔ FindsToken (.start w) s) := by
    rw [hgo]
    exact ⟨True, .same hqueue (refreshes_append _), iff_of_true trivial htrue⟩
  cases w with
  | browser b =>
      cases h
      exact hends rfl rfl trivial
  | tab e =>
      cases e with
      | call request =>
          cases h
          obtain ⟨d', hgo, hqueue, -⟩ := go_api (d := s.store) jsonPayload { request }
          exact hends hgo hqueue trivial
      | succeeds i =>
          obtain ⟨config, -, heq⟩ := Option.map_eq_some_iff.mp h
          cases heq
          exact hends rfl rfl trivial
      | fails i status =>
          obtain ⟨config, hconfig, heq⟩ := Option.map_eq_some_iff.mp h
          cases heq
          obtain ⟨P, heffect, hP⟩ := effect_onError (s := s)
            (d := { s.store with inFlight := s.store.inFlight.eraseIdx i }) jsonPayload config
            status rfl
          refine ⟨P, heffect, hP.trans ⟨fun hfinds config' hconfig' => ?_, fun hfinds => ?_⟩⟩
          · cases hconfig.symm.trans hconfig'
            exact hfinds
          · exact hfinds config hconfig
      | login accessToken refreshToken =>
          cases h
          obtain ⟨d', hgo, hqueue, -⟩ :=
            go_login (d := s.store) jsonPayload accessToken refreshToken
          exact hends hgo hqueue trivial
      | logout =>
          cases h
          obtain ⟨d', hgo, hqueue, -⟩ := go_logout (d := s.store)
          exact hends hgo hqueue trivial
      | visit pathname =>
          cases h
          exact hends rfl rfl trivial
      | tick now =>
          cases h
          exact hends rfl rfl trivial

/-- An event that is not possible looks for no token. -/
theorem findsToken_none {w : PageEvent} (h : (page jsonPayload).start w s.store = none) :
    FindsToken (.start w) s := by
  cases w with
  | browser b => trivial
  | tab e =>
      cases e with
      | fails i status =>
          intro config hconfig
          have habsent : s.store.inFlight[i]? = none := Option.map_eq_none_iff.mp h
          cases hconfig.symm.trans habsent
      | _ => trivial

/-- What the answer to a refresh, or to a promise, does to the queue. -/
theorem Resumed.effect {i : ℕ} {v : Except JsError (Option RefreshData)}
    (h : Resumed jsonPayload i v s s') : Effect s s' True := by
  cases h with
  | idle _ same =>
      rw [same]
      exact .same rfl rfl
  | answered task tasks store =>
      obtain ⟨outcome, hqueue⟩ := store.queue_eq
      exact .answered hqueue (refreshes_set task tasks)
  | released task tasks queue _ => exact .same queue (refreshes_set task tasks).symm

/-- Every move does one of these things to the queue. -/
theorem effect_step (hs : ∀ p ∈ s.tasks, Suspended jsonPayload p) (m : PageMove) :
    ∃ P, Effect s ((page jsonPayload).step m s) P ∧ (P ↔ FindsToken m s) := by
  cases m with
  | resume i v =>
      have hresumed : Resumed jsonPayload i v s ((page jsonPayload).step (.resume i v) s) :=
        resumed_step rfl rfl hs i v
      exact ⟨True, hresumed.effect, iff_of_true trivial trivial⟩
  | start w =>
      cases hstart : (page jsonPayload).start w s.store with
      | none =>
          rw [step_start_none hstart]
          exact ⟨True, .same rfl rfl, iff_of_true trivial (findsToken_none hstart)⟩
      | some r =>
          rw [step_start hstart rfl]
          exact effect_start w s hstart

theorem suspended_page {w : PageEvent} {d' : Page} {p : FrontM Unit}
    (h : (page jsonPayload).start w d = some (d', p)) : Suspended jsonPayload (go p d').1 := by
  cases w with
  | tab e => exact suspended_start h
  | browser b =>
      cases h
      exact .ended _

/-! ## The invariant -/

/-- What holds of the queue, wedged or not: there is one refresh at most, and only while the flag
is set; a promise waits until it is settled, which happens once. -/
structure Coherent (s : FrontState) : Prop where
  single : refreshes s ≤ if s.store.isRefreshing then 1 else 0
  distinct : s.store.failedQueue.Nodup
  queued : ∀ prom ∈ s.store.failedQueue, prom < s.store.promises
  known : ∀ x ∈ s.store.settled, x.1 < s.store.promises
  once : ∀ prom < s.store.promises,
    settlements s.store prom = if prom ∈ s.store.failedQueue then 0 else 1

/-- A promise that was not made yet is not settled. -/
theorem Coherent.settlements_new (hs : Coherent s) : settlements s.store s.store.promises = 0 := by
  refine List.countP_eq_zero.mpr fun x hx => ?_
  have hlt := hs.known x hx
  simp only [beq_iff_eq]
  omega

/-- The promises that wait are settled once more. -/
theorem settlements_released {d' : Page} {outcome : Except JsError (Option String)} (prom : ℕ)
    (h : d'.settled = d.released outcome) :
    settlements d' prom = settlements d prom + d.failedQueue.count prom := by
  rw [settlements, h, Page.released, List.countP_append, List.countP_map]
  rfl

/-- Nothing new waits, and nothing is settled. -/
theorem Coherent.of_queue {s' : FrontState} {flag : Bool} (hs : Coherent s)
    (queue : s'.store.queue = (flag, s.store.failedQueue, s.store.promises, s.store.settled))
    (single : refreshes s' ≤ if flag then 1 else 0) : Coherent s' := by
  obtain ⟨hflag, hqueue, hpromises, hsettled⟩ := queue_eq_iff.mp queue
  refine ⟨hflag ▸ single, hqueue ▸ hs.distinct, ?_, ?_, ?_⟩
  · rw [hqueue, hpromises]
    exact hs.queued
  · rw [hsettled, hpromises]
    exact hs.known
  · rw [hqueue, hpromises]
    intro prom hprom
    rw [settlements, hsettled]
    exact hs.once prom hprom

/-- A promise more waits for the refresh that is in flight. -/
theorem Coherent.of_waits {s' : FrontState} (hs : Coherent s)
    (queue : s'.store.queue = (true, s.store.failedQueue ++ [s.store.promises],
      s.store.promises + 1, s.store.settled))
    (single : refreshes s' ≤ 1) : Coherent s' := by
  obtain ⟨hflag, hqueue, hpromises, hsettled⟩ := queue_eq_iff.mp queue
  refine ⟨?_, ?_, fun prom hprom => ?_, fun x hx => ?_, fun prom hprom => ?_⟩
  · rwa [hflag, if_pos rfl]
  · rw [hqueue]
    refine List.nodup_append.mpr ⟨hs.distinct, List.nodup_singleton _, ?_⟩
    rintro prom hprom _ hnew rfl
    exact (hs.queued prom hprom).ne (List.mem_singleton.mp hnew)
  · rw [hqueue] at hprom
    rw [hpromises]
    rcases List.mem_append.mp hprom with hold | hnew
    · exact Nat.lt_succ_of_lt (hs.queued prom hold)
    · rw [List.mem_singleton.mp hnew]
      exact Nat.lt_succ_self _
  · rw [hsettled] at hx
    rw [hpromises]
    exact Nat.lt_succ_of_lt (hs.known x hx)
  · rw [hpromises] at hprom
    rw [hqueue, settlements, hsettled]
    rcases Nat.lt_succ_iff_lt_or_eq.mp hprom with hlt | rfl
    · have hmem : prom ∈ s.store.failedQueue ++ [s.store.promises] ↔
          prom ∈ s.store.failedQueue := by
        simp [hlt.ne]
      simp only [hmem]
      exact hs.once prom hlt
    · rw [if_pos (by simp)]
      exact hs.settlements_new

/-- The refresh is over, and what waited for it is settled. -/
theorem Coherent.of_released {s' : FrontState} {outcome : Except JsError (Option String)}
    (hs : Coherent s)
    (queue : s'.store.queue = (false, [], s.store.promises, s.store.released outcome))
    (single : refreshes s' = 0) : Coherent s' := by
  obtain ⟨hflag, hqueue, hpromises, hsettled⟩ := queue_eq_iff.mp queue
  refine ⟨?_, ?_, ?_, fun x hx => ?_, fun prom hprom => ?_⟩
  · rw [single]
    exact Nat.zero_le _
  · rw [hqueue]
    exact List.nodup_nil
  · simp [hqueue]
  · rw [hsettled] at hx
    rw [hpromises]
    rcases List.mem_append.mp hx with hold | hnew
    · exact hs.known x hold
    · obtain ⟨prom, hprom, rfl⟩ := List.mem_map.mp hnew
      exact hs.queued prom hprom
  · rw [hpromises] at hprom
    rw [settlements_released prom hsettled, hs.once prom hprom, hqueue, hs.distinct.count]
    simp only [List.not_mem_nil, if_false]
    split <;> rfl

/-- While the flag is not set there is no refresh. -/
theorem Coherent.refreshes_eq (hs : Coherent s) (flag : s.store.isRefreshing = false) :
    refreshes s = 0 := by
  have hsingle := hs.single
  rw [flag] at hsingle
  exact Nat.le_zero.mp hsingle

/-- While the flag is set there is one at most. -/
theorem Coherent.refreshes_le (hs : Coherent s) : refreshes s ≤ 1 :=
  hs.single.trans (by split <;> omega)

/-- Every move keeps the invariant. -/
theorem Effect.coherent {P : Prop} {s' : FrontState} (h : Effect s s' P) (hs : Coherent s) :
    Coherent s' := by
  cases h with
  | same queue count => exact hs.of_queue queue (count ▸ hs.single)
  | waits flag queue count => exact hs.of_waits queue (count ▸ hs.refreshes_le)
  | posts flag queue count =>
      refine hs.of_queue queue ?_
      rw [count, hs.refreshes_eq flag, if_pos rfl]
  | lost flag queue count =>
      refine hs.of_queue queue ?_
      rw [count, hs.refreshes_eq flag]
      exact Nat.zero_le _
  | answered queue count =>
      refine hs.of_released queue ?_
      have hle := hs.refreshes_le
      omega

/-- From a queue that is not wedged, a move wedges it exactly when it finds no token. -/
theorem Effect.unwedged {P : Prop} {s' : FrontState} (h : Effect s s' P) (hs : Coherent s)
    (hu : Unwedged s) : Unwedged s' ↔ P := by
  have hs' : Coherent s' := h.coherent hs
  cases h with
  | same queue count =>
      obtain ⟨hflag, hqueue, -, -⟩ := queue_eq_iff.mp queue
      refine iff_of_true ⟨?_, ?_, hs'.once⟩ trivial
      · rw [hflag, count]
        exact hu.flag
      · rw [hqueue, count]
        exact hu.idle
  | waits flag queue count =>
      have hpos : 0 < refreshes s' := count ▸ hu.flag flag
      exact iff_of_true ⟨fun _ => hpos, fun hzero => absurd hzero hpos.ne', hs'.once⟩ trivial
  | posts flag queue count =>
      have hpos : 0 < refreshes s' := count ▸ Nat.succ_pos _
      exact iff_of_true ⟨fun _ => hpos, fun hzero => absurd hzero hpos.ne', hs'.once⟩ trivial
  | lost flag queue count =>
      obtain ⟨hflag, -, -, -⟩ := queue_eq_iff.mp queue
      refine iff_of_false (fun hwedged => ?_) id
      have hpos : 0 < refreshes s' := hwedged.flag hflag
      rw [count, hs.refreshes_eq flag] at hpos
      exact lt_irrefl _ hpos
  | answered queue count =>
      obtain ⟨hflag, hqueue, -, -⟩ := queue_eq_iff.mp queue
      refine iff_of_true ⟨fun hset => ?_, fun _ => hqueue, hs'.once⟩ trivial
      exact absurd (hflag.symm.trans hset) (by decide)

theorem coherent_fresh (b : Browser) : Coherent (fresh b) :=
  ⟨Nat.le_refl 0, List.nodup_nil, by simp [fresh], by simp [fresh], by simp [fresh]⟩

theorem unwedged_fresh (b : Browser) : Unwedged (fresh b) :=
  ⟨by simp [fresh], fun _ => rfl, (coherent_fresh b).once⟩

/-- The refresh queue of a page never wedges exactly when every failed request that is to start a
refresh finds a refresh token. -/
theorem refresh_queue_unwedged_iff (jsonPayload : String → Option DecodedToken) (b : Browser)
    (moves : List PageMove) :
    (∀ made, made <+: moves → Unwedged (after (page jsonPayload).step made (fresh b))) ↔
      Along (page jsonPayload).step FindsToken moves (fresh b) := by
  refine always_iff_along
    (I := fun s => (∀ p ∈ s.tasks, Suspended jsonPayload p) ∧ Coherent s) ?_ ?_
    (unwedged_fresh b) ?_
  · rintro m s ⟨htasks, hs⟩
    obtain ⟨P, heffect, -⟩ := effect_step htasks m
    exact ⟨suspended_step rfl rfl (fun _ _ _ _ => suspended_page) m htasks, heffect.coherent hs⟩
  · exact ⟨by simp [fresh], coherent_fresh b⟩
  · rintro m s ⟨htasks, hs⟩ hu
    obtain ⟨P, heffect, hP⟩ := effect_step htasks m
    exact (heffect.unwedged hs hu).trans hP

/-- A login with a wrong password on a page that has no refresh token. -/
def wrongPassword : List PageMove := [.start (.tab (.call 0)), .start (.tab (.fails 0 (some 401)))]

/-- The flag stays set, and no refresh is in flight. -/
theorem not_refresh_queue_unwedged :
    ¬ ∀ (jsonPayload : String → Option DecodedToken) (b : Browser) (moves : List PageMove),
      Unwedged (after (page jsonPayload).step moves (fresh b)) := by
  intro h
  have hu := h (fun _ => none) { pathname := "/login" } wrongPassword
  exact absurd (hu.flag (by decide)) (by decide)

end Queue

end Frontend

end FrixelConnect
