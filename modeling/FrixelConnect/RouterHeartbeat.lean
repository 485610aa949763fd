import FrixelConnect.Python.Stateful
import FrixelConnect.Routers
import Mathlib.Data.List.DropRight
import Mathlib.Logic.Function.Basic

/-!
# The heartbeat of the routers

Once a minute a monitor fetches the routers that are set up and asks each of them. A router that
answers is online. One that does not answer is offline from its third failure in a row on. The
status is a column of the table, and the failures are counted in the memory of the monitor.

## Implementation notes

What other parties do to the table, while the monitor sleeps and while it waits for a router, is
an edit by the environment, which also decides what becomes of each check and of each statement.
The shutdown of the monitor is left out.
-/

namespace FrixelConnect

open Calendar Python

structure MonitoredRouter extends RouterRow where
  last_heartbeat_at : Option Timestamptz := none
  deriving DecidableEq

/-- The table `routers`, with its primary key. -/
structure RouterTable where
  rows : List MonitoredRouter
  primary_key : (rows.map (·.id)).Nodup

namespace RouterTable

def row (t : RouterTable) (id : UUID) : Option MonitoredRouter := t.rows.find? fun r => r.id == id

def status (t : RouterTable) (id : UUID) : Option RouterStatus := (t.row id).map (·.status)

/-- `UPDATE routers SET … WHERE id = …`. -/
def update (t : RouterTable) (id : UUID) (f : MonitoredRouter → MonitoredRouter)
    (hf : ∀ r, (f r).id = r.id) : RouterTable where
  rows := updateRows (fun r => r.id == id) f t.rows
  primary_key := nodup_updateRows _ hf t.primary_key

def set_online (t : RouterTable) (id : UUID) (now : Timestamptz) : RouterTable :=
  t.update id (fun r => { r with status := .online, last_heartbeat_at := some now }) fun _ => rfl

def set_offline (t : RouterTable) (id : UUID) : RouterTable :=
  t.update id (fun r => { r with status := .offline }) fun _ => rfl

variable {id id' : UUID} {f : MonitoredRouter → MonitoredRouter}

theorem row_update_self (t : RouterTable) (hf : ∀ r, (f r).id = r.id) :
    (t.update id f hf).row id = (t.row id).map f := by
  change (updateRows _ f t.rows).find? _ = (t.rows.find? _).map f
  unfold updateRows
  induction t.rows with
  | nil => rfl
  | cons r rows ih =>
      by_cases h : r.id = id
      · simp [h, hf]
      · simpa [h] using ih

theorem row_set_online (t : RouterTable) (now : Timestamptz) : (t.set_online id now).row id =
    (t.row id).map fun r => { r with status := .online, last_heartbeat_at := some now } :=
  t.row_update_self _

theorem row_set_offline (t : RouterTable) :
    (t.set_offline id).row id = (t.row id).map fun r => { r with status := .offline } :=
  t.row_update_self _

theorem row_update_ne (t : RouterTable) (hf : ∀ r, (f r).id = r.id) (hne : id' ≠ id) :
    (t.update id f hf).row id' = t.row id' := by
  change (updateRows _ f t.rows).find? _ = t.rows.find? _
  unfold updateRows
  induction t.rows with
  | nil => rfl
  | cons r rows ih =>
      by_cases h : r.id = id
      · have hr : id ≠ id' := Ne.symm hne
        simpa [h, hf, hr] using ih
      · by_cases h' : r.id = id'
        · simp [h', hne]
        · simpa [h, h'] using ih

theorem row_set_online_ne (t : RouterTable) (now : Timestamptz) (hne : id' ≠ id) :
    (t.set_online id now).row id' = t.row id' := t.row_update_ne _ hne

theorem row_set_offline_ne (t : RouterTable) (hne : id' ≠ id) :
    (t.set_offline id).row id' = t.row id' := t.row_update_ne _ hne

/-- `WHERE status NOT IN ('pending_setup', 'testing')`. -/
def monitored (t : RouterTable) : List MonitoredRouter :=
  t.rows.filter fun r => r.status != .pending_setup && r.status != .testing

end RouterTable

/-- The table, and the dictionary of the monitor. -/
structure Monitor where
  routers : RouterTable
  consecutive_failures : UUID → Option ℕ := fun _ => none

/-- What the environment contributes to the visit of a router. -/
structure Visit where
  edit : RouterTable → RouterTable := id
  /-- The outcome of `get_mikrotik_client` and `get_user_profile_names`. -/
  check : Except Exn Unit := .ok ()
  set_online : Except Exn Unit := .ok ()
  set_offline : Except Exn Unit := .ok ()
  now : Timestamptz := 0

/-- What the environment contributes to a round. -/
structure Round where
  edit : RouterTable → RouterTable := id
  fetch : Except Exn Unit := .ok ()
  visits : UUID → Visit := fun _ => {}

abbrev MonitorM := Stateful Exn Monitor

namespace Monitor

def setFailures (m : Monitor) (id : UUID) (n : ℕ) : Monitor :=
  { m with consecutive_failures := Function.update m.consecutive_failures id (some n) }

/-- `consecutive_failures.get(id, 0)`. -/
def failures (m : Monitor) (id : UUID) : ℕ := (m.consecutive_failures id).getD 0

def edited (m : Monitor) (edit : RouterTable → RouterTable) : Monitor :=
  { m with routers := edit m.routers }

end Monitor

/-- One pass of the inner loop. -/
def check_router (r : MonitoredRouter) (v : Visit) : MonitorM Unit := do
  modify fun m => m.edited v.edit
  tryCatch
    (do
      liftExcept v.check
      modify fun m => m.setFailures r.id 0
      liftExcept v.set_online
      modify fun m => m.edited (·.set_online r.id v.now))
    fun _ => do
      let failures := (← getThe Monitor).failures r.id + 1
      modify fun m => m.setFailures r.id failures
      if failures ≥ 3 then
        liftExcept v.set_offline
        modify fun m => m.edited (·.set_offline r.id)

def heartbeat_round (w : Round) : MonitorM Unit := do
  modify fun m => m.edited w.edit
  liftExcept w.fetch
  let routers := (← getThe Monitor).routers.monitored
  routers.forM fun r => check_router r (w.visits r.id)

def router_heartbeat_loop : List Round → MonitorM Unit
  | [] => pure ()
  | w :: rounds => do
      tryCatch (heartbeat_round w) fun _ => pure ()
      router_heartbeat_loop rounds

/-! ## What one check does -/

namespace Monitor

/-- The monitor after a program. -/
def after (m : Monitor) (p : MonitorM Unit) : Monitor := (p.exec m).2

/-- The monitor after it has dealt with the outcome of a check. -/
def dealt (m : Monitor) (id : UUID) (v : Visit) : Monitor :=
  match v.check with
  | .ok _ => (m.setFailures id 0).edited (·.set_online id v.now)
  | .error _ =>
      if m.failures id + 1 ≥ 3 then
        (m.setFailures id (m.failures id + 1)).edited (·.set_offline id)
      else m.setFailures id (m.failures id + 1)

variable {m : Monitor} {id id' : UUID} {n : ℕ} {v : Visit}

@[simp] theorem failures_setFailures_self : (m.setFailures id n).failures id = n := by
  simp [failures, setFailures]

@[simp] theorem failures_setFailures_ne (h : id' ≠ id) :
    (m.setFailures id n).failures id' = m.failures id' := by
  simp [failures, setFailures, h]

@[simp] theorem failures_edited (edit : RouterTable → RouterTable) :
    (m.edited edit).failures id = m.failures id := rfl

@[simp] theorem routers_setFailures : (m.setFailures id n).routers = m.routers := rfl

@[simp] theorem routers_edited (edit : RouterTable → RouterTable) :
    (m.edited edit).routers = edit m.routers := rfl

/-- A check touches the row and the counter of its own router only. -/
theorem dealt_other (h : id' ≠ id) : (m.dealt id v).routers.row id' = m.routers.row id' ∧
    (m.dealt id v).failures id' = m.failures id' := by
  unfold dealt
  cases v.check with
  | ok _ => exact ⟨RouterTable.row_set_online_ne _ _ h, failures_setFailures_ne h⟩
  | error e =>
      dsimp only
      split
      · exact ⟨RouterTable.row_set_offline_ne _ h, failures_setFailures_ne h⟩
      · exact ⟨rfl, failures_setFailures_ne h⟩

theorem dealt_failures :
    (m.dealt id v).failures id = if v.check.isOk then 0 else m.failures id + 1 := by
  unfold dealt
  cases v.check with
  | ok _ => exact failures_setFailures_self
  | error e =>
      dsimp only
      split
      · exact failures_setFailures_self
      · exact failures_setFailures_self

theorem dealt_status : (m.dealt id v).routers.status id =
    if v.check.isOk then (m.routers.status id).map fun _ => .online
    else if 3 ≤ m.failures id + 1 then (m.routers.status id).map fun _ => .offline
    else m.routers.status id := by
  unfold dealt RouterTable.status
  cases v.check with
  | ok _ =>
      simp only [routers_edited, routers_setFailures, RouterTable.row_set_online, Option.map_map]
      rfl
  | error e =>
      dsimp only
      split
      · next h =>
          simp only [routers_edited, routers_setFailures, RouterTable.row_set_offline,
            Option.map_map]
          simp [Except.isOk, Except.toBool, Function.comp_def]
      · next h => simp [Except.isOk, Except.toBool]

end Monitor

/-- The statements of the visit succeed, whatever becomes of the check. -/
structure Visit.Succeeds (v : Visit) : Prop where
  set_online : v.set_online = .ok ()
  set_offline : v.set_offline = .ok ()

structure Round.Succeeds (w : Round) : Prop where
  fetch : w.fetch = .ok ()
  visits : ∀ id, (w.visits id).Succeeds

theorem check_router_run {r : MonitoredRouter} {v : Visit} (h : v.Succeeds) (m : Monitor) :
    (check_router r v).exec m = (.ok (), (m.edited v.edit).dealt r.id v) := by
  unfold check_router Monitor.dealt
  cases v.check with
  | ok _ =>
      rw [h.set_online]
      rfl
  | error e =>
      rw [h.set_offline]
      dsimp only
      split
      · next hfailures => exact congrArg (fun p => StateT.run (ExceptT.run p) _) (if_pos hfailures)
      · next hfailures => exact congrArg (fun p => StateT.run (ExceptT.run p) _) (if_neg hfailures)

/-! ## The checks of a run -/

/-- A check of a router: the monitor when the answer is there, and when it has been dealt with. -/
structure Check where
  id : UUID
  ok : Bool
  asked : Monitor
  dealt : Monitor

/-- The checks of the routers that are left in a round. -/
def visited (visits : UUID → Visit) : Monitor → List MonitoredRouter → List Check
  | _, [] => []
  | m, r :: rest =>
      let v := visits r.id
      let dealt := m.after (check_router r v)
      { id := r.id, ok := v.check.isOk, asked := m.edited v.edit, dealt } :: visited visits dealt rest

def Round.checks (w : Round) (m : Monitor) : List Check :=
  visited w.visits (m.edited w.edit) (w.edit m.routers).monitored

/-- The checks of the rounds. -/
def checks : Monitor → List Round → List Check
  | _, [] => []
  | m, w :: rounds => w.checks m ++ checks (m.after (router_heartbeat_loop [w])) rounds

/-- The outcomes of the checks of a router. -/
def outcomes (id : UUID) (cs : List Check) : List Bool := (cs.filter fun c => c.id = id).map (·.ok)

/-- The failed checks since the last success. -/
def failuresInARow (outcomes : List Bool) : ℕ := (outcomes.rtakeWhile (! ·)).length

/-- The status that a check leads to, after the earlier checks. -/
def Check.verdict (earlier : List Check) (c : Check) : Option RouterStatus :=
  if c.ok then (c.asked.routers.status c.id).map fun _ => .online
  else if 3 ≤ failuresInARow (outcomes c.id (earlier ++ [c])) then
    (c.asked.routers.status c.id).map fun _ => .offline
  else c.asked.routers.status c.id

/-- The checks lead from one monitor to the other, up to what others do to the table. -/
inductive Traced : Monitor → List Check → Monitor → Prop
  | nil {m m' : Monitor} (h : m'.consecutive_failures = m.consecutive_failures) : Traced m [] m'
  | cons {m m' : Monitor} {c : Check} {cs : List Check} {v : Visit}
      (hasked : c.asked.consecutive_failures = m.consecutive_failures) (hok : c.ok = v.check.isOk)
      (hdealt : c.dealt = c.asked.dealt c.id v) (tail : Traced c.dealt cs m') :
      Traced m (c :: cs) m'

namespace Traced

variable {m m' m'' : Monitor} {cs cs' : List Check} {c : Check}

theorem edited (h : Traced m cs m') (hm : m.consecutive_failures = m''.consecutive_failures) :
    Traced m'' cs m' := by
  cases h with
  | nil h => exact .nil (h.trans hm)
  | cons hasked hok hdealt tail => exact .cons (hasked.trans hm) hok hdealt tail

theorem append (h : Traced m cs m') (h' : Traced m' cs' m'') : Traced m (cs ++ cs') m'' := by
  induction h with
  | nil h => exact h'.edited h
  | cons hasked hok hdealt tail ih => exact .cons hasked hok hdealt (ih h')

theorem split (h : Traced m (cs ++ cs') m'') : ∃ m', Traced m cs m' ∧ Traced m' cs' m'' := by
  induction cs generalizing m with
  | nil => exact ⟨m, .nil rfl, h⟩
  | cons c cs ih =>
      cases h with
      | cons hasked hok hdealt tail =>
          obtain ⟨m', hcs, hcs'⟩ := ih tail
          exact ⟨m', .cons hasked hok hdealt hcs, hcs'⟩

end Traced

theorem outcomes_append (id : UUID) (cs cs' : List Check) :
    outcomes id (cs ++ cs') = outcomes id cs ++ outcomes id cs' := by
  simp [outcomes]

theorem failuresInARow_concat (history : List Bool) (ok : Bool) :
    failuresInARow (history ++ [ok]) = if ok then 0 else failuresInARow history + 1 := by
  unfold failuresInARow
  rw [List.rtakeWhile_concat]
  cases ok with
  | true => rfl
  | false => simp

/-- The counter of every router is the number of its failed checks since its last success. -/
def Monitor.Counts (m : Monitor) (history : List Check) : Prop :=
  ∀ id, m.failures id = failuresInARow (outcomes id history)

theorem Monitor.Counts.edited {m m' : Monitor} {history : List Check} (h : m.Counts history)
    (hm : m'.consecutive_failures = m.consecutive_failures) : m'.Counts history := by
  intro id
  rw [← h id, failures, failures, hm]

/-- One check keeps the counters. -/
theorem Monitor.Counts.check {c : Check} {v : Visit} {history : List Check}
    (h : c.asked.Counts history) (hok : c.ok = v.check.isOk)
    (hdealt : c.dealt = c.asked.dealt c.id v) : c.dealt.Counts (history ++ [c]) := by
  intro id
  rw [hdealt, outcomes_append]
  by_cases hid : c.id = id
  · subst hid
    have hone : outcomes c.id [c] = [v.check.isOk] := by simp [outcomes, hok]
    rw [dealt_failures, hone, failuresInARow_concat, h c.id]
  · have hnone : outcomes id [c] = [] := by simp [outcomes, hid]
    rw [(dealt_other (Ne.symm hid)).2, hnone, List.append_nil, h id]

theorem Traced.counts {m m' : Monitor} {cs history : List Check} (h : Traced m cs m')
    (hm : m.Counts history) : m'.Counts (history ++ cs) := by
  induction h generalizing history with
  | nil h =>
      rw [List.append_nil]
      exact hm.edited h
  | @cons m m' c cs v hasked hok hdealt tail ih =>
      have hnext := ih ((hm.edited hasked).check hok hdealt)
      rwa [List.append_assoc, List.singleton_append] at hnext

/-- A check of a run, after the checks before it. -/
theorem Traced.verdict {m m' : Monitor} {earlier later history : List Check} {c : Check}
    (h : Traced m (earlier ++ c :: later) m') (hm : m.Counts history) :
    c.dealt.routers.status c.id = c.verdict (history ++ earlier) := by
  obtain ⟨m₁, hearlier, hlater⟩ := h.split
  cases hlater with
  | @cons _ _ _ _ v hasked hok hdealt tail =>
      have hcount := (hearlier.counts hm).edited hasked
      have hone : outcomes c.id [c] = [c.ok] := by simp [outcomes]
      rw [hdealt, Monitor.dealt_status, Check.verdict, ← hok, outcomes_append, hone,
        failuresInARow_concat, hcount c.id]
      cases c.ok with
      | true => rfl
      | false => rfl

/-! ## Rounds in which the statements succeed -/

theorem visited_ids (visits : UUID → Visit) (m : Monitor) (rs : List MonitoredRouter) :
    (visited visits m rs).map (·.id) = rs.map (·.id) := by
  induction rs generalizing m with
  | nil => rfl
  | cons r rest ih => exact congrArg _ (ih _)

theorem visited_run {visits : UUID → Visit} (h : ∀ id, (visits id).Succeeds) (m : Monitor)
    (rs : List MonitoredRouter) : ∃ m',
      (rs.forM fun r => check_router r (visits r.id)).exec m = (.ok (), m') ∧
        Traced m (visited visits m rs) m' := by
  induction rs generalizing m with
  | nil => exact ⟨m, rfl, .nil rfl⟩
  | cons r rest ih =>
      have hcheck := check_router_run (r := r) (h r.id) m
      have hdealt : m.after (check_router r (visits r.id)) =
          (m.edited (visits r.id).edit).dealt r.id (visits r.id) := congrArg Prod.snd hcheck
      obtain ⟨m', hrun, htraced⟩ := ih (m.after (check_router r (visits r.id)))
      refine ⟨m', ?_, .cons (v := visits r.id) rfl rfl hdealt htraced⟩
      exact (Stateful.exec_bind_ok hcheck).trans (hdealt ▸ hrun)

theorem heartbeat_round_run {w : Round} (h : w.Succeeds) (m : Monitor) : ∃ m',
    (heartbeat_round w).exec m = (.ok (), m') ∧
      Traced (m.edited w.edit) (w.checks m) m' := by
  obtain ⟨m', hrun, htraced⟩ := visited_run h.visits (m.edited w.edit) (w.edit m.routers).monitored
  refine ⟨m', ?_, htraced⟩
  unfold heartbeat_round
  rw [h.fetch]
  exact hrun

/-- The loop goes on with the monitor that a round leaves, whatever becomes of the round. -/
theorem loop_cons (m : Monitor) (w : Round) (rounds : List Round) :
    m.after (router_heartbeat_loop (w :: rounds)) =
      (m.after (heartbeat_round w)).after (router_heartbeat_loop rounds) := by
  have hround : (tryCatch (heartbeat_round w) fun _ => pure ()).exec m =
      (.ok (), m.after (heartbeat_round w)) := by
    rw [Stateful.exec_tryCatch, Monitor.after]
    rcases (heartbeat_round w).exec m with ⟨e | _, m'⟩
    · rfl
    · rfl
  exact congrArg Prod.snd (Stateful.exec_bind_ok hround)

theorem loop_append (m : Monitor) (rounds rounds' : List Round) :
    m.after (router_heartbeat_loop (rounds ++ rounds')) =
      (m.after (router_heartbeat_loop rounds)).after (router_heartbeat_loop rounds') := by
  induction rounds generalizing m with
  | nil => rfl
  | cons w rounds ih => rw [List.cons_append, loop_cons, loop_cons, ih]

theorem loop_singleton (m : Monitor) (w : Round) :
    m.after (router_heartbeat_loop [w]) = m.after (heartbeat_round w) := loop_cons m w []

theorem round_traced {w : Round} (h : w.Succeeds) (m : Monitor) :
    Traced m (w.checks m) (m.after (heartbeat_round w)) := by
  obtain ⟨m', hrun, htraced⟩ := heartbeat_round_run h m
  have hm : m.after (heartbeat_round w) = m' := congrArg Prod.snd hrun
  rw [hm]
  exact htraced.edited rfl

theorem loop_traced {rounds : List Round} (h : ∀ w ∈ rounds, w.Succeeds) (m : Monitor) :
    Traced m (checks m rounds) (m.after (router_heartbeat_loop rounds)) := by
  induction rounds generalizing m with
  | nil => exact .nil rfl
  | cons w rounds ih =>
      rw [checks, loop_singleton, loop_cons]
      exact (round_traced (h w List.mem_cons_self) m).append
        (ih (fun w' hw => h w' (List.mem_cons_of_mem _ hw)) _)

/-- The row of a router stays as its check has left it, as long as the others leave it alone. -/
theorem visited_row {visits : UUID → Visit} (h : ∀ id, (visits id).Succeeds) {id : UUID}
    (m : Monitor) {rs : List MonitoredRouter} (hid : id ∉ rs.map (·.id))
    (hedit : ∀ r ∈ rs, ∀ t, ((visits r.id).edit t).row id = t.row id) :
    (m.after (rs.forM fun r => check_router r (visits r.id))).routers.row id =
      m.routers.row id := by
  induction rs generalizing m with
  | nil => rfl
  | cons r rest ih =>
      rw [List.map_cons, List.mem_cons, not_or] at hid
      have hcheck := check_router_run (r := r) (h r.id) m
      have hrest : m.after ((r :: rest).forM fun r => check_router r (visits r.id)) =
          ((m.edited (visits r.id).edit).dealt r.id (visits r.id)).after
            (rest.forM fun r => check_router r (visits r.id)) :=
        congrArg Prod.snd (Stateful.exec_bind_ok hcheck)
      calc (m.after ((r :: rest).forM fun r => check_router r (visits r.id))).routers.row id
          = (((m.edited (visits r.id).edit).dealt r.id (visits r.id)).after
              (rest.forM fun r => check_router r (visits r.id))).routers.row id := by rw [hrest]
        _ = ((m.edited (visits r.id).edit).dealt r.id (visits r.id)).routers.row id :=
            ih _ hid.2 fun r' hr' => hedit r' (List.mem_cons_of_mem _ hr')
        _ = ((visits r.id).edit m.routers).row id := (Monitor.dealt_other hid.1).1
        _ = m.routers.row id := hedit r List.mem_cons_self m.routers

/-- The monitor is started with an empty dictionary. -/
def started (t : RouterTable) : Monitor := { routers := t }

theorem started_counts (t : RouterTable) : (started t).Counts [] := fun _ => rfl

/-- What the heartbeat is for: each check of a run leads to the status that its outcome and the
history of its router say, it touches nothing else, and the status lasts. -/
structure Healthy (t : RouterTable) (rounds : List Round) : Prop where
  status : ∀ earlier c later, checks (started t) rounds = earlier ++ c :: later →
    c.dealt.routers.status c.id = c.verdict earlier
  counter : ∀ earlier c later, checks (started t) rounds = earlier ++ c :: later →
    c.dealt.failures c.id = failuresInARow (outcomes c.id (earlier ++ [c]))
  others : ∀ c ∈ checks (started t) rounds, ∀ id ≠ c.id,
    c.dealt.routers.row id = c.asked.routers.row id ∧ c.dealt.failures id = c.asked.failures id
  /-- A round checks the routers that it fetches, each of them once. -/
  round : ∀ before w after m, rounds = before ++ w :: after →
    m = (started t).after (router_heartbeat_loop before) →
      (w.checks m).map (·.id) = (w.edit m.routers).monitored.map (·.id) ∧
        ((w.checks m).map (·.id)).Nodup
  lasts : ∀ before w after m earlier c later, rounds = before ++ w :: after →
    m = (started t).after (router_heartbeat_loop before) → w.checks m = earlier ++ c :: later →
      (∀ c' ∈ later, ∀ t', ((w.visits c'.id).edit t').row c.id = t'.row c.id) →
        ((started t).after (router_heartbeat_loop (before ++ [w]))).routers.row c.id =
          c.dealt.routers.row c.id

theorem Traced.other {m m' : Monitor} {cs : List Check} {c : Check} (h : Traced m cs m')
    (hc : c ∈ cs) {id : UUID} (hne : id ≠ c.id) :
    c.dealt.routers.row id = c.asked.routers.row id ∧
      c.dealt.failures id = c.asked.failures id := by
  obtain ⟨earlier, later, rfl⟩ := List.append_of_mem hc
  obtain ⟨m₁, -, hlater⟩ := h.split
  cases hlater with
  | cons hasked hok hdealt tail =>
      rw [hdealt]
      exact Monitor.dealt_other hne

theorem Traced.counter {m m' : Monitor} {earlier later : List Check} {c : Check}
    (h : Traced m (earlier ++ c :: later) m') (hm : m.Counts []) :
    c.dealt.failures c.id = failuresInARow (outcomes c.id (earlier ++ [c])) := by
  obtain ⟨m₁, hearlier, hlater⟩ := h.split
  cases hlater with
  | cons hasked hok hdealt tail =>
      exact ((((hearlier.counts hm).edited hasked).check hok hdealt)) c.id

theorem monitored_nodup (t : RouterTable) : (t.monitored.map (·.id)).Nodup :=
  t.primary_key.sublist (List.filter_sublist.map _)

/-- The checks of a round before and after one of its checks. -/
theorem visited_split {visits : UUID → Visit} (h : ∀ id, (visits id).Succeeds) {m : Monitor}
    {rs : List MonitoredRouter} {earlier later : List Check} {c : Check}
    (hsplit : visited visits m rs = earlier ++ c :: later) : ∃ rest,
      later = visited visits c.dealt rest ∧
        m.after (rs.forM fun r => check_router r (visits r.id)) =
          c.dealt.after (rest.forM fun r => check_router r (visits r.id)) := by
  induction rs generalizing m earlier with
  | nil => simp [visited] at hsplit
  | cons r rest ih =>
      have hcheck := check_router_run (r := r) (h r.id) m
      have hrest : m.after ((r :: rest).forM fun r => check_router r (visits r.id)) =
          (m.after (check_router r (visits r.id))).after
            (rest.forM fun r => check_router r (visits r.id)) := by
        have hafter : m.after (check_router r (visits r.id)) =
            (m.edited (visits r.id).edit).dealt r.id (visits r.id) := congrArg Prod.snd hcheck
        rw [hafter]
        exact congrArg Prod.snd (Stateful.exec_bind_ok hcheck)
      rw [visited] at hsplit
      cases earlier with
      | nil =>
          obtain ⟨rfl, rfl⟩ := List.cons.inj hsplit
          exact ⟨rest, rfl, hrest⟩
      | cons c' earlier =>
          obtain ⟨-, hsplit⟩ := List.cons.inj hsplit
          obtain ⟨rest', hlater, hafter⟩ := ih hsplit
          exact ⟨rest', hlater, hrest.trans hafter⟩

theorem Round.checks_ids (w : Round) (m : Monitor) :
    (w.checks m).map (·.id) = (w.edit m.routers).monitored.map (·.id) := visited_ids ..

theorem Round.checks_nodup (w : Round) (m : Monitor) : ((w.checks m).map (·.id)).Nodup := by
  rw [w.checks_ids]
  exact monitored_nodup _

theorem Round.after_eq {w : Round} (h : w.Succeeds) (m : Monitor) :
    m.after (heartbeat_round w) = (m.edited w.edit).after
      ((w.edit m.routers).monitored.forM fun r => check_router r (w.visits r.id)) := by
  unfold heartbeat_round
  rw [h.fetch]
  rfl

/-- In every run whose own statements succeed, the monitor does what it is for. -/
theorem router_health (t : RouterTable) (rounds : List Round) (h : ∀ w ∈ rounds, w.Succeeds) :
    Healthy t rounds := by
  have htraced := loop_traced h (started t)
  constructor
  · intro earlier c later heq
    rw [heq] at htraced
    exact htraced.verdict (started_counts t)
  · intro earlier c later heq
    rw [heq] at htraced
    exact htraced.counter (started_counts t)
  · intro c hc id hne
    exact htraced.other hc hne
  · intro before w after m _ _
    exact ⟨w.checks_ids m, w.checks_nodup m⟩
  · rintro before w after m earlier c later rfl rfl hsplit hedit
    have hw : w.Succeeds := h w (by simp)
    have hnodup := w.checks_nodup ((started t).after (router_heartbeat_loop before))
    rw [hsplit, List.map_append, List.map_cons] at hnodup
    have hlater : c.id ∉ later.map (·.id) :=
      (List.nodup_cons.mp (List.nodup_append.mp hnodup).2.1).1
    obtain ⟨rest, rfl, hafter⟩ := visited_split hw.visits hsplit
    rw [visited_ids] at hlater
    rw [loop_append, loop_singleton, Round.after_eq hw, hafter]
    refine visited_row hw.visits c.dealt hlater fun r hr t' => ?_
    have hid : r.id ∈ (visited w.visits c.dealt rest).map (·.id) := by
      rw [visited_ids]
      exact List.mem_map_of_mem hr
    obtain ⟨c', hc', heq⟩ := List.mem_map.mp hid
    exact heq ▸ hedit c' hc' t'

/-- A router that is offline after it has failed in three rounds, and online after the fourth. -/
theorem router_health_four :
    let t : RouterTable :=
      { rows := [{ id := 1, tenant_id := 7, name := "a", site_name := "s" }], primary_key := by simp }
    let silent : Round := { visits := fun _ => { check := .error (.lost "timeout") } }
    Healthy t [silent, silent, silent, {}] ∧
      ((started t).after (router_heartbeat_loop [silent, silent])).routers.status 1 =
        some .unknown ∧
      ((started t).after (router_heartbeat_loop [silent, silent, silent])).routers.status 1 =
        some .offline ∧
      ((started t).after (router_heartbeat_loop [silent, silent, silent, {}])).routers.status 1 =
        some .online := by
  refine ⟨router_health _ _ ?_, by decide, by decide, by decide⟩
  intro w hw
  have hw : w = { visits := fun _ => { check := .error (.lost "timeout") } } ∨ w = {} := by
    simpa using hw
  rcases hw with rfl | rfl
  · exact ⟨rfl, fun _ => ⟨rfl, rfl⟩⟩
  · exact ⟨rfl, fun _ => ⟨rfl, rfl⟩⟩

end FrixelConnect
