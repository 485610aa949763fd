import FrixelConnect.SlidingWindow
import Mathlib.Algebra.Order.Field.Rat
import Mathlib.Data.Nat.Notation
import Mathlib.Logic.Function.Basic
import Mathlib.Tactic.Linarith

/-!
# The rate limiter

A check adds its clock reading to a sorted set in Redis, drops what is older than the window,
counts, and lets the set expire. The members of the set are the readings themselves, so calls with
one reading are counted once.

## Implementation notes

A reading is a number of seconds since the epoch, and it is also the time by which keys expire.
The member `str(now)` determines the score `now`, so a set is given by its scores.
-/

namespace FrixelConnect

namespace RateLimit

open SlidingWindow

/-- A sorted set, and the time at which it is deleted. -/
structure Zset where
  members : List ℚ
  expires : ℚ

abbrev Redis := String → Option Zset

/-- The members of a key that has not expired. -/
def Redis.live (redis : Redis) (now : ℚ) (key : String) : List ℚ :=
  match redis key with
  | some z => if now < z.expires then z.members else []
  | none => []

def zadd (member : ℚ) (members : List ℚ) : List ℚ :=
  if member ∈ members then members else members ++ [member]

def zremrangebyscore (min max : ℚ) (members : List ℚ) : List ℚ :=
  members.filter fun x => ¬ (min ≤ x ∧ x ≤ max)

structure RateLimiter where
  requests : ℕ
  window : ℤ

structure HTTPException where
  status_code : ℕ
  detail : String
  retry_after : String
  deriving DecidableEq

/-- A call of `check`, with the reading of the clock. -/
structure Call where
  limiter : RateLimiter
  endpoint : String
  tenant_id : Option String := none
  ip_address : String
  now : ℚ
  epoch : 0 ≤ now

/-- An empty tenant id counts as none. -/
def key (endpoint : String) (tenant_id : Option String) (ip : String) : String :=
  match tenant_id.filter (· ≠ "") with
  | some tenant_id => "rate_limit:" ++ endpoint ++ ":" ++ tenant_id ++ ":" ++ ip
  | none => "rate_limit:" ++ endpoint ++ ":" ++ ip

namespace Call

variable (c : Call)

def key : String := RateLimit.key c.endpoint c.tenant_id c.ip_address

/-- The members after `zadd` and `zremrangebyscore`. -/
def members (redis : Redis) : List ℚ :=
  zremrangebyscore 0 (c.now - c.limiter.window) (zadd c.now (redis.live c.now c.key))

/-- Redis after the pipeline: an empty set is no key at all. -/
def pipeline (redis : Redis) : Redis :=
  Function.update redis c.key
    (if c.members redis = [] then none else some ⟨c.members redis, c.now + c.limiter.window⟩)

def check (redis : Redis) : Except HTTPException Unit × Redis :=
  if c.limiter.requests < (c.members redis).length then
    (.error { status_code := 429, detail := "Too many requests. Please try again later."
              retry_after := toString c.limiter.window }, c.pipeline redis)
  else (.ok (), c.pipeline redis)

/-- The call goes through. -/
def admitted (redis : Redis) : Bool := (c.check redis).1.isOk

theorem check_snd (redis : Redis) : (c.check redis).2 = c.pipeline redis := by
  rw [check]
  split <;> rfl

theorem admitted_iff (redis : Redis) :
    c.admitted redis = true ↔ (c.members redis).length ≤ c.limiter.requests := by
  rw [admitted, check]
  split
  · next h => simpa [Except.isOk, Except.toBool] using h
  · next h => simpa [Except.isOk, Except.toBool] using h

end Call

/-- Redis after the calls. -/
def after (redis : Redis) (calls : List Call) : Redis :=
  calls.foldl (fun redis c => (c.check redis).2) redis

/-- The readings of the calls on the key, with what became of them. -/
def outcomes (k : String) : Redis → List Call → List (ℚ × Bool)
  | _, [] => []
  | redis, c :: calls =>
      (if c.key = k then [(c.now, c.admitted redis)] else []) ++ outcomes k (c.check redis).2 calls

/-- The readings of the calls on the key. -/
def readings (k : String) (calls : List Call) : List ℚ :=
  (calls.filter fun c => c.key = k).map (·.now)

variable {redis : Redis} {k : String} {L : RateLimiter} {calls earlier later : List Call} {c : Call}

theorem after_append (calls calls' : List Call) :
    after redis (calls ++ calls') = after (after redis calls) calls' := List.foldl_append ..

theorem outcomes_append (calls calls' : List Call) : outcomes k redis (calls ++ calls') =
    outcomes k redis calls ++ outcomes k (after redis calls) calls' := by
  induction calls generalizing redis with
  | nil => rfl
  | cons c calls ih =>
      rw [List.cons_append, outcomes, outcomes, ih, List.append_assoc]
      rfl

theorem readings_append (calls calls' : List Call) :
    readings k (calls ++ calls') = readings k calls ++ readings k calls' := by
  simp [readings]

theorem outcomes_fst : (outcomes k redis calls).map Prod.fst = readings k calls := by
  induction calls generalizing redis with
  | nil => rfl
  | cons c calls ih =>
      rw [outcomes, List.map_append, ih, readings, readings, List.filter_cons]
      by_cases h : c.key = k <;> simp [h]

theorem nodup_zadd {x : ℚ} {members : List ℚ} (h : members.Nodup) : (zadd x members).Nodup := by
  rw [zadd]
  split
  · exact h
  · next hx => exact List.nodup_middle.mpr (by simpa using ⟨hx, h⟩)

theorem mem_zadd {x y : ℚ} {members : List ℚ} : y ∈ zadd x members ↔ y ∈ members ++ [x] := by
  rw [zadd]
  split
  · next hx =>
      rw [List.mem_append, List.mem_singleton]
      constructor
      · exact .inl
      · rintro (hy | rfl)
        · exact hy
        · exact hx
  · rfl

/-- Every outcome is that of a call. -/
theorem outcomes_split {before rest : List (ℚ × Bool)} {e : ℚ × Bool}
    (h : outcomes k redis calls = before ++ e :: rest) : ∃ earlier c later,
      calls = earlier ++ c :: later ∧ c.key = k ∧ before = outcomes k redis earlier ∧
        e = (c.now, c.admitted (after redis earlier)) := by
  induction calls generalizing redis before with
  | nil => simp [outcomes] at h
  | cons c calls ih =>
      rw [outcomes] at h
      by_cases hkey : c.key = k
      · rw [if_pos hkey] at h
        cases before with
        | nil =>
            rw [List.singleton_append, List.nil_append, List.cons.injEq] at h
            exact ⟨[], c, calls, rfl, hkey, rfl, h.1.symm⟩
        | cons e' before =>
            rw [List.singleton_append, List.cons_append, List.cons.injEq] at h
            obtain ⟨earlier, c', later, rfl, hkey', rfl, he⟩ := ih h.2
            refine ⟨c :: earlier, c', later, rfl, hkey', ?_, he⟩
            rw [outcomes, if_pos hkey, ← h.1]
            rfl
      · rw [if_neg hkey, List.nil_append] at h
        obtain ⟨earlier, c', later, rfl, hkey', rfl, he⟩ := ih h
        refine ⟨c :: earlier, c', later, rfl, hkey', ?_, he⟩
        rw [outcomes, if_neg hkey]
        rfl

/-- From every later moment on, the set holds the readings in the window. -/
structure Holds (k : String) (w : ℤ) (times : List ℚ) (redis : Redis) : Prop where
  nodup : ∀ now, (redis.live now k).Nodup
  nonneg : ∀ now, ∀ x ∈ redis.live now k, 0 ≤ x
  members : ∀ now, (∀ t ∈ times, t ≤ now) → ∀ x, now - w < x → (x ∈ redis.live now k ↔ x ∈ times)

theorem holds_empty {w : ℤ} (h : redis k = none) : Holds k w [] redis := by
  constructor <;> simp [Redis.live, h]

variable {w : ℤ} {times : List ℚ}

/-- The pipeline counts the readings in the window, its own included. -/
theorem Holds.mem_members (h : Holds k w times redis) (hkey : c.key = k)
    (hw : c.limiter.window = w) (hle : ∀ t ∈ times, t ≤ c.now) {x : ℚ} :
    x ∈ c.members redis ↔ x ∈ times ++ [c.now] ∧ c.now - w < x := by
  rw [Call.members, zremrangebyscore, List.mem_filter, mem_zadd, hkey, hw, List.mem_append,
    List.mem_append, List.mem_singleton, decide_eq_true_eq, not_and, not_le]
  constructor
  · rintro ⟨hx | rfl, hrange⟩
    · have hlt := hrange (h.nonneg c.now x hx)
      exact ⟨.inl ((h.members c.now hle x hlt).mp hx), hlt⟩
    · exact ⟨.inr rfl, hrange c.epoch⟩
  · rintro ⟨hx, hlt⟩
    exact ⟨hx.imp_left (h.members c.now hle x hlt).mpr, fun _ => hlt⟩

theorem Holds.nodup_members (h : Holds k w times redis) (hkey : c.key = k) :
    (c.members redis).Nodup := by
  rw [Call.members, hkey]
  exact (nodup_zadd (h.nodup _)).filter _

theorem Holds.length_members (h : Holds k w times redis) (hkey : c.key = k)
    (hw : c.limiter.window = w) (hle : ∀ t ∈ times, t ≤ c.now) :
    (c.members redis).length = distinct (w : ℚ) c.now (times ++ [c.now]) := by
  rw [distinct, ← List.toFinset_card_of_nodup (h.nodup_members hkey)]
  congr 1
  ext x
  rw [List.mem_toFinset, List.mem_toFinset, h.mem_members hkey hw hle, mem_recent]
  constructor
  · rintro ⟨hx, hlt⟩
    refine ⟨hx, hlt, ?_⟩
    rcases List.mem_append.mp hx with hx | hx
    · exact hle x hx
    · exact (List.mem_singleton.mp hx).le
  · rintro ⟨hx, hlt, -⟩
    exact ⟨hx, hlt⟩

/-- A call on the key keeps the invariant, -/
theorem Holds.step (h : Holds k w times redis) (hkey : c.key = k) (hw : c.limiter.window = w)
    (hle : ∀ t ∈ times, t ≤ c.now) : Holds k w (times ++ [c.now]) (c.check redis).2 := by
  have hlive (now : ℚ) : Redis.live (c.check redis).2 now k =
      if now < c.now + w then c.members redis else [] := by
    rw [c.check_snd, Redis.live, Call.pipeline, hkey, Function.update_self]
    by_cases hnil : c.members redis = []
    · simp [hnil]
    · simp [hnil, hw]
  constructor
  · intro now
    rw [hlive]
    split
    · exact h.nodup_members hkey
    · exact List.nodup_nil
  · intro now x hx
    rw [hlive] at hx
    split at hx
    · rcases List.mem_append.mp (mem_zadd.mp (List.mem_of_mem_filter hx)) with hx' | hx'
      · exact h.nonneg _ x (hkey ▸ hx')
      · exact (List.mem_singleton.mp hx') ▸ c.epoch
    · cases hx
  · intro now hnow x hx
    have hlast : c.now ≤ now := hnow c.now (by simp)
    rw [hlive]
    split
    · rw [h.mem_members hkey hw hle]
      exact and_iff_left (by linarith)
    · next hexpired =>
        refine iff_of_false List.not_mem_nil fun hmem => hexpired ?_
        have hxnow : x ≤ c.now := by
          rcases List.mem_append.mp hmem with hx' | hx'
          · exact hle x hx'
          · exact (List.mem_singleton.mp hx').le
        linarith

/-- and so does a call on another key. -/
theorem Holds.other (h : Holds k w times redis) (hkey : c.key ≠ k) :
    Holds k w times (c.check redis).2 := by
  have hlive (now : ℚ) : Redis.live (c.check redis).2 now k = redis.live now k := by
    rw [c.check_snd, Redis.live, Call.pipeline, Function.update_of_ne (Ne.symm hkey), Redis.live]
  exact ⟨fun now => hlive now ▸ h.nodup now, fun now => hlive now ▸ h.nonneg now,
    fun now => hlive now ▸ h.members now⟩

/-- The calls on the key are made with one limiter, in the order of their readings. -/
structure InOrder (k : String) (L : RateLimiter) (calls : List Call) : Prop where
  limiter : ∀ c ∈ calls, c.key = k → c.limiter = L
  sorted : (readings k calls).Pairwise (· ≤ ·)

theorem InOrder.left {calls' : List Call} (h : InOrder k L (calls ++ calls')) :
    InOrder k L calls := by
  constructor
  · exact fun c hc => h.limiter c (List.mem_append_left _ hc)
  · have hsorted := h.sorted
    rw [readings_append] at hsorted
    exact (List.pairwise_append.mp hsorted).1

theorem readings_singleton (hkey : c.key = k) : readings k [c] = [c.now] := by
  simp [readings, hkey]

/-- No earlier reading is above that of a call. -/
theorem InOrder.le (h : InOrder k L (earlier ++ c :: later)) (hkey : c.key = k) :
    ∀ t ∈ readings k earlier, t ≤ c.now := by
  have hsorted := h.sorted
  rw [readings_append] at hsorted
  intro t ht
  refine (List.pairwise_append.mp hsorted).2.2 t ht c.now ?_
  simp [readings, hkey]

theorem holds_after (h₀ : redis k = none) (h : InOrder k L calls) :
    Holds k L.window (readings k calls) (after redis calls) := by
  induction calls using List.reverseRecOn with
  | nil => exact holds_empty h₀
  | append_singleton calls c ih =>
      have hcalls := ih h.left
      rw [readings_append, after_append]
      by_cases hkey : c.key = k
      · rw [readings_singleton hkey]
        exact hcalls.step hkey (by rw [h.limiter c (by simp) hkey]) (h.le hkey)
      · have hnone : readings k [c] = [] := by simp [readings, hkey]
        rw [hnone, List.append_nil]
        exact hcalls.other hkey

/-- A call is admitted exactly when the window holds few enough different readings. -/
theorem admitted_after (h₀ : redis k = none) (h : InOrder k L (earlier ++ c :: later))
    (hkey : c.key = k) : c.admitted (after redis earlier) = true ↔
      distinct (L.window : ℚ) c.now (readings k earlier ++ [c.now]) ≤ L.requests := by
  have hlimiter : c.limiter = L := h.limiter c (by simp) hkey
  rw [c.admitted_iff, (holds_after h₀ h.left).length_members hkey (by rw [hlimiter]) (h.le hkey),
    hlimiter]

/-- What the limiter is for: a call is admitted when fewer than `requests` earlier ones are in its
window, so that no half-open interval of that length has more than `requests` admitted ones. -/
structure Limits (k : String) (L : RateLimiter) (redis : Redis) (calls : List Call) : Prop where
  admits : ∀ earlier c later, calls = earlier ++ c :: later → c.key = k →
    (c.admitted (after redis earlier) = true ↔
      (recent (L.window : ℚ) c.now (readings k earlier)).length < L.requests)
  bound : ∀ a : ℚ, (accepted (fun t => a < t ∧ t ≤ a + L.window)
    (outcomes k redis calls)).length ≤ L.requests
  bound' : ∀ a : ℚ, (accepted (fun t => a ≤ t ∧ t < a + L.window)
    (outcomes k redis calls)).length ≤ L.requests

/-- A call for which equal readings make the difference. -/
def Miscounted (k : String) (L : RateLimiter) (earlier : List Call) (c : Call) : Prop :=
  distinct (L.window : ℚ) c.now (readings k earlier ++ [c.now]) ≤ L.requests ∧
    L.requests ≤ (recent (L.window : ℚ) c.now (readings k earlier)).length

/-- The limiter does what it is for in the runs in which no call is miscounted, and in no other. -/
theorem limits_iff (h₀ : redis k = none) (h : InOrder k L calls) : Limits k L redis calls ↔
    ∀ earlier c later, calls = earlier ++ c :: later → c.key = k → ¬ Miscounted k L earlier c := by
  constructor
  · rintro hlimits earlier c later rfl hkey ⟨hdistinct, hfull⟩
    have hadmitted := (admitted_after h₀ h hkey).mpr hdistinct
    exact absurd ((hlimits.admits _ _ _ rfl hkey).mp hadmitted) (not_lt.mpr hfull)
  · intro hcounted
    have hadmits : ∀ earlier c later, calls = earlier ++ c :: later → c.key = k →
        (c.admitted (after redis earlier) = true ↔
          (recent (L.window : ℚ) c.now (readings k earlier)).length < L.requests) := by
      rintro earlier c later rfl hkey
      rw [admitted_after h₀ h hkey]
      constructor
      · intro hdistinct
        by_contra hfull
        exact hcounted earlier c later rfl hkey ⟨hdistinct, not_lt.mp hfull⟩
      · exact fun hfew => (distinct_concat_le _ _ _).trans hfew
    have haccept : ∀ before e after, outcomes k redis calls = before ++ e :: after → e.2 = true →
        (recent (L.window : ℚ) e.1 (before.map Prod.fst)).length < L.requests := by
      intro before e rest hsplit he
      obtain ⟨earlier, c, later, rfl, hkey, rfl, rfl⟩ := outcomes_split hsplit
      rw [outcomes_fst]
      exact (hadmits earlier c later rfl hkey).mp he
    have hsorted : ((outcomes k redis calls).map Prod.fst).Pairwise (· ≤ ·) := by
      rw [outcomes_fst]
      exact h.sorted
    refine ⟨hadmits, fun a => accepted_le ?_ hsorted haccept, fun a =>
      accepted_le ?_ hsorted haccept⟩
    · rintro x y ⟨-, hx⟩ ⟨hy, -⟩
      linarith
    · rintro x y ⟨-, hx⟩ ⟨hy, -⟩
      linarith

/-- A call of the login endpoint, limited to one call a minute. -/
def login (now : ℕ) : Call :=
  { limiter := { requests := 1, window := 60 }, endpoint := "/auth/login"
    ip_address := "10.0.0.7", now, epoch := Nat.cast_nonneg now }

theorem limits_two_minutes : Limits (login 0).key (login 0).limiter (fun _ => none)
    [login 100, login 170] := by
  have horder : InOrder (login 0).key (login 0).limiter [login 100, login 170] :=
    ⟨by simp [login], by decide +kernel⟩
  refine (limits_iff rfl horder).mpr ?_
  rintro earlier c later heq - ⟨-, hfull⟩
  rcases earlier with _ | ⟨c', _ | ⟨c'', rest⟩⟩
  · obtain ⟨rfl, -⟩ := List.cons_eq_cons.mp heq
    exact absurd hfull (by decide +kernel)
  · obtain ⟨rfl, htail⟩ := List.cons_eq_cons.mp heq
    obtain ⟨rfl, -⟩ := List.cons_eq_cons.mp htail
    exact absurd hfull (by decide +kernel)
  · simp at heq

/-- Two calls with one reading are admitted together. -/
theorem not_limits : ¬ Limits (login 0).key (login 0).limiter (fun _ => none)
    [login 100, login 100] := by
  intro h
  have hadmits := h.admits [login 100] (login 100) [] rfl rfl
  exact absurd (hadmits.mp (by decide +kernel)) (by decide +kernel)

end RateLimit

end FrixelConnect
