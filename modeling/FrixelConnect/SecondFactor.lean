import FrixelConnect.SuperAdmins
import FrixelConnect.Interleaving.Discipline

/-!
# The second factor of a login

A pre-auth token and the counter of its wrong codes are read by one statement and written
by later ones. One access token at most is issued for it, and at most three wrong codes
are compared, all while it is valid, in every run in which a code is compared before the
token and the number of wrong codes change, and the token is still unused when a right
code marks it used.
-/

namespace FrixelConnect

open Calendar Interleaving Python SuperAdmins

namespace SecondFactor

/-- The keys of the table, and what is claimed of the codes that were compared. -/
structure Sound (d : AdminStore) : Prop where
  ids : (d.pre_auth_tokens.map (·.id)).Nodup
  hashes : (d.pre_auth_tokens.map (·.token_hash)).Nodup
  current : ∀ c ∈ d.compared, c.current = true
  wrongs : ∀ token_hash, d.wrongs token_hash ≤ 3

/-- How far a call has come. -/
inductive Stage where
  | idle
  | read (id : UUID) (token_hash : String)
  | used (token_hash : String)

namespace Stage

/-- What the call knows about the store. -/
def Holds (d : AdminStore) : Stage → Prop
  | .idle => True
  | .read id token_hash => ∃ t ∈ d.pre_auth_tokens, t.id = id ∧ t.token_hash = token_hash
  | .used token_hash => ∃ t ∈ d.pre_auth_tokens, t.token_hash = token_hash ∧ t.used_at ≠ none

/-- A right code uses its token up. -/
def token : Stage → Option String
  | .used token_hash => some token_hash
  | _ => none

end Stage

/-- The token is as the call has read it and has not expired, and the attempts that it has read
include all the wrong codes so far. -/
def AsRead (d : AdminStore) (row : PreAuthRow) (token_hash : String) (attempts : ℕ)
    (now : Timestamptz) : Prop :=
  (∃ t ∈ d.pre_auth_tokens, t.id = row.id ∧ t.used_at = row.used_at ∧ now ≤ t.expires_at) ∧
    d.wrongs token_hash ≤ attempts

/-- Runs in which codes are compared with what was read, and a right code finds its token unused.
The rest of the system leaves the tokens alone. -/
def timely : AdminRules where
  stmt s c d := match s, c with
    | .verify_totp_code row token_hash attempts _ _, .run v =>
        AsRead d row token_hash attempts v.now
    | .consume_token id, .run _ => ∀ t ∈ d.pre_auth_tokens, t.id = id → t.used_at = none
    | _, _ => True
  edit d d' := d'.pre_auth_tokens = d.pre_auth_tokens ∧ d'.compared = d.compared

def secondFactor : Discipline AdminStmt AdminStmt.Res Unit Exn AdminStore AdminEnv UUID AdminCall
    Stage String where
  machine := adminMachine
  rules := timely
  base := Sound
  own d _ g := g.Holds d
  token := Stage.token

variable {d d' : AdminStore} {g g' : Stage} {l : Local AdminStmt Unit AdminEnv} {id : UUID}
  {token_hash : String} {ks : List UUID}

/-- No token is lost or becomes unused. -/
def Kept (d d' : AdminStore) : Prop := ∀ t ∈ d.pre_auth_tokens, ∃ t' ∈ d'.pre_auth_tokens,
  t'.id = t.id ∧ t'.token_hash = t.token_hash ∧ (t.used_at ≠ none → t'.used_at ≠ none)

theorem Kept.of_tokens (h : d'.pre_auth_tokens = d.pre_auth_tokens) : Kept d d' := by
  intro t ht
  exact ⟨t, h ▸ ht, rfl, rfl, fun hused => hused⟩

theorem Stage.Holds.kept (h : g.Holds d) (hk : Kept d d') : g.Holds d' := by
  cases g with
  | idle => trivial
  | read id token_hash =>
      obtain ⟨t, ht, hid, hhash⟩ := h
      obtain ⟨t', ht', hid', hhash', -⟩ := hk t ht
      exact ⟨t', ht', hid'.trans hid, hhash'.trans hhash⟩
  | used token_hash =>
      obtain ⟨t, ht, hhash, hused⟩ := h
      obtain ⟨t', ht', -, hhash', hkeep⟩ := hk t ht
      exact ⟨t', ht', hhash'.trans hhash, hkeep hused⟩

/-- A step that uses no token up. -/
theorem moves_kept (hb : Sound d') (hk : Kept d d') (ho : g'.Holds d')
    (ht : g'.token = none ∨ g' = g) : secondFactor.Moves ks d d' l g l g' where
  base := hb
  own := ho
  stable _ _ h _ := h.kept hk
  token t h := by
    rcases ht with ht | rfl
    · have h : g'.token = some t := h
      rw [ht] at h
      cases h
    · exact .inl h
  shared _ _ := trivial
  guar := trivial

theorem Sound.congr (hb : Sound d) (htokens : d'.pre_auth_tokens = d.pre_auth_tokens)
    (hcompared : d'.compared = d.compared) : Sound d' where
  ids := htokens ▸ hb.ids
  hashes := htokens ▸ hb.hashes
  current := hcompared ▸ hb.current
  wrongs token_hash := by
    rw [AdminStore.wrongs, hcompared]
    exact hb.wrongs token_hash

section Use

variable {now : Timestamptz}

theorem kept_use : Kept d (d.use id now) := by
  intro t ht
  refine ⟨_, List.mem_map_of_mem ht, ?_⟩
  split
  · exact ⟨rfl, rfl, fun _ h => by cases h⟩
  · exact ⟨rfl, rfl, fun h => h⟩

/-- Using a token changes no other column. -/
theorem map_use {α : Type} (f : PreAuthToken → α)
    (hf : ∀ t, f { t with used_at := some now } = f t) :
    (d.use id now).pre_auth_tokens.map f = d.pre_auth_tokens.map f := by
  rw [AdminStore.use, updateRows, List.map_map]
  apply List.map_congr_left
  intro t _
  dsimp only [Function.comp]
  split
  · exact hf t
  · rfl

theorem sound_use (hb : Sound d) : Sound (d.use id now) where
  ids := by
    rw [map_use _ fun _ => rfl]
    exact hb.ids
  hashes := by
    rw [map_use _ fun _ => rfl]
    exact hb.hashes
  current := hb.current
  wrongs := hb.wrongs

/-- A right code uses its token up, which nobody has used before. -/
theorem moves_use (hb : Sound d) (ho : (Stage.read id token_hash).Holds d)
    (hunused : ∀ t ∈ d.pre_auth_tokens, t.id = id → t.used_at = none) :
    secondFactor.Moves ks d (d.use id now) l (.read id token_hash) l (.used token_hash) := by
  obtain ⟨t, ht, hid, hhash⟩ := ho
  refine ⟨sound_use hb, ?_, fun _ _ h _ => Stage.Holds.kept h kept_use, fun x hx => .inr ?_,
    fun _ _ => trivial, trivial⟩
  · refine ⟨_, List.mem_map_of_mem ht, ?_⟩
    rw [if_pos (beq_iff_eq.mpr hid)]
    exact ⟨hhash, fun h => by cases h⟩
  · -- Another call that has used the token up would have left it used.
    cases hx
    intro _ g₂ ho₂ _ ht₂
    cases g₂ with
    | used token_hash₂ =>
        cases ht₂
        obtain ⟨t₂, ht₂, hhash₂, hused⟩ := ho₂
        obtain rfl := List.inj_on_of_nodup_map hb.hashes ht₂ ht (hhash₂.trans hhash.symm)
        exact hused (hunused t₂ ht hid)
    | idle => cases ht₂
    | read => cases ht₂

end Use

/-- A code is compared in time. -/
theorem sound_compare {row : PreAuthRow} {attempts : ℕ} {v : AdminEnv} (hb : Sound d)
    (hread : AsRead d row token_hash attempts v.now) (hunused : row.used_at = none)
    (hfew : attempts < 3) :
    Sound { d with compared := d.compared ++ [{
      token_hash, accepted := v.accepted, current := d.current row.id token_hash v.now }] } where
  ids := hb.ids
  hashes := hb.hashes
  current c hc := by
    rcases List.mem_append.mp hc with hc | hc
    · exact hb.current c hc
    · obtain ⟨⟨t, ht, hid, hused, hnow⟩, hwrongs⟩ := hread
      rw [List.mem_singleton.mp hc]
      simp only [AdminStore.current, Bool.and_eq_true, decide_eq_true_eq, List.any_eq_true]
      exact ⟨⟨t, ht, ⟨beq_iff_eq.mpr hid, by rw [hused, hunused]; rfl⟩, hnow⟩, by omega⟩
  wrongs hash := by
    have hwrongs : d.wrongs token_hash ≤ attempts := hread.2
    have hle := hb.wrongs hash
    rw [AdminStore.wrongs] at hle ⊢
    rw [List.countP_append, List.countP_singleton]
    split
    · next hnew =>
        have heq : token_hash = hash := by
          simp only [Bool.and_eq_true, beq_iff_eq] at hnew
          exact hnew.1
        rw [← heq]
        rw [AdminStore.wrongs] at hwrongs
        omega
    · omega

section Calls

/-- The statement writes neither the tokens nor the compared codes. -/
def Quiet : AdminStmt → Prop
  | .insert_pre_auth_token .. => False
  | .lock_token _ => False
  | .consume_token _ => False
  | .verify_totp_code .. => False
  | _ => True

theorem Quiet.same {s : AdminStmt} {v : AdminEnv} {a : s.Res} (hs : Quiet s)
    (he : s.eval v d = .ok (a, d')) :
    d'.pre_auth_tokens = d.pre_auth_tokens ∧ d'.compared = d.compared := by
  cases s with
  | insert_pre_auth_token super_admin_id token_hash => cases hs
  | lock_token id => cases hs
  | consume_token id => cases hs
  | verify_totp_code row token_hash attempts secret code => cases hs
  | redis_incr key =>
      simp only [AdminStmt.eval] at he
      split at he
      · cases he
        exact ⟨rfl, rfl⟩
      · cases he
        exact ⟨rfl, rfl⟩
  | _ =>
      cases he
      exact ⟨rfl, rfl⟩

theorem does_run {s : AdminStmt} (hs : Quiet s) :
    secondFactor.Does (fun _ g' => g' = g) (run s) g := by
  refine Discipline.does_exec adminMachine_restores (fun d e hb ho => ?_)
    fun d v a d' hb ho _ hx => ?_
  · exact ⟨g, moves_kept hb (.of_tokens rfl) ho (.inr rfl), rfl⟩
  · obtain ⟨htokens, hcompared⟩ := hs.same (AdminStmt.exec_eq_ok.mp hx)
    have hk : Kept d d' := .of_tokens htokens
    exact ⟨g, moves_kept (hb.congr htokens hcompared) hk (Stage.Holds.kept ho hk) (.inr rfl), rfl⟩

/-- A quiet statement leaves the stage to what follows it. -/
theorem does_quiet {α : Type} {Q : Except Exn α → Stage → Prop} {s : AdminStmt}
    {f : s.Res → AdminM α} (hs : Quiet s) (herror : ∀ e, Q (.error e) g)
    (hf : ∀ a, secondFactor.Does Q (f a) g) : secondFactor.Does Q (run s >>= f) g := by
  refine Discipline.Does.bind (does_run hs) (fun _ _ hg => ?_) fun a _ hg => ?_
  · rw [hg]
    exact herror _
  · rw [hg]
    exact hf a

theorem does_lock (row : PreAuthRow) (reason : String) :
    secondFactor.Does (fun r _ => r.isOk = false) (lock row reason) g := by
  refine Discipline.Does.bind (B := fun _ _ => True) ?_ (fun _ _ _ => rfl) fun _ g _ => ?_
  · refine Discipline.does_exec adminMachine_restores (fun d e hb ho => ?_)
      fun d v a d' hb ho _ hx => ?_
    · exact ⟨g, moves_kept hb (.of_tokens rfl) ho (.inr rfl), trivial⟩
    · cases AdminStmt.exec_eq_ok.mp hx
      have hk : Kept d (d.use row.id v.now) := kept_use
      exact ⟨g, moves_kept (sound_use hb) hk (Stage.Holds.kept ho hk) (.inr rfl), trivial⟩
  · exact does_quiet trivial (fun _ => rfl) fun _ => Discipline.does_ret rfl

/-- A validated token is in the table, and it was unused. -/
theorem does_validate (raw_token : String) :
    secondFactor.Does (fun r g => ∀ row, r = .ok row →
      g = .read row.id (sha256 raw_token) ∧ row.used_at = none)
      (validate_pre_auth_token raw_token false) .idle := by
  refine Discipline.Does.bind (B := fun r g => ∀ row, r = .ok (some row) →
    g = .read row.id (sha256 raw_token)) ?_ (fun _ _ _ _ h => by cases h) fun found g hg => ?_
  · refine Discipline.does_exec adminMachine_restores (fun d e hb ho => ?_)
      fun d v found d' hb ho _ hx => ?_
    · exact ⟨.idle, moves_kept hb (.of_tokens rfl) ho (.inl rfl), fun _ h => by cases h⟩
    · have he := AdminStmt.exec_eq_ok.mp hx
      have hd' : d' = d := (congrArg Prod.snd (Except.ok.inj he)).symm
      subst hd'
      cases found with
      | none => exact ⟨.idle, moves_kept hb (.of_tokens rfl) ho (.inl rfl), fun _ h => by cases h⟩
      | some row =>
          obtain ⟨hread, -⟩ := AdminStmt.eval_select_pre_auth_token he
          refine ⟨.read row.id _, moves_kept hb (.of_tokens rfl) hread (.inl rfl), ?_⟩
          rintro _ ⟨⟩
          rfl
  · cases found with
    | none => exact Discipline.does_ret fun _ h => by cases h
    | some row =>
        obtain rfl := hg row rfl
        dsimp only
        split
        · exact Discipline.does_ret fun _ h => by cases h
        · next hunused =>
            refine does_quiet trivial (fun _ _ h => by cases h) fun now => ?_
            split
            · exact Discipline.does_ret fun _ h => by cases h
            split
            · exact Discipline.does_ret fun _ h => by cases h
            · refine Discipline.does_ret fun row' h => ?_
              cases h
              exact ⟨rfl, by simpa using hunused⟩

theorem does_reject (row : PreAuthRow) (redis_key : String) :
    secondFactor.Does (fun r _ => r.isOk = false) (reject row redis_key) g := by
  refine does_quiet trivial (fun _ => rfl) fun new_attempts => ?_
  refine Discipline.Does.bind (B := fun _ _ => True) ?_ (fun _ _ _ => rfl) fun _ g _ => ?_
  · unfold expire_first
    split
    · exact (does_run (s := .redis_expire redis_key 300) trivial).mono fun _ _ _ => trivial
    · exact Discipline.does_ret trivial
  split
  · exact does_lock row _
  · exact does_quiet trivial (fun _ => rfl) fun _ => Discipline.does_ret rfl

theorem does_accept (row : PreAuthRow) (redis_key totp_secret : String) :
    secondFactor.Does (fun r g => r.isOk = true → g = .used token_hash)
      (accept row redis_key totp_secret) (.read row.id token_hash) := by
  refine Discipline.Does.bind (B := fun r g => r.isOk = true → g = .used token_hash) ?_
    (fun _ _ _ h => by cases h) fun _ g hg => ?_
  · refine Discipline.does_exec adminMachine_restores (fun d e hb ho => ?_)
      fun d v a d' hb ho hr hx => ?_
    · exact ⟨.idle, moves_kept hb (.of_tokens rfl) trivial (.inl rfl), fun h => by cases h⟩
    · cases AdminStmt.exec_eq_ok.mp hx
      exact ⟨.used token_hash, moves_use hb ho hr, fun _ => rfl⟩
  obtain rfl := hg rfl
  -- What follows leaves the token as it is.
  refine does_quiet trivial (fun _ h => by cases h) fun _ =>
    does_quiet trivial (fun _ h => by cases h) fun now => ?_
  refine Discipline.Does.bind (B := fun _ g => g = .used token_hash) ?_ (fun _ _ _ h => by cases h)
    fun _ g hg => ?_
  · unfold record_login
    split
    · exact does_run (s := .set_totp_verified row.super_admin_id now totp_secret) trivial
    · exact does_run (s := .set_last_login row.super_admin_id now) trivial
  rw [hg]
  exact does_quiet trivial (fun _ h => by cases h) fun _ =>
    does_quiet trivial (fun _ h => by cases h) fun _ => Discipline.does_ret fun _ => rfl

theorem does_compare {row : PreAuthRow} {attempts : ℕ} (redis_key totp_code : String)
    (hunused : row.used_at = none) (hfew : attempts < 3) :
    secondFactor.Does (fun r g => r.isOk = true → g = .used token_hash)
      (compare_code row token_hash redis_key attempts totp_code) (.read row.id token_hash) := by
  unfold compare_code
  split
  · exact Discipline.does_ret fun h => by cases h
  · next totp_secret _ =>
      refine Discipline.Does.bind (B := fun r g => g = .read row.id token_hash) ?_
        (fun _ _ _ h => by cases h) fun raw_secret g hg => ?_
      · exact Discipline.Does.tryCatch (does_run trivial) (fun _ _ hg => hg)
          fun _ _ hg => Discipline.does_ret hg
      obtain rfl := hg
      refine Discipline.Does.bind (B := fun r g => g = .read row.id token_hash) ?_
        (fun _ _ _ h => by cases h) fun accepted g hg => ?_
      · refine Discipline.does_exec adminMachine_restores (fun d e hb ho => ?_)
          fun d v a d' hb ho hr hx => ?_
        · exact ⟨.read row.id token_hash, moves_kept hb (.of_tokens rfl) ho (.inr rfl), rfl⟩
        · cases AdminStmt.exec_eq_ok.mp hx
          exact ⟨.read row.id token_hash, moves_kept (sound_compare hb hr hunused hfew)
            (.of_tokens rfl) ho (.inr rfl), rfl⟩
      obtain rfl := hg
      split
      · exact does_accept row redis_key totp_secret
      · refine (does_reject row redis_key).mono fun r _ hr h => ?_
        rw [hr] at h
        cases h

theorem does_verify (pre_auth_token totp_code : String) :
    secondFactor.Does (fun r g => r.isOk = true → g = .used (sha256 pre_auth_token))
      (verify_totp pre_auth_token totp_code) .idle := by
  refine Discipline.Does.bind (does_validate pre_auth_token) (fun _ _ _ h => by cases h)
    fun row g hg => ?_
  obtain ⟨rfl, hunused⟩ := hg row rfl
  refine does_quiet trivial (fun _ h => by cases h) fun attempts => ?_
  split
  · refine (does_lock row _).mono fun r _ hr h => ?_
    rw [hr] at h
    cases h
  · next hfew => exact does_compare _ totp_code hunused (not_le.mp hfew)

theorem does_setup (pre_auth_token : String) :
    secondFactor.Does (fun _ _ => True) (setup_totp pre_auth_token) .idle := by
  refine Discipline.Does.bind (does_validate pre_auth_token) (fun _ _ _ => trivial)
    fun row g _ => ?_
  split
  · exact Discipline.does_ret trivial
  · exact does_quiet trivial (fun _ => trivial) fun _ =>
      does_quiet trivial (fun _ => trivial) fun _ => does_quiet trivial (fun _ => trivial) fun _ =>
        does_quiet trivial (fun _ => trivial) fun _ => Discipline.does_ret trivial

theorem does_login (email password : String) :
    secondFactor.Does (fun _ _ => True) (authenticate_password email password) .idle := by
  refine does_quiet trivial (fun _ => trivial) fun row =>
    does_quiet trivial (fun _ => trivial) fun password_ok => ?_
  cases row with
  | none => exact Discipline.does_ret trivial
  | some row =>
      dsimp only
      split
      · exact Discipline.does_ret trivial
      split
      · exact Discipline.does_ret trivial
      refine does_quiet trivial (fun _ => trivial) fun raw_token => ?_
      refine Discipline.Does.bind (B := fun _ _ => True) ?_ (fun _ _ _ => trivial) fun _ g _ =>
        does_quiet trivial (fun _ => trivial) fun _ => Discipline.does_ret trivial
      refine Discipline.does_exec adminMachine_restores (fun d e hb ho => ?_)
        fun d v a d' hb ho hr hx => ?_
      · exact ⟨.idle, moves_kept hb (.of_tokens rfl) trivial (.inl rfl), trivial⟩
      · obtain ⟨t, rfl, hid, hhash⟩ :=
          AdminStmt.eval_insert_pre_auth_token (AdminStmt.exec_eq_ok.mp hx)
        refine ⟨.idle, moves_kept ?_ ?_ trivial (.inl rfl), trivial⟩
        · exact
            { ids := nodup_map_concat _ hb.ids hid
              hashes := nodup_map_concat _ hb.hashes hhash
              current := hb.current
              wrongs := hb.wrongs }
        · intro t ht
          exact ⟨t, List.mem_append_left _ ht, rfl, rfl, fun h => h⟩

end Calls

/-- What the stage of a finished call says about its answer. -/
def Answered (r : Except Exn AdminAnswer) (_ : Local AdminStmt Unit AdminEnv) (g : Stage) : Prop :=
  ∀ pre_auth_token response, r = .ok (.issued pre_auth_token response) →
    g = .used (sha256 pre_auth_token)

theorem wp_call (w : AdminCall) : secondFactor.protocol.wp Answered w.program {} .idle := by
  have hdoes : secondFactor.Does (fun r g => Answered r {} g) w.program .idle := by
    cases w with
    | login email password =>
        exact Discipline.Does.bind (does_login email password) (fun _ _ _ _ _ h => by cases h)
          fun _ _ _ => Discipline.does_ret fun _ _ h => by cases h
    | setup pre_auth_token =>
        exact Discipline.Does.bind (does_setup pre_auth_token) (fun _ _ _ _ _ h => by cases h)
          fun _ _ _ => Discipline.does_ret fun _ _ h => by cases h
    | verify pre_auth_token totp_code =>
        refine Discipline.Does.bind (does_verify pre_auth_token totp_code) (fun _ _ _ _ _ h => by cases h)
          fun _ g hg => Discipline.does_ret fun _ _ h => ?_
        cases h
        exact hg rfl
  exact Protocol.wp_mono hdoes fun _ _ _ h => h.2

/-- The keys of the table; no code has been compared. -/
structure Initial (d : AdminStore) : Prop where
  ids : (d.pre_auth_tokens.map (·.id)).Nodup
  hashes : (d.pre_auth_tokens.map (·.token_hash)).Nodup
  compared : d.compared = []

/-- No call runs yet. -/
def idle (d : AdminStore) : AdminState := { store := d }

theorem valid_idle (hd : Initial d) : Valid secondFactor.protocol Answered (idle d) := by
  have hsound : Sound d := by
    refine ⟨hd.ids, hd.hashes, fun c hc => ?_, fun token_hash => ?_⟩
    · rw [hd.compared] at hc
      cases hc
    · simp [AdminStore.wrongs, hd.compared]
  exact Valid.start (.empty hsound trivial)

theorem valid_reaches {s s' : AdminState} (h : Valid secondFactor.protocol Answered s)
    (hs : Reaches adminSystem timely s s') : Valid secondFactor.protocol Answered s' := by
  refine (h.reaches (Y := adminSystem) rfl ?_ ?_ hs).1
  · intro w d d' p ls hi _ hstart
    cases hstart
    exact ⟨.idle, hi.joins trivial rfl fun _ => trivial, wp_call w⟩
  · rintro d d' ls hi ⟨htokens, hcompared⟩
    refine ⟨⟨hi.base.congr htokens hcompared, fun x hx => ?_, hi.apart, trivial⟩, trivial⟩
    exact Stage.Holds.kept (hi.own x hx) (.of_tokens htokens)

/-- The access token that a call has issued. -/
def issuedBy (p : Proc AdminStmt AdminStmt.Res Unit Exn AdminEnv AdminAnswer) : Option String :=
  match p.prog with
  | .ret (.ok (.issued pre_auth_token _)) => some pre_auth_token
  | _ => none

/-- The call that was started as number `i` has issued an access token for the pre-auth token. -/
def Issued (s : AdminState) (i : ℕ) (pre_auth_token : String) : Prop :=
  s.procs[i]?.bind issuedBy = some pre_auth_token

theorem Issued.ended {s : AdminState} {i : ℕ} {pre_auth_token : String}
    (h : Issued s i pre_auth_token) : ∃ p r, s.procs[i]? = some p ∧ p.prog = .ret r ∧
      ∀ l g, Answered r l g → secondFactor.token g = some (sha256 pre_auth_token) := by
  obtain ⟨p, hp, hissued⟩ := Option.bind_eq_some_iff.mp h
  unfold issuedBy at hissued
  split at hissued
  · next token response hprog =>
      cases hissued
      refine ⟨p, _, hp, hprog, fun l g hg => ?_⟩
      rw [hg pre_auth_token response rfl]
      rfl
  · cases hissued

/-- At most one access token for each pre-auth token, at most three wrong codes under it, and no
code after it has been used, has expired or has been locked, in every timely run. -/
theorem second_factor (hd : Initial d) {s : AdminState}
    (hs : Reaches adminSystem timely (idle d) s) :
    (∀ pre_auth_token i j, Issued s i pre_auth_token → Issued s j pre_auth_token → i = j) ∧
      (∀ token_hash, s.store.wrongs token_hash ≤ 3) ∧
      ∀ c ∈ s.store.compared, c.current = true := by
  have hvalid := valid_reaches (valid_idle hd) hs
  refine ⟨fun token i j hi hj => Discipline.ended_once hvalid hi.ended hj.ended, ?_⟩
  obtain ⟨ann, -, hinv, -⟩ := hvalid
  exact ⟨hinv.base.wrongs, hinv.base.current⟩

/-- Any interleaving. The rest of the system leaves the tokens alone. -/
def untimely : AdminRules where
  edit d d' := d'.pre_auth_tokens = d.pre_auth_tokens ∧ d'.compared = d.compared

section Decidable

variable (s : AdminStmt) (c : Choice Exn AdminEnv) (w : AdminCall) (d d' : AdminStore)

instance {row : PreAuthRow} {attempts : ℕ} {now : Timestamptz} :
    Decidable (AsRead d row token_hash attempts now) := inferInstanceAs (Decidable (_ ∧ _))

instance : Decidable (timely.stmt s c d) := by
  rcases s with ⟨⟩ <;> rcases c with e | v <;> try exact .isTrue trivial
  · rename_i id
    exact inferInstanceAs (Decidable (∀ t ∈ d.pre_auth_tokens, t.id = id → t.used_at = none))
  · exact inferInstanceAs (Decidable (AsRead d _ _ _ v.now))

instance : Decidable (timely.spawn w d) := .isTrue trivial

instance : Decidable (timely.edit d d') := inferInstanceAs (Decidable (_ ∧ _))

instance : Decidable (untimely.stmt s c d) := .isTrue trivial

instance : Decidable (untimely.spawn w d) := .isTrue trivial

instance : Decidable (untimely.edit d d') := inferInstanceAs (Decidable (_ ∧ _))

end Decidable

/-- An admin who has entered the password. -/
def loggedIn : AdminStore where
  super_admins := [{ id := 1, email := "fred@example.com", hashed_password := "", full_name := "Fred"
                     totp_secret := some "ciphertext", totp_verified_at := some 0 }]
  pre_auth_tokens := [{ id := 2, super_admin_id := 1, token_hash := sha256 "pre-auth"
                        expires_at := 5 * minute }]

theorem initial_loggedIn : Initial loggedIn where
  ids := by decide
  hashes := List.nodup_singleton _
  compared := rfl

theorem issued_iff {s : AdminState} {i : ℕ} {pre_auth_token : String} :
    Issued s i pre_auth_token ↔ (s.procs.map issuedBy)[i]? = some (some pre_auth_token) := by
  rw [Issued, List.getElem?_map, Option.bind_eq_some_iff, Option.map_eq_some_iff]

/-- `n` steps of call `i`, in which a code is right if `accepted`. -/
def answers (n i : ℕ) (accepted : Bool) : List AdminLabel :=
  List.replicate n (.step i (.run { accepted }))

/-- A wrong code and then a right one. -/
theorem second_factor_after_wrong_code : ∃ s : AdminState, Issued s 1 "pre-auth" ∧
    ∀ i, Issued s i "pre-auth" → i = 1 := by
  obtain ⟨s, hs, hv⟩ := Reaches.of_moves_state (Y := adminSystem) (ρ := timely) (idle loggedIn)
    (.spawn (.verify "pre-auth" "000000") :: answers 8 0 false ++
      .spawn (.verify "pre-auth" "123456") :: answers 11 1 true)
    (fun s => s.procs.map issuedBy) [none, some "pre-auth"] (by decide +kernel) (by decide +kernel)
  have hissued : Issued s 1 "pre-auth" := issued_iff.mpr (by rw [hv]; rfl)
  exact ⟨s, hissued, fun i hi => (second_factor initial_loggedIn hs).1 "pre-auth" i 1 hi hissued⟩

/-- Two calls read the token before either of them marks it used. -/
theorem not_second_factor : ¬ ∀ (d : AdminStore) (s : AdminState), Initial d →
    Reaches adminSystem untimely (idle d) s →
    (∀ pre_auth_token i j, Issued s i pre_auth_token → Issued s j pre_auth_token → i = j) ∧
      (∀ token_hash, s.store.wrongs token_hash ≤ 3) ∧
      ∀ c ∈ s.store.compared, c.current = true := by
  intro h
  obtain ⟨s, hs, hv⟩ := Reaches.of_moves_state (Y := adminSystem) (ρ := untimely) (idle loggedIn)
    (.spawn (.verify "pre-auth" "123456") :: .spawn (.verify "pre-auth" "123456") ::
      answers 5 0 true ++ answers 5 1 true ++ answers 6 0 true ++ answers 6 1 true)
    (fun s => s.procs.map issuedBy) [some "pre-auth", some "pre-auth"] (by decide +kernel)
    (by decide +kernel)
  have htwice := (h loggedIn s initial_loggedIn hs).1 "pre-auth" 0 1
    (issued_iff.mpr (by rw [hv]; rfl)) (issued_iff.mpr (by rw [hv]; rfl))
  cases htwice

end SecondFactor

end FrixelConnect
