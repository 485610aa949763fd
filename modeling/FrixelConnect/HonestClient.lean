import FrixelConnect.Specs.Custody

/-!
# Honest clients and reuse detection

In every run in which no refresh starts with a token whose earlier refresh has not ended, the
server never meets a revoked token, and no family of tokens is closed.
-/

namespace FrixelConnect

namespace HonestClient

open Python Interleaving

variable {tenantOf : UUID → UUID} {d d' : SessionStore} {g g' : Stage} {p₀ : Place}
  {tenantId : UUID}

/-- Every run of the program keeps the discipline and ends with `Q`. -/
def Does {α : Type} (tenantOf : UUID → UUID) (Q : Except Exn α → Stage → Prop) (p : SessionM α)
    (g : Stage) : Prop :=
  (discipline tenantOf).protocol.wp (fun r l g => l = {} ∧ Q r g) p {} g

section Calls

variable {α β : Type}

theorem does_then {Q : Except Exn β → Stage → Prop} {B : Except Exn α → Stage → Prop}
    {p : SessionM α} {f : α → SessionM β} (h : Does tenantOf B p g)
    (herr : ∀ e g, B (.error e) g → Q (.error e) g)
    (hok : ∀ a g, B (.ok a) g → Does tenantOf Q (f a) g) : Does tenantOf Q (p >>= f) g :=
  Discipline.Does.bind h herr hok

/-- Sequencing of programs of the server. -/
theorem does_onServer {Q : Except Exn β → Stage → Prop} {B : Except Exn α → Stage → Prop}
    {p : TokenM α} {f : α → TokenM β} (h : Does tenantOf B (onServer p) g)
    (herr : ∀ e g, B (.error e) g → Q (.error e) g)
    (hok : ∀ a g, B (.ok a) g → Does tenantOf Q (onServer (f a)) g) :
    Does tenantOf Q (onServer (p >>= f)) g := by
  rw [onServer, Prog.embed_bind]
  exact does_then h herr hok

theorem does_act {s : SessionStmt} {Q : Except Exn s.Res → Stage → Prop}
    (hfail : ∀ e, Q (.error e) g)
    (hok : ∀ d v a d', Sound tenantOf d → g.Holds d → (rules tenantOf).stmt s (.run v) d →
      s.eval v d = .ok (a, d') → ∃ g' p₀, Effect tenantOf p₀ d d' g g' ∧ Q (.ok a) g') :
    Does tenantOf Q (act s) g := by
  refine Discipline.wp_exec sessionMachine_restores (.inr rfl)
    (fun d e hb ho _ => ⟨g, .stay hb ho, rfl, hfail e⟩) ?_
  intro d v a d' hb ho hrule he
  obtain ⟨g', p₀, heffect, hQ⟩ := hok d v a d' hb ho hrule (SessionStmt.exec_eq_ok.mp he)
  exact ⟨g', heffect.moves hb ho, rfl, hQ⟩

/-- A statement that brings no token to any place. -/
theorem does_quiet {s : SessionStmt} (hs : ∀ v d a d', s.eval v d = .ok (a, d') →
    Drops d d' ∧ d'.server = d.server) : Does tenantOf (fun _ g' => g' = g) (act s) g := by
  refine does_act (fun _ => rfl) fun d v a d' hb ho _ he => ?_
  obtain ⟨hdrops, hserver⟩ := hs v d a d' he
  exact ⟨g, .response 0, hdrops.stays (hserver ▸ hb.server) hb ho ho.persistent
    (ho.persistent d d' hdrops.later ho.knows), rfl⟩

/-- A statement of the server that changes no token. -/
theorem does_server {s : TokenStmt} (hs : ∀ v d a d', s.eval v d = .ok (a, d') →
    d'.users = d.users ∧ d'.refresh_tokens = d.refresh_tokens ∧ d'.reused = d.reused ∧
      d'.detected = d.detected) :
    Does tenantOf (fun _ g' => g' = g) (act (.server s)) g := by
  refine does_act (fun _ => rfl) fun d v a d' hb ho _ he => ?_
  obtain ⟨x, hx, rfl⟩ := SessionStmt.eval_server he
  obtain ⟨husers, hrows, hreused, hdetected⟩ := hs v d.server a x hx
  have hdrops : Drops d { d with server := x } :=
    { Drops.refl d with rows := hrows }
  have hserver : ServerSound tenantOf x :=
    { users := husers ▸ hb.server.users
      ids := hrows ▸ hb.server.ids
      hashes := hrows ▸ hb.server.hashes
      reused := hreused.trans hb.server.reused
      detected := hdetected.trans hb.server.detected }
  exact ⟨g, .response 0, hdrops.stays hserver hb ho ho.persistent
    (ho.persistent d _ hdrops.later ho.knows), rfl⟩

/-- A server process that has accepted a request. -/
def presenting (n : ℕ) (x : String) : Stage where
  right := some (sha256 x)
  knows d := d.requests[n]? = some x

/-- The row of the token that a server process presents. -/
def FoundRow (x : String) (rt : RefreshToken) (d : SessionStore) : Prop :=
  ∃ r ∈ d.server.refresh_tokens, r.id = rt.id ∧ r.token_hash = sha256 x ∧ r.user_id = rt.user_id

theorem persistent_found {x : String} {rt : RefreshToken} : Persistent (FoundRow x rt) := by
  rintro d d' hl ⟨r, hr, hid, hhash, huser⟩
  obtain ⟨r', hr', hid', hhash', huser'⟩ := hl.rows r hr
  exact ⟨r', hr', hid'.trans hid, hhash'.trans hhash, huser'.trans huser⟩

/-- What a server process knows about a request and the row of its token. -/
def Reads (n : ℕ) (x : String) (rt : RefreshToken) (d : SessionStore) : Prop :=
  d.requests[n]? = some x ∧ FoundRow x rt d

/-- A process that holds a new token for a user of the tenant. -/
def issued (P : SessionStore → Prop) (token : String) : Stage where
  right := some (sha256 token)
  fresh := true
  knows := P

/-- The look-up of a token that was never revoked. -/
theorem does_select (n : ℕ) (x : String) :
    Does tenantOf (fun r g => ∀ rt u t, r = .ok (some (rt, u, t)) → rt.revoked = false ∧
        u.tenant_id = tenantOf rt.user_id ∧ g = { presenting n x with knows := Reads n x rt })
      (act (.server (.select_refresh_token (sha256 x)))) (presenting n x) := by
  refine does_act (fun _ _ _ _ h => by cases h) fun d v found d' hb ho _ he => ?_
  obtain ⟨s, hs, rfl⟩ := SessionStmt.eval_server he
  have hfound : ∀ rt u t, found = some (rt, u, t) → rt.revoked = false ∧
      u.tenant_id = tenantOf rt.user_id ∧ FoundRow x rt d := by
    rintro rt u t rfl
    obtain ⟨⟨hmem, hhash⟩, hu, huser⟩ := TokenStmt.eval_select_refresh_token hs
    obtain ⟨r, hr, hhash', hlive⟩ := ho.live _ rfl
    obtain rfl := List.inj_on_of_nodup_map hb.server.hashes hmem hr (hhash.trans hhash'.symm)
    exact ⟨hlive, huser ▸ hb.server.users u hu, rt, hmem, rfl, hhash, rfl⟩
  have hstore : s = d.server := by
    rw [TokenStmt.eval_select_store hs]
    cases hsome : found with
    | none => rfl
    | some row =>
        obtain ⟨rt, u, t⟩ := row
        simp [(hfound rt u t hsome).1]
  subst hstore
  have hdrops := Drops.refl d
  cases hsome : found with
  | none =>
      refine ⟨presenting n x, .response 0, hdrops.stays hb.server hb ho ho.persistent ho.knows, ?_⟩
      exact fun _ _ _ h => by cases h
  | some row =>
      obtain ⟨rt, u, t⟩ := row
      obtain ⟨hlive, htenant, hrow⟩ := hfound rt u t hsome
      refine ⟨{ presenting n x with knows := Reads n x rt }, .response 0,
        hdrops.stays hb.server hb ho (persistent_sent.and persistent_found) ⟨ho.knows, hrow⟩, ?_⟩
      rintro _ _ _ ⟨⟩
      exact ⟨hlive, htenant, rfl⟩

/-- A token is entered for a user of a tenant. -/
theorem does_insert {user_id family_id : UUID} {token : String} {expires_at : Calendar.Timestamptz}
    {P : SessionStore → Prop} (hP : Persistent P)
    (hd : ∀ d, Sound tenantOf d → g.Holds d → P d) :
    Does tenantOf (fun r g => r.isOk = true →
        g = issued (fun d => P d ∧ Owned tenantOf d token (tenantOf user_id)) token)
      (act (.server (.insert_refresh_token user_id (sha256 token) family_id expires_at))) g := by
  refine does_act (fun _ h => by cases h) fun d v a d' hb ho _ he => ?_
  obtain ⟨s, hs, rfl⟩ := SessionStmt.eval_server he
  obtain ⟨row, rfl, hhash, -, hlive, hid, hnew, huser⟩ := TokenStmt.eval_insert_refresh_token hs
  have hmem : row ∈ d.server.refresh_tokens ++ [row] :=
    List.mem_append_right _ (List.mem_singleton_self _)
  refine ⟨_, .response 0, effect_insert hhash hlive hid hnew hb (hP.and persistent_owned)
    ⟨?_, row, hmem, hhash, congrArg tenantOf huser⟩, fun _ => rfl⟩
  refine hP d _ ?_ (hd d hb ho)
  exact
    { rows := fun r hr => ⟨r, List.mem_append_left _ hr, rfl, rfl, rfl⟩
      taken := List.Subset.refl _
      requests := fun _ _ h => h
      stored := fun _ _ h _ => h }

/-- The request was sent with a token of a user of the tenant. -/
def Rotated (tenantOf : UUID → UUID) (n : ℕ) (user : UserDict) (d : SessionStore) : Prop :=
  ∃ x, d.requests[n]? = some x ∧ Owned tenantOf d x user.tenant_id

theorem persistent_rotated {n : ℕ} {user : UserDict} : Persistent (Rotated tenantOf n user) :=
  fun d d' hl ⟨x, hx, howned⟩ => ⟨x, hl.requests n x hx, persistent_owned d d' hl howned⟩

/-- The part of a rotation that issues the next token. -/
theorem does_issue_next {n : ℕ} {x : String} {rt : RefreshToken} {u : User}
    (htenant : u.tenant_id = tenantOf rt.user_id) :
    Does tenantOf (fun r g => ∀ user token, r = .ok (user, token) → g = issued (fun d =>
        Rotated tenantOf n user d ∧ Owned tenantOf d token user.tenant_id) token)
      (onServer (issue_next rt u)) { presenting n x with knows := Reads n x rt } := by
  have hpersistent : Persistent (Reads n x rt) := persistent_sent.and persistent_found
  refine does_onServer (B := fun r g => r.isOk = true → g = { knows := Reads n x rt })
    (does_act (fun _ h => by cases h) fun d v a d' hb ho _ he => ?_) (fun _ _ _ _ _ h => by cases h)
    ?_
  · obtain ⟨s, hs, rfl⟩ := SessionStmt.eval_server he
    cases hs
    obtain ⟨hsent, r, hr, hid, hhash, huser⟩ := ho.knows
    refine ⟨{ knows := Reads n x rt }, .response 0,
      effect_revoke rfl ⟨r, hr, hid, hhash⟩ hb ho hpersistent ⟨hsent, ?_⟩, fun _ => rfl⟩
    refine ⟨_, List.mem_map_of_mem hr, ?_⟩
    split <;> exact ⟨hid, hhash, huser⟩
  rintro _ g hg
  obtain rfl := hg rfl
  refine does_onServer (does_server fun _ _ _ _ he => by cases he; exact ⟨rfl, rfl, rfl, rfl⟩)
    (fun _ _ _ _ _ h => by cases h) ?_
  rintro new_token g rfl
  refine does_onServer (does_server fun _ _ _ _ he => by cases he; exact ⟨rfl, rfl, rfl, rfl⟩)
    (fun _ _ _ _ _ h => by cases h) ?_
  rintro now g rfl
  refine does_onServer (does_insert (P := Rotated tenantOf n {
      id := rt.user_id, email := u.email, phone := u.phone, role := u.role
      reseller_id := u.reseller_id, tenant_id := u.tenant_id })
    persistent_rotated fun d _ ho => ?_) (fun _ _ _ _ _ h => by cases h) ?_
  · obtain ⟨hsent, r, hr, -, hhash, huser⟩ := ho.knows
    exact ⟨x, hsent, r, hr, hhash, (congrArg tenantOf huser).trans htenant.symm⟩
  rintro _ g hg
  obtain rfl := hg rfl
  refine ⟨rfl, fun user token h => ?_⟩
  cases h
  rw [htenant]

/-- A rotation for an honest client. -/
theorem does_rotate (n : ℕ) (x : String) :
    Does tenantOf (fun r g => ∀ user token, r = .ok (user, token) → g = issued (fun d =>
        Rotated tenantOf n user d ∧ Owned tenantOf d token user.tenant_id) token)
      (onServer (rotate_refresh_token x)) (presenting n x) := by
  refine does_onServer (does_select n x) (fun _ _ _ _ _ h => by cases h) ?_
  rintro found g hg
  cases found with
  | none => exact ⟨rfl, fun _ _ h => by cases h⟩
  | some found =>
      obtain ⟨rt, u, t⟩ := found
      obtain ⟨hlive, htenant, rfl⟩ := hg rt u t rfl
      refine does_onServer
        (does_server fun _ _ _ _ he => by cases he; exact ⟨rfl, rfl, rfl, rfl⟩)
        (fun _ _ _ _ _ h => by cases h) ?_
      rintro now g rfl
      split
      · exact ⟨rfl, fun _ _ h => by cases h⟩
      split
      · next hrevoked =>
        rw [hlive] at hrevoked
        cases hrevoked
      split
      · exact ⟨rfl, fun _ _ h => by cases h⟩
      split
      · exact ⟨rfl, fun _ _ h => by cases h⟩
      split
      · exact ⟨rfl, fun _ _ h => by cases h⟩
      · exact does_issue_next htenant

/-- The server accepts a request. -/
theorem does_accept (n : ℕ) :
    Does tenantOf (fun r g => ∀ x, r = .ok x → g = presenting n x) (act (.accept n)) {} := by
  refine does_act (fun _ _ h => by cases h) fun d v x d' hb ho _ he => ?_
  simp only [SessionStmt.eval] at he
  split at he
  · next x' hx =>
    split at he
    · cases he
    next hn =>
    cases he
    have hdrops : Drops d { d with accepted := n :: d.accepted } :=
      { Drops.refl d with accepted := List.subset_cons_self _ _ }
    refine ⟨presenting n x, .response 0,
      hdrops.effect hb.server hb ho persistent_sent hx fun h hh => .inr ⟨⟨.request n, ?_, ?_⟩, ?_⟩,
      fun x h => by cases h; rfl⟩
    · cases hh
      exact holder_request.mpr ⟨hn, x, hx, rfl⟩
    · simp [holder]
    · exact fun h => by cases h
  · cases he

theorem holder_responses {responses : AList fun _ : ℕ => Except Exn TokenResponse} {n : ℕ}
    {p : Place} (hp : p ≠ .response n) (h : ∀ m, m ≠ n → responses.lookup m = d.responses.lookup m) :
    holder { d with responses } p = holder d p := by
  cases p with
  | stored tenantId => rfl
  | request m => rfl
  | response m =>
      have hm : m ≠ n := fun hmn => hp (congrArg Place.response hmn)
      rw [holder, holder, h m hm]

/-- The server answers with a new token. -/
theorem does_respond {n : ℕ} {r : TokenResponse} :
    Does tenantOf (fun _ _ => True) (act (.respond n (.ok r)))
      (issued (fun d => Answers tenantOf d n r) r.refresh_token) := by
  refine does_act (fun _ => trivial) fun d v _ d' hb ho _ he => ?_
  cases he
  have hother : ∀ m, m ≠ n → (d.responses.insert n (.ok r)).lookup m = d.responses.lookup m :=
    fun m hm => AList.lookup_insert_ne hm
  refine ⟨{}, .response n, effect_put rfl rfl rfl ?_ ?_ (fun _ _ h => .inl h) ?_ hb
    Persistent.true trivial, trivial⟩
  · exact ⟨fun r hr => ⟨r, hr, rfl, rfl, rfl⟩, List.Subset.refl _, fun _ _ h => h, fun _ _ h _ => h⟩
  · intro p h hp
    by_cases hpn : p = .response n
    · subst hpn
      obtain ⟨r', hr', hh⟩ := holder_response.mp hp
      rw [AList.lookup_insert] at hr'
      cases hr'
      exact .inr ⟨rfl, congrArg some hh⟩
    · rw [holder_responses hpn hother] at hp
      exact .inl hp
  · intro m r' hr'
    by_cases hm : m = n
    · subst hm
      rw [AList.lookup_insert] at hr'
      cases hr'
      exact .inr ⟨rfl, rfl, ho.knows⟩
    · exact .inl ((hother m hm) ▸ hr')

theorem does_respond_error {n : ℕ} {e : Exn} :
    Does tenantOf (fun _ _ => True) (act (.respond n (.error e))) g := by
  refine does_act (fun _ => trivial) fun d v _ d' hb ho _ he => ?_
  cases he
  have hdrops : Drops d { d with responses := d.responses.insert n (.error e) } :=
    { Drops.refl d with
      responses := by
        intro m r hr
        by_cases hm : m = n
        · subst hm
          rw [AList.lookup_insert] at hr
          cases hr
        · rwa [AList.lookup_insert_ne hm] at hr }
  exact ⟨g, .response n, hdrops.stays hb.server hb ho ho.persistent
    (ho.persistent d _ hdrops.later ho.knows), trivial⟩

theorem does_serve (n : ℕ) : Does tenantOf (fun _ _ => True) (serve n) {} := by
  refine does_then (does_accept n) (fun _ _ _ => trivial) fun x g hg => ?_
  obtain rfl := hg x rfl
  apply Protocol.wp_handle.mpr
  have hrefresh : Does tenantOf (fun r g => ∀ response, r = .ok response → g = issued (fun d =>
      Answers tenantOf d n response) response.refresh_token) (refresh x) (presenting n x) := by
    refine does_then (does_rotate n x) (fun _ _ _ _ h => by cases h) ?_
    rintro ⟨user, token⟩ g hg
    refine ⟨rfl, fun response h => ?_⟩
    cases h
    exact hg user token rfl
  apply Protocol.wp_mono hrefresh
  rintro r l g ⟨rfl, hr⟩
  cases r with
  | error e => exact does_respond_error
  | ok response =>
      rw [hr response rfl]
      exact does_respond

/-! ### The browser -/

theorem stored_insert_refresh {t : UUID} {y : String} :
    stored { d with localStorage := d.localStorage.insert (.refresh t) y } tenantId =
      if tenantId = t then some y else stored d tenantId := by
  by_cases ht : tenantId = t
  · subst ht
    simp [stored]
  · rw [if_neg ht, stored, stored, AList.lookup_insert_ne fun h => ht (StorageKey.refresh.inj h)]

theorem stored_insert_ne {key : StorageKey} {value : key.Value}
    (hkey : key ≠ .refresh tenantId) :
    stored { d with localStorage := d.localStorage.insert key value } tenantId =
      stored d tenantId := by
  rw [stored, stored, AList.lookup_insert_ne hkey.symm]

theorem stored_erase {key : StorageKey} {x : String}
    (h : stored { d with localStorage := d.localStorage.erase key } tenantId = some x) :
    stored d tenantId = some x ∧ key ≠ .refresh tenantId := by
  by_cases hkey : key = .refresh tenantId
  · subst hkey
    rw [stored, AList.lookup_erase] at h
    cases h
  · rw [stored, AList.lookup_erase_ne fun heq => hkey heq.symm] at h
    exact ⟨h, hkey⟩

theorem drops_flags (impersonating isRefreshing : List ℕ) :
    Drops d { d with impersonating, isRefreshing } :=
  ⟨rfl, rfl, rfl, List.Subset.refl _, fun _ _ h => h, fun _ h => .inl h, fun _ _ h => h⟩

theorem drops_erase (key : StorageKey) :
    Drops d { d with localStorage := d.localStorage.erase key } :=
  { Drops.refl d with
    stored := fun _ _ hx => (stored_erase hx).1
    ended := fun _ hx => .inl hx }

theorem does_removeItem (key : StorageKey) :
    Does tenantOf (fun _ g' => g' = g) (act (.removeItem key)) g := by
  refine does_quiet fun v d a d' he => ?_
  cases he
  exact ⟨drops_erase key, rfl⟩

theorem does_setItem {key : StorageKey} {value : key.Value} (hkey : key.isRefresh = false) :
    Does tenantOf (fun _ g' => g' = g) (act (.setItem key value)) g := by
  refine does_quiet fun v d a d' he => ⟨?_, by cases he; rfl⟩
  cases he
  have hne (t : UUID) : key ≠ .refresh t := by
    rintro rfl
    cases hkey
  exact
    { Drops.refl d with
      stored := fun t x hx => stored_insert_ne (hne t) ▸ hx
      ended := fun _ hx => .inl hx }

theorem does_getActive : Does tenantOf (fun _ g' => g' = g) (act (.getItem .active_tenant)) g := by
  refine does_quiet fun v d a d' he => ?_
  cases he
  exact ⟨{ Drops.refl d with taken := List.append_nil _ }, rfl⟩

/-- A tab that has taken the token. -/
def taking (x : String) : Stage where
  right := some (sha256 x)
  knows d := x ∈ d.taken

theorem does_getRefresh (tenantId : UUID) :
    Does tenantOf (fun r g => ∀ x, r = .ok (some x) → g = taking x)
      (act (.getItem (.refresh tenantId))) {} := by
  refine does_act (fun _ _ h => by cases h) fun d v found d' hb ho hrule he => ?_
  cases hx : stored d tenantId with
  | none =>
      have htakes : d.takes (.refresh tenantId) = [] := congrArg Option.toList hx
      cases he
      rw [htakes, List.append_nil]
      refine ⟨{}, .response 0, (Drops.refl d).stays hb.server hb ho .true trivial, ?_⟩
      rintro x h
      cases hx.symm.trans (Except.ok.inj h)
  | some x =>
      have htakes : d.takes (.refresh tenantId) = [x] := congrArg Option.toList hx
      cases he
      rw [htakes]
      refine ⟨taking x, .response 0, effect_take hx (fun hold => ?_) hb, ?_⟩
      · exact (hb.owned tenantId x hx).2 (hrule rfl x hx hold)
      · rintro y h
        rw [Option.some.inj (hx.symm.trans (Except.ok.inj h))]

theorem does_getRefreshToken :
    Does tenantOf (fun r g => ∀ x, r = .ok (some x) → g = taking x) getRefreshToken {} := by
  refine does_then does_getActive (fun _ _ _ _ h => by cases h) ?_
  rintro found g rfl
  cases found with
  | none => exact ⟨rfl, fun _ h => by cases h⟩
  | some tenantId => exact does_getRefresh tenantId

/-- A tab that waits for the answer to a request. -/
def awaiting (n : ℕ) (x : String) : Stage where
  knows d := x ∈ d.taken ∧ d.requests[n]? = some x

theorem does_post (x : String) :
    Does tenantOf (fun r g => (∀ n, r = .ok n → g = awaiting n x) ∧
      ∀ e, r = .error e → g = taking x) (act (.post x)) (taking x) := by
  refine does_act (fun _ => ⟨fun _ h => (by cases h), fun _ _ => rfl⟩) fun d v n d' hb ho _ he => ?_
  cases he
  have hsent (m : ℕ) (y : String) (h : d.requests[m]? = some y) :
      (d.requests ++ [x])[m]? = some y := by
    obtain ⟨hm, -⟩ := List.getElem?_eq_some_iff.mp h
    rw [List.getElem?_append_left hm]
    exact h
  have hlast : (d.requests ++ [x])[d.requests.length]? = some x := by simp
  refine ⟨awaiting d.requests.length x, .request d.requests.length, effect_put rfl rfl rfl ?_ ?_
    (fun _ _ h => .inl h) (fun _ _ h => .inl h) hb (persistent_taken.and persistent_sent)
    ⟨ho.knows, hlast⟩, fun n h => by cases h; rfl, fun _ h => by cases h⟩
  · exact ⟨fun r hr => ⟨r, hr, rfl, rfl, rfl⟩, List.Subset.refl _, hsent, fun _ _ h _ => h⟩
  · intro p h hp
    cases p with
    | stored tenantId => exact .inl hp
    | response m => exact .inl hp
    | request m =>
        obtain ⟨hm, y, hy, hh⟩ := holder_request.mp hp
        rcases Nat.lt_trichotomy m d.requests.length with hlt | rfl | hgt
        · left
          refine holder_request.mpr ⟨hm, y, ?_, hh⟩
          change (d.requests ++ [x])[m]? = some y at hy
          rwa [List.getElem?_append_left hlt] at hy
        · right
          obtain rfl := Option.some.inj (hlast.symm.trans hy)
          exact ⟨rfl, congrArg some hh⟩
        · change (d.requests ++ [x])[m]? = some y at hy
          obtain ⟨hm', -⟩ := List.getElem?_eq_some_iff.mp hy
          rw [List.length_append, List.length_singleton] at hm'
          omega

/-- What a tab knows when the answer has arrived. -/
def Received (tenantOf : UUID → UUID) (x : String) (r : TokenResponse) (d : SessionStore) : Prop :=
  x ∈ d.taken ∧ Owned tenantOf d x r.access_token.tenant_id ∧
    Owned tenantOf d r.refresh_token r.access_token.tenant_id

theorem does_receive (n : ℕ) (x : String) :
    Does tenantOf (fun r g => (∀ response, r = .ok response →
        g = issued (Received tenantOf x response) response.refresh_token) ∧
      ∀ e, r = .error e → g = awaiting n x) (act (.receive n)) (awaiting n x) := by
  refine does_act (fun _ => ⟨fun _ h => (by cases h), fun _ _ => rfl⟩) fun d v r d' hb ho _ he => ?_
  simp only [SessionStmt.eval] at he
  split at he
  · next response hresponse =>
    cases he
    obtain ⟨hunseen, ⟨y, hy, howned⟩, hnew⟩ := hb.responses n r hresponse
    obtain rfl := Option.some.inj (hy.symm.trans ho.knows.2)
    have hdrops : Drops d { d with responses := d.responses.erase n } :=
      { Drops.refl d with
        responses := by
          intro m r' hr'
          by_cases hm : m = n
          · subst hm
            rw [AList.lookup_erase] at hr'
            cases hr'
          · rwa [AList.lookup_erase_ne hm] at hr' }
    refine ⟨issued (Received tenantOf y r) r.refresh_token, .response 0,
      hdrops.effect hb.server hb ho
        (persistent_taken.and (persistent_owned.and persistent_owned))
        ⟨ho.knows.1, howned, hnew⟩ fun h hh => .inr ⟨⟨.response n, ?_, ?_⟩, ?_⟩,
      fun _ h => by cases h; rfl, fun _ h => by cases h⟩
    · exact holder_response.mpr ⟨r, hresponse, Option.some.inj hh⟩
    · rw [holder, AList.lookup_erase]
      rfl
    · intro _
      rw [← Option.some.inj hh]
      exact hunseen
  · cases he
  · cases he

/-- The new refresh token is stored. -/
theorem does_saveRefreshToken {P : SessionStore → Prop} {y : String} {tenantId : UUID}
    (hright : g.right = some (sha256 y)) (hfresh : g.fresh = true) (hP : Persistent P)
    (howned : ∀ d, g.knows d → Owned tenantOf d y tenantId)
    (hd : ∀ d, Sound tenantOf d → g.Holds d →
      P { d with localStorage := d.localStorage.insert (.refresh tenantId) y }) :
    Does tenantOf (fun r g' => (r.isOk = true → g' = { knows := P }) ∧ ∀ e, r = .error e → g' = g)
      (saveRefreshToken y tenantId) g := by
  refine does_act (fun _ => ⟨fun h => (by cases h), fun _ _ => rfl⟩) fun d v _ d' hb ho _ he => ?_
  cases he
  have hnew : y ∉ d.taken := fun hy => ho.unseen _ hright hfresh y hy rfl
  refine ⟨{ knows := P }, .stored tenantId, effect_put rfl rfl rfl ?_ ?_ ?_
    (fun _ _ h => .inl h) hb hP (hd d hb ho), fun _ => rfl, fun _ h => by cases h⟩
  · refine ⟨fun r hr => ⟨r, hr, rfl, rfl, rfl⟩, List.Subset.refl _, fun _ _ h => h, ?_⟩
    intro t x hx ht
    rw [stored_insert_refresh] at hx
    split at hx
    · cases hx
      exact absurd ht hnew
    · exact hx
  · intro p h hp
    cases p with
    | request n => exact .inl hp
    | response n => exact .inl hp
    | stored t =>
        obtain ⟨x, hx, htaken, hh⟩ := holder_stored.mp hp
        rw [stored_insert_refresh] at hx
        split at hx
        · next heq =>
          cases hx
          exact .inr ⟨congrArg Place.stored heq, hright.trans (congrArg some hh)⟩
        · exact .inl (holder_stored.mpr ⟨x, hx, htaken, hh⟩)
  · intro t x hx
    rw [stored_insert_refresh] at hx
    split at hx
    · next heq =>
      cases hx
      exact .inr ⟨heq ▸ howned d ho.knows, hnew⟩
    · exact .inl hx

/-- The token was taken and is no longer stored. -/
def Gone (x : String) (d : SessionStore) : Prop :=
  x ∈ d.taken ∧ ∀ tenantId, stored d tenantId ≠ some x

theorem persistent_gone {x : String} : Persistent (Gone x) :=
  fun _ _ hl h => ⟨hl.taken h.1, fun t ht => h.2 t (hl.stored t x ht h.1)⟩

theorem does_saveToken {token : AccessToken} {tenantId : UUID} :
    Does tenantOf (fun _ g' => g' = g) (saveToken token tenantId) g := by
  refine does_then (does_setItem rfl) (fun _ _ h => h) ?_
  rintro _ g' rfl
  exact does_setItem rfl

theorem does_end_refresh (tab : ℕ) :
    Does tenantOf (fun _ g' => g' = g) (act (.end_refresh tab)) g := by
  refine does_quiet fun v d a d' he => ?_
  cases he
  exact ⟨drops_flags _ _, rfl⟩

/-- What a tab knows about the token that it has taken, when the exchange succeeds or fails. -/
def Exchanged (x : String) {α : Type} (r : Except Exn α) (g : Stage) : Prop :=
  (r.isOk = true → ∀ d, g.knows d → Gone x d) ∧ ∀ e, r = .error e → ∀ d, g.knows d → x ∈ d.taken

theorem exchanged_error {x : String} {e : Exn} (h : ∀ d, g.knows d → x ∈ d.taken) :
    Exchanged x (.error e : Except Exn α) g :=
  ⟨fun he => (by cases he), fun _ _ => h⟩

theorem does_exchange (tab : ℕ) (x : String) :
    Does tenantOf (Exchanged x) (exchange tab x) (taking x) := by
  refine does_then (does_post x) ?_ ?_
  · rintro e g ⟨-, hg⟩
    obtain rfl := hg e rfl
    exact exchanged_error fun _ h => h
  rintro n g ⟨hg, -⟩
  obtain rfl := hg n rfl
  refine does_then (does_receive n x) ?_ ?_
  · rintro e g ⟨-, hg⟩
    obtain rfl := hg e rfl
    exact exchanged_error fun _ h => h.1
  rintro r g ⟨hg, -⟩
  obtain rfl := hg r rfl
  refine does_then does_saveToken ?_ ?_
  · rintro e g rfl
    exact exchanged_error fun _ h => h.1
  rintro _ g rfl
  refine does_then (does_saveRefreshToken (P := Gone x) rfl rfl persistent_gone
    (fun d h => h.2.2) fun d hb ho => ?_) ?_ ?_
  · obtain ⟨htaken, ⟨r₁, hr₁, hhash₁, huser₁⟩, -⟩ := ho.knows
    refine ⟨htaken, fun t ht => ?_⟩
    rw [stored_insert_refresh] at ht
    split at ht
    · exact ho.unseen _ rfl rfl x htaken (congrArg sha256 (Option.some.inj ht).symm)
    · next hne =>
      obtain ⟨⟨r₂, hr₂, hhash₂, huser₂⟩, -⟩ := hb.owned t x ht
      obtain rfl := List.inj_on_of_nodup_map hb.server.hashes hr₁ hr₂ (hhash₁.trans hhash₂.symm)
      exact hne (huser₂.symm.trans huser₁)
  · rintro e g ⟨-, hg⟩
    obtain rfl := hg e rfl
    exact exchanged_error fun _ h => h.1
  rintro _ g ⟨hg, -⟩
  obtain rfl := hg rfl
  refine does_then (does_end_refresh tab) ?_ ?_
  · rintro e g rfl
    exact exchanged_error fun _ h => h.1
  rintro _ g rfl
  exact ⟨rfl, fun _ _ h => h, fun _ h => by cases h⟩

theorem does_removeAll (keys : List StorageKey) :
    Does tenantOf (fun _ g' => g' = g) (Prog.forEach keys fun k => act (.removeItem k)) g := by
  refine Protocol.wp_mono (Protocol.wp_forEach (I := fun l g' => l = {} ∧ g' = g) ?_ ⟨rfl, rfl⟩)
    fun _ _ _ h => h
  rintro k - _ _ ⟨rfl, rfl⟩
  exact does_removeItem k

/-- The token that was taken is stored under the keys at most. -/
def Within (x : String) (keys : List StorageKey) (d : SessionStore) : Prop :=
  x ∈ d.taken ∧ ∀ tenantId, stored d tenantId = some x → StorageKey.refresh tenantId ∈ keys

/-- The loop removes every copy of the token. -/
theorem does_removeWithin {x : String} (keys : List StorageKey)
    (hg : ∀ d, g.knows d → Within x keys d) :
    Does tenantOf (fun r g' => r.isOk = true → ∀ d, g'.knows d → Gone x d)
      (Prog.forEach keys fun k => act (.removeItem k)) g := by
  induction keys generalizing g with
  | nil => exact ⟨rfl, fun _ d hd => ⟨(hg d hd).1, fun t ht => by cases (hg d hd).2 t ht⟩⟩
  | cons k rest ih =>
      refine does_then (B := fun r g' => r.isOk = true → g' = { g with knows := Within x rest })
        (does_act (fun _ h => by cases h) fun d v _ d' hb ho _ he => ?_) (fun _ _ _ h => by cases h)
        ?_
      · cases he
        have hwithin := hg d ho.knows
        refine ⟨_, .response 0, (drops_erase k).stays hb.server hb ho persistent_within
          ⟨hwithin.1, fun t ht => ?_⟩, fun _ => rfl⟩
        obtain ⟨hold, hne⟩ := stored_erase ht
        exact (List.mem_cons.mp (hwithin.2 t hold)).resolve_left hne.symm
      rintro _ g' hg'
      obtain rfl := hg' rfl
      exact ih fun _ h => h

theorem does_keys {x : String} (hg : ∀ d, g.knows d → x ∈ d.taken) :
    Does tenantOf (fun r g' => ∀ keys, r = .ok keys → ∀ d, g'.knows d →
      Within x (keys.filter (·.isRefresh)) d) (act .keys) g := by
  refine does_act (fun _ _ h => by cases h) fun d v keys d' hb ho _ he => ?_
  cases he
  refine ⟨{ g with knows := Within x (d.localStorage.keys.filter (·.isRefresh)) }, .response 0,
    (Drops.refl d).stays hb.server hb ho persistent_within ⟨hg d ho.knows, fun t ht => ?_⟩, ?_⟩
  · refine List.mem_filter.mpr ⟨AList.mem_keys.mp (AList.lookup_isSome.mp ?_), rfl⟩
    exact Option.isSome_of_eq_some ht
  · rintro keys h
    cases h
    exact fun _ h => h

/-- After the storage was cleared, the token is no longer stored. -/
theorem does_clearAll {x : String} (hg : ∀ d, g.knows d → x ∈ d.taken) :
    Does tenantOf (fun r g' => r.isOk = true → ∀ d, g'.knows d → Gone x d) clearAllTenantTokens
      g := by
  refine does_then (does_quiet fun _ d _ _ he => ?_) (fun _ _ _ h => by cases h) ?_
  · cases he
    exact ⟨Drops.refl d, rfl⟩
  rintro keys g rfl
  refine does_then (does_removeAll _) (fun _ _ _ h => by cases h) ?_
  rintro _ g rfl
  refine does_then (does_keys hg) (fun _ _ _ h => by cases h) fun keys g hkeys => ?_
  refine does_then (does_removeWithin _ (hkeys keys rfl)) (fun _ _ _ h => by cases h) ?_
  intro _ g hg
  refine Protocol.wp_mono (does_removeItem .active_tenant) ?_
  rintro _ _ _ ⟨hl, rfl⟩
  exact ⟨hl, fun _ => hg rfl⟩

theorem does_abandon {x : String} (tab : ℕ) (hg : ∀ d, g.knows d → x ∈ d.taken) :
    Does tenantOf (fun r g' => r.isOk = true → ∀ d, g'.knows d → Gone x d) (abandon tab) g := by
  refine does_then (does_end_refresh tab) (fun _ _ _ h => by cases h) ?_
  rintro _ g rfl
  refine does_then (does_clearAll hg) (fun _ _ _ h => by cases h) fun _ g hg => ?_
  refine does_then (does_removeItem _) (fun _ _ _ h => by cases h) ?_
  rintro _ g rfl
  exact ⟨rfl, fun _ => hg rfl⟩

theorem does_ended {x : String} (hg : ∀ d, g.knows d → Gone x d) :
    Does tenantOf (fun _ g' => g' = g) (act (.ended x)) g := by
  refine does_act (fun _ => rfl) fun d v _ d' hb ho _ he => ?_
  cases he
  obtain ⟨htaken, hnone⟩ := hg d ho.knows
  have hdrops : Drops d { d with ended := x :: d.ended } :=
    { Drops.refl d with
      ended := by
        intro y hy
        rcases List.mem_cons.mp hy with rfl | hy
        · exact .inr ⟨htaken, hnone⟩
        · exact .inl hy }
  exact ⟨g, .response 0, hdrops.stays hb.server hb ho ho.persistent
    (ho.persistent d _ hdrops.later ho.knows), rfl⟩

theorem does_clearToken : Does tenantOf (fun _ g' => g' = g) clearToken g := by
  refine does_then does_getActive (fun _ _ h => h) ?_
  rintro found g' rfl
  cases found with
  | none => exact does_removeItem _
  | some tenantId =>
      refine does_then (does_removeItem _) (fun _ _ h => h) ?_
      rintro _ g' rfl
      refine does_then (does_removeItem _) (fun _ _ h => h) ?_
      rintro _ g' rfl
      exact does_removeItem _

theorem does_clearRefreshToken : Does tenantOf (fun _ g' => g' = g) clearRefreshToken g := by
  refine does_then does_getActive (fun _ _ h => h) ?_
  rintro found g' rfl
  cases found with
  | none => exact ⟨rfl, rfl⟩
  | some tenantId => exact does_removeItem _

theorem does_logout : Does tenantOf (fun _ _ => True) logout {} := by
  have hkeys (g : Stage) : Does tenantOf (fun _ g' => g' = g) (act .keys) g := by
    refine does_quiet fun v d a d' he => ?_
    cases he
    exact ⟨Drops.refl d, rfl⟩
  refine does_then (B := fun _ g' => g' = {}) ?_ (fun _ _ _ => trivial) ?_
  · refine does_then (hkeys _) (fun _ _ h => h) ?_
    rintro ks g rfl
    refine does_then (does_removeAll _) (fun _ _ h => h) ?_
    rintro _ g rfl
    refine does_then (hkeys _) (fun _ _ h => h) ?_
    rintro ks g rfl
    refine does_then (does_removeAll _) (fun _ _ h => h) ?_
    rintro _ g rfl
    exact does_removeItem _
  · rintro _ g rfl
    exact Protocol.wp_mono does_clearRefreshToken fun _ _ _ h => ⟨h.1, trivial⟩

/-- The refresh of a tab. -/
theorem does_refresh (tab : ℕ) (x : String) :
    Does tenantOf (fun _ _ => True)
      ((exchange tab x).tryCatch (fun _ => abandon tab) >>= fun handled =>
        act (.ended x) >>= fun _ => pure handled) (taking x) := by
  refine does_then (B := fun r g' => r.isOk = true → ∀ d, g'.knows d → Gone x d) ?_
    (fun _ _ _ => trivial) fun handled g hg => ?_
  · apply Protocol.wp_tryCatch.mpr
    refine Protocol.wp_mono (does_exchange tab x) ?_
    rintro r l g ⟨rfl, hok, herr⟩
    cases r with
    | ok handled => exact ⟨rfl, hok⟩
    | error e => exact does_abandon tab (herr e rfl)
  · exact does_then (does_ended (hg rfl)) (fun _ _ _ => trivial) fun _ _ _ => ⟨rfl, trivial⟩

theorem does_interceptor (tab status : ℕ) (retry : Bool) :
    Does tenantOf (fun _ _ => True) (interceptor tab status retry) {} := by
  have hflags {s : SessionStmt} (hs : ∀ v d a d', s.eval v d = .ok (a, d') →
      ∃ impersonating isRefreshing, d' = { d with impersonating, isRefreshing }) :
      Does tenantOf (fun _ g' => g' = {}) (act s) {} := by
    refine does_quiet fun v d a d' he => ?_
    obtain ⟨impersonating, isRefreshing, rfl⟩ := hs v d a d' he
    exact ⟨drops_flags _ _, rfl⟩
  rw [interceptor]
  split
  · exact ⟨rfl, trivial⟩
  refine does_then (hflags fun v d a d' he => ?_) (fun _ _ _ => trivial) ?_
  · cases he
    exact ⟨_, _, rfl⟩
  rintro impersonation g rfl
  split
  · split
    · refine does_then (hflags fun v d a d' he => ?_) (fun _ _ _ => trivial)
        fun _ _ _ => ⟨?_, trivial⟩
      · cases he
        exact ⟨_, _, rfl⟩
      · rfl
    · exact ⟨rfl, trivial⟩
  split
  · refine does_then (hflags fun v d a d' he => ?_) (fun _ _ _ => trivial) ?_
    · cases he
      exact ⟨_, _, rfl⟩
    rintro isRefreshing g rfl
    split
    · exact ⟨rfl, trivial⟩
    refine does_then does_getRefreshToken (fun _ _ _ => trivial) fun found g hg => ?_
    cases found with
    | none =>
        refine does_then does_clearToken (fun _ _ _ => trivial) fun _ _ _ => ?_
        exact does_then does_clearRefreshToken (fun _ _ _ => trivial) fun _ _ _ => ⟨rfl, trivial⟩
    | some x =>
        obtain rfl := hg x rfl
        exact does_refresh tab x
  · exact ⟨rfl, trivial⟩

theorem does_issue (user_id : UUID) :
    Does tenantOf (fun r g => ∀ response, r = .ok response → g = issued (fun d =>
      True ∧ Owned tenantOf d response.refresh_token response.access_token.tenant_id)
        response.refresh_token) (issue user_id) {} := by
  refine does_then (B := fun r g => g = {} ∧ ∀ u, r = .ok u → u.tenant_id = tenantOf u.id)
    (does_act (fun _ => ⟨rfl, fun _ h => by cases h⟩) fun d v u d' hb ho _ he => ?_)
    (fun _ _ _ _ h => by cases h) ?_
  · simp only [SessionStmt.eval] at he
    split at he
    · next u' hu =>
      cases he
      refine ⟨{}, .response 0, (Drops.refl d).stays hb.server hb ho .true trivial, rfl, ?_⟩
      rintro _ ⟨⟩
      exact hb.server.users _ (List.mem_of_find?_eq_some hu)
    · cases he
  rintro u g ⟨rfl, htenant⟩
  have hquiet {s : TokenStmt} (hs : ∀ v d a d', s.eval v d = .ok (a, d') →
      d'.users = d.users ∧ d'.refresh_tokens = d.refresh_tokens ∧ d'.reused = d.reused ∧
        d'.detected = d.detected) :
      Does tenantOf (fun _ g' => g' = {}) (onServer (perform s)) {} := does_server hs
  refine does_then (B := fun r g => ∀ token, r = .ok token → g = issued (fun d =>
    True ∧ Owned tenantOf d token (tenantOf u.id)) token) ?_ (fun _ _ _ _ h => by cases h) ?_
  · refine does_onServer (hquiet fun _ _ _ _ he => by cases he; exact ⟨rfl, rfl, rfl, rfl⟩)
      (fun _ _ _ _ h => by cases h) ?_
    rintro token g rfl
    refine does_onServer (hquiet fun _ _ _ _ he => by cases he; exact ⟨rfl, rfl, rfl, rfl⟩)
      (fun _ _ _ _ h => by cases h) ?_
    rintro family_id g rfl
    refine does_onServer (hquiet fun _ _ _ _ he => by cases he; exact ⟨rfl, rfl, rfl, rfl⟩)
      (fun _ _ _ _ h => by cases h) ?_
    rintro now g rfl
    refine does_onServer (does_insert .true fun _ _ _ => trivial) (fun _ _ _ _ h => by cases h) ?_
    rintro _ g hg
    refine ⟨rfl, fun token h => ?_⟩
    cases h
    exact hg rfl
  · rintro token g hg
    refine ⟨rfl, fun response h => ?_⟩
    cases h
    rw [hg token rfl, ← htenant u rfl]
    rfl

theorem does_login (user_id : UUID) : Does tenantOf (fun _ _ => True) (login user_id) {} := by
  refine does_then (does_issue user_id) (fun _ _ _ => trivial) fun response g hg => ?_
  obtain rfl := hg response rfl
  refine does_then does_saveToken (fun _ _ _ => trivial) ?_
  rintro _ g rfl
  refine Protocol.wp_mono (does_saveRefreshToken (P := fun _ => True) rfl rfl .true
    (fun d h => h.2) fun _ _ _ => trivial) fun _ _ _ h => ⟨h.1, trivial⟩

theorem does_call (w : SessionCall) : Does tenantOf (fun _ _ => True) w.prog {} := by
  cases w with
  | response tab status retry =>
      exact does_then (does_interceptor tab status retry) (fun _ _ _ => trivial)
        fun _ _ _ => ⟨rfl, trivial⟩
  | serve n => exact does_serve n
  | login user_id => exact does_login user_id
  | logout => exact does_logout

end Calls

/-- A browser whose stored tokens are usable and belong to users of their tenants, before any
request. -/
structure Initial (tenantOf : UUID → UUID) (d : SessionStore) : Prop where
  server : ServerSound tenantOf d.server
  stored : ∀ tenantId x, stored d tenantId = some x →
    Live d (sha256 x) ∧ Owned tenantOf d x tenantId
  requests : d.requests = []
  responses : d.responses = ∅
  taken : d.taken = []
  ended : d.ended = []

theorem Initial.sound (h : Initial tenantOf d) : Sound tenantOf d where
  server := h.server
  apart p p' t hp hp' := by
    have hplace (p : Place) (hp : holder d p = some t) : ∃ tenantId x, p = .stored tenantId ∧
        HonestClient.stored d tenantId = some x ∧ sha256 x = t := by
      cases p with
      | stored tenantId =>
          obtain ⟨x, hx, -, hh⟩ := holder_stored.mp hp
          exact ⟨tenantId, x, rfl, hx, hh⟩
      | request n =>
          obtain ⟨-, x, hx, -⟩ := holder_request.mp hp
          rw [h.requests] at hx
          cases hx
      | response n =>
          obtain ⟨r, hr, -⟩ := holder_response.mp hp
          rw [h.responses] at hr
          cases hr
    obtain ⟨tenantId, x, rfl, hx, hh⟩ := hplace p hp
    obtain ⟨tenantId', x', rfl, hx', hh'⟩ := hplace p' hp'
    obtain ⟨r, hr, hhash, huser⟩ := (h.stored tenantId x hx).2
    obtain ⟨r', hr', hhash', huser'⟩ := (h.stored tenantId' x' hx').2
    obtain rfl := List.inj_on_of_nodup_map h.server.hashes hr hr'
      ((hhash.trans hh).trans (hhash'.trans hh').symm)
    rw [← huser, ← huser']
  live p t hp := by
    cases p with
    | stored tenantId =>
        obtain ⟨x, hx, -, rfl⟩ := holder_stored.mp hp
        exact (h.stored tenantId x hx).1
    | request n =>
        obtain ⟨-, x, hx, -⟩ := holder_request.mp hp
        rw [h.requests] at hx
        cases hx
    | response n =>
        obtain ⟨r, hr, -⟩ := holder_response.mp hp
        rw [h.responses] at hr
        cases hr
  owned tenantId x hx := ⟨(h.stored tenantId x hx).2, by simp [h.ended]⟩
  known x hx := by
    rw [h.taken] at hx
    cases hx
  ended := by simp [h.ended]
  responses n r hr := by
    rw [h.responses] at hr
    cases hr

/-- No call runs yet. -/
def idle (d : SessionStore) : SessionState := { store := d }

theorem valid_reaches {s s' : SessionState}
    (h : Valid (discipline tenantOf).protocol (fun _ _ _ => True) s)
    (hs : Reaches sessionSystem (rules tenantOf) s s') :
    Valid (discipline tenantOf).protocol (fun _ _ _ => True) s' := by
  refine (h.reaches (Y := sessionSystem) rfl ?_ ?_ hs).1
  · intro w d d' p ls hi _ hstart
    cases hstart
    refine ⟨{}, hi.joins ?_ rfl (fun _ => trivial),
      Protocol.wp_mono (does_call w) fun _ _ _ _ => trivial⟩
    exact ⟨.true, trivial, fun _ h => (by cases h), fun _ h => (by cases h),
      fun _ h => (by cases h)⟩
  · rintro d d' ls hi ⟨husers, hedit⟩
    generalize d'.server.users = users at husers hedit
    generalize d'.server.tenants = tenants at hedit
    subst hedit
    have hbase : Sound tenantOf d := hi.base
    have hlater : Later d { d with server := { d.server with users, tenants } } :=
      ⟨fun r hr => ⟨r, hr, rfl, rfl, rfl⟩, List.Subset.refl _, fun _ _ h => h, fun _ _ h _ => h⟩
    refine ⟨⟨?_, fun x hx => ?_, hi.apart, trivial⟩, hlater⟩
    · exact
        { server := { hbase.server with users := husers }
          apart := hbase.apart
          live := hbase.live
          owned := hbase.owned
          known := hbase.known
          ended := hbase.ended
          responses := hbase.responses }
    · have ho : x.2.Holds d := hi.own x hx
      exact ⟨ho.persistent, ho.persistent d _ hlater ho.knows, ho.live, ho.alone, ho.unseen⟩

/-- The server never meets a revoked token and never closes a family, in every run in which no
refresh starts with a token whose earlier refresh has not ended. -/
theorem never_reused (hd : Initial tenantOf d) {s : SessionState}
    (hs : Reaches sessionSystem (rules tenantOf) (idle d) s) :
    s.store.server.reused = [] ∧ s.store.server.detected = [] := by
  have hvalid := valid_reaches
    (Valid.start (.empty hd.sound trivial)) hs
  obtain ⟨ann, -, hinv, -⟩ := hvalid
  exact ⟨hinv.base.server.reused, hinv.base.server.detected⟩

/-- Runs in which a refresh may start at any time. -/
def unguarded (tenantOf : UUID → UUID) : SessionRules where
  edit := (rules tenantOf).edit

section Decidable

variable (s : SessionStmt) (c : Choice Exn Env) (w : SessionCall) (d d' : SessionStore)

instance : Decidable ((rules tenantOf).stmt s c d) := by
  cases s with
  | getItem key =>
      cases key with
      | refresh tenantId =>
          exact inferInstanceAs (Decidable (c.isRun = true →
            ∀ x ∈ stored d tenantId, x ∈ d.taken → x ∈ d.ended))
      | _ => exact .isTrue trivial
  | _ => exact .isTrue trivial

instance : Decidable ((rules tenantOf).spawn w d) := .isTrue trivial

noncomputable instance : Decidable ((rules tenantOf).edit d d') := Classical.propDecidable _

instance : Decidable ((unguarded tenantOf).stmt s c d) := .isTrue trivial

instance : Decidable ((unguarded tenantOf).spawn w d) := .isTrue trivial

noncomputable instance : Decidable ((unguarded tenantOf).edit d d') := Classical.propDecidable _

end Decidable

/-- A browser with the session of a user who has logged in. -/
def browser : SessionStore where
  server := TokenFamilies.loggedIn
  localStorage := (AList.insert .active_tenant (1 : UUID) ∅).insert (.refresh 1) "first"

theorem initial_browser : Initial (fun _ => 1) browser where
  server :=
    { users := fun u hu => by rw [List.mem_singleton.mp hu]
      ids := TokenFamilies.initial_loggedIn.ids
      hashes := TokenFamilies.initial_loggedIn.hashes
      reused := rfl
      detected := rfl }
  stored tenantId x hx := by
    rw [stored, browser] at hx
    by_cases ht : tenantId = 1
    · subst ht
      cases (AList.lookup_insert _).symm.trans hx
      exact ⟨⟨_, List.mem_singleton_self _, rfl, rfl⟩, _, List.mem_singleton_self _, rfl, rfl⟩
    · rw [AList.lookup_insert_ne (by simpa using ht), AList.lookup_insert_ne (by simp)] at hx
      cases hx
  requests := rfl
  responses := rfl
  taken := rfl
  ended := rfl

/-- The answer of a statement. -/
def answer (i : ℕ) (v : Env) : Label Exn SessionStore Env SessionCall := .step i (.run v)

/-- A tab, as process `i`, takes the token and sends it. -/
def sends (i : ℕ) : List (Label Exn SessionStore Env SessionCall) :=
  .spawn (.response i 401 false) :: List.replicate 5 (answer i {})

theorem never_reused_after_refresh : ∃ s : SessionState, stored s.store 1 = some "second" ∧
    s.store.server.reused = [] ∧ s.store.server.detected = [] := by
  obtain ⟨s, hs, hv⟩ := Reaches.of_moves (Y := sessionSystem) (ρ := rules fun _ => 1) (idle browser)
    (sends 0 ++ .spawn (.serve 0) :: List.replicate 4 (answer 1 {}) ++
      [answer 1 { text := "second" }, answer 1 {}, answer 1 { uuid := 5 }, answer 1 {}] ++
      List.replicate 6 (answer 0 {}))
    (fun d => stored d 1) (some "second") (by decide +kernel) (by decide +kernel)
  exact ⟨s, hv, never_reused initial_browser hs⟩

/-- Two tabs take the token before the answer to either of them has arrived. -/
theorem not_never_reused : ¬ ∀ (tenantOf : UUID → UUID) (d : SessionStore) (s : SessionState),
    Initial tenantOf d → Reaches sessionSystem (unguarded tenantOf) (idle d) s →
    s.store.server.reused = [] ∧ s.store.server.detected = [] := by
  intro h
  obtain ⟨s, hs, hv⟩ := Reaches.of_moves (Y := sessionSystem) (ρ := unguarded fun _ => 1)
    (idle browser)
    (sends 0 ++ sends 1 ++ .spawn (.serve 0) :: List.replicate 4 (answer 2 {}) ++
      [answer 2 { text := "second" }, answer 2 {}, answer 2 { uuid := 5 }, answer 2 {},
        .spawn (.serve 1), answer 3 {}, answer 3 {}, answer 3 {}, answer 3 {}])
    (fun d => d.server.detected) [4] (by decide +kernel) (by decide +kernel)
  have hnone := (h _ browser s initial_browser hs).2
  rw [hnone] at hv
  cases hv

end HonestClient

end FrixelConnect
