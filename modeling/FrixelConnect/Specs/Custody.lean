import FrixelConnect.BrowserSession
import FrixelConnect.TokenFamilies

/-!
# Custody of refresh tokens

A refresh token is at one place at a time: in `localStorage`, in a message, or in the hands of one
process. A token that was taken for a refresh may still lie in `localStorage` until the refresh has
ended. Each kind of step moves one token at most.
-/

namespace FrixelConnect

namespace HonestClient

open Python Interleaving

/-- The refresh token that is stored for a tenant. -/
def stored (d : SessionStore) (tenantId : UUID) : Option String :=
  d.localStorage.lookup (.refresh tenantId)

inductive Place where
  | stored (tenantId : UUID)
  | request (n : ℕ)
  | response (n : ℕ)

/-- The hash of the token that is at a place and was not taken from there. -/
def holder (d : SessionStore) : Place → Option String
  | .stored tenantId => (stored d tenantId).bind fun x =>
      if x ∈ d.taken then none else some (sha256 x)
  | .request n => if n ∈ d.accepted then none else d.requests[n]?.map sha256
  | .response n => (d.responses.lookup n).bind fun r => r.toOption.map fun r =>
      sha256 r.refresh_token

def Live (d : SessionStore) (token_hash : String) : Prop :=
  ∃ r ∈ d.server.refresh_tokens, r.token_hash = token_hash ∧ r.revoked = false

/-- No token with the hash was taken for a refresh. -/
def Unseen (d : SessionStore) (token_hash : String) : Prop :=
  ∀ x ∈ d.taken, sha256 x ≠ token_hash

section Tenants

variable (tenantOf : UUID → UUID)

/-- The token belongs to a user of the tenant. -/
def Owned (d : SessionStore) (token : String) (tenantId : UUID) : Prop :=
  ∃ r ∈ d.server.refresh_tokens, r.token_hash = sha256 token ∧ tenantOf r.user_id = tenantId

/-- The response is for a user of the tenant of the token that was sent. -/
def Answers (d : SessionStore) (n : ℕ) (r : TokenResponse) : Prop :=
  (∃ x, d.requests[n]? = some x ∧ Owned tenantOf d x r.access_token.tenant_id) ∧
    Owned tenantOf d r.refresh_token r.access_token.tenant_id

/-- The constraints of the tables, and no reuse was detected. -/
structure ServerSound (d : TokenStore) : Prop where
  users : ∀ u ∈ d.users, u.tenant_id = tenantOf u.id
  ids : (d.refresh_tokens.map (·.id)).Nodup
  hashes : (d.refresh_tokens.map (·.token_hash)).Nodup
  reused : d.reused = []
  detected : d.detected = []

structure Sound (d : SessionStore) : Prop where
  server : ServerSound tenantOf d.server
  apart : ∀ p p' h, holder d p = some h → holder d p' = some h → p = p'
  live : ∀ p h, holder d p = some h → Live d h
  owned : ∀ tenantId x, stored d tenantId = some x → Owned tenantOf d x tenantId ∧ x ∉ d.ended
  known : ∀ x ∈ d.taken, ∃ r ∈ d.server.refresh_tokens, r.token_hash = sha256 x
  ended : d.ended ⊆ d.taken
  responses : ∀ n r, d.responses.lookup n = some (.ok r) →
    Unseen d (sha256 r.refresh_token) ∧ Answers tenantOf d n r

/-- Runs in which no refresh starts with a token whose earlier refresh has not ended. Users and
tenants change in any way, but no user changes the tenant. -/
def rules : SessionRules where
  stmt s c d := match s with
    | .getItem (.refresh tenantId) => c.isRun = true →
        ∀ x, stored d tenantId = some x → x ∈ d.taken → x ∈ d.ended
    | _ => True
  edit d d' := (∀ u ∈ d'.server.users, u.tenant_id = tenantOf u.id) ∧
    d' = { d with server := { d.server with
      users := d'.server.users, tenants := d'.server.tenants } }

end Tenants

/-- What no step takes back. -/
structure Later (d d' : SessionStore) : Prop where
  rows : ∀ r ∈ d.server.refresh_tokens, ∃ r' ∈ d'.server.refresh_tokens,
    r'.id = r.id ∧ r'.token_hash = r.token_hash ∧ r'.user_id = r.user_id
  taken : d.taken ⊆ d'.taken
  requests : ∀ (n : ℕ) x, d.requests[n]? = some x → d'.requests[n]? = some x
  stored : ∀ tenantId x, stored d' tenantId = some x → x ∈ d.taken →
    HonestClient.stored d tenantId = some x

theorem Later.refl (d : SessionStore) : Later d d where
  rows r hr := ⟨r, hr, rfl, rfl, rfl⟩
  taken := List.Subset.refl _
  requests _ _ h := h
  stored _ _ h _ := h

theorem Later.trans {d₁ d₂ d₃ : SessionStore} (h : Later d₁ d₂) (h' : Later d₂ d₃) :
    Later d₁ d₃ where
  rows r hr := by
    obtain ⟨r₂, hr₂, hid, hhash, huser⟩ := h.rows r hr
    obtain ⟨r₃, hr₃, hid', hhash', huser'⟩ := h'.rows r₂ hr₂
    exact ⟨r₃, hr₃, hid'.trans hid, hhash'.trans hhash, huser'.trans huser⟩
  taken := List.Subset.trans h.taken h'.taken
  requests n x hx := h'.requests n x (h.requests n x hx)
  stored tenantId x hx ht := h.stored tenantId x (h'.stored tenantId x hx (h.taken ht)) ht

/-- A fact that stays true. -/
def Persistent (P : SessionStore → Prop) : Prop := ∀ d d', Later d d' → P d → P d'

/-- The token in the hands of a process, and what the process knows. -/
structure Stage where
  right : Option String := none
  fresh : Bool := false
  knows : SessionStore → Prop := fun _ => True

namespace Stage

structure Holds (d : SessionStore) (g : Stage) : Prop where
  persistent : Persistent g.knows
  knows : g.knows d
  live : ∀ h, g.right = some h → Live d h
  alone : ∀ h, g.right = some h → ∀ p, holder d p ≠ some h
  unseen : ∀ h, g.right = some h → g.fresh = true → Unseen d h

end Stage

section Facts

variable {tenantOf : UUID → UUID} {P B : SessionStore → Prop} {x : String} {n : ℕ} {tenantId : UUID}

theorem Persistent.true : Persistent fun _ => True := fun _ _ _ _ => trivial

theorem Persistent.and (hP : Persistent P) (hB : Persistent B) : Persistent fun d => P d ∧ B d :=
  fun d d' hl h => ⟨hP d d' hl h.1, hB d d' hl h.2⟩

theorem persistent_taken : Persistent fun d => x ∈ d.taken := fun _ _ hl h => hl.taken h

theorem persistent_sent : Persistent fun d => d.requests[n]? = some x :=
  fun _ _ hl h => hl.requests n x h

theorem persistent_owned : Persistent fun d => Owned tenantOf d x tenantId := by
  rintro d d' hl ⟨r, hr, hhash, huser⟩
  obtain ⟨r', hr', -, hhash', huser'⟩ := hl.rows r hr
  exact ⟨r', hr', hhash'.trans hhash, (congrArg tenantOf huser').trans huser⟩

theorem persistent_answers {r : TokenResponse} : Persistent fun d => Answers tenantOf d n r := by
  rintro d d' hl ⟨⟨x, hx, howned⟩, hnew⟩
  exact ⟨⟨x, hl.requests n x hx, persistent_owned d d' hl howned⟩, persistent_owned d d' hl hnew⟩

/-- A token that was taken is stored under the given keys only. -/
theorem persistent_within {keys : List StorageKey} : Persistent fun d =>
    x ∈ d.taken ∧ ∀ tenantId, stored d tenantId = some x → StorageKey.refresh tenantId ∈ keys :=
  fun _ _ hl h => ⟨hl.taken h.1, fun t ht => h.2 t (hl.stored t x ht h.1)⟩

end Facts

/-- What a step of one process owes, when it puts a token at the place `p₀` at most. -/
structure Effect (tenantOf : UUID → UUID) (p₀ : Place) (d d' : SessionStore) (g g' : Stage) :
    Prop where
  server : ServerSound tenantOf d'.server
  later : Later d d'
  live : ∀ h, Live d h → Live d' h ∨ g.right = some h ∧ ∀ p, holder d' p ≠ some h
  holder : ∀ p h, holder d' p = some h →
    HonestClient.holder d p = some h ∨ p = p₀ ∧ g.right = some h
  seen : ∀ x ∈ d'.taken, x ∈ d.taken ∨ ∃ tenantId, HonestClient.holder d (.stored tenantId) =
    some (sha256 x)
  stored : ∀ tenantId x, stored d' tenantId = some x →
    HonestClient.stored d tenantId = some x ∨ Owned tenantOf d' x tenantId ∧ x ∉ d'.taken
  ended : ∀ x ∈ d'.ended, x ∈ d.ended ∨ x ∈ d.taken ∧ ∀ tenantId, HonestClient.stored d' tenantId ≠
    some x
  responses : ∀ n r, d'.responses.lookup n = some (.ok r) → d.responses.lookup n = some (.ok r) ∨
    g.right = some (sha256 r.refresh_token) ∧ g.fresh = true ∧ Answers tenantOf d' n r
  persistent : Persistent g'.knows
  knows : g'.knows d'
  right : ∀ h, g'.right = some h → Live d' h ∧ (∀ p, HonestClient.holder d' p ≠ some h) ∧
    (g'.fresh = true → Unseen d' h)
  gain : ∀ h, g'.right = some h →
    g.right = some h ∨ (∃ p, HonestClient.holder d p = some h) ∨ ¬ Live d h

def discipline (tenantOf : UUID → UUID) : Discipline SessionStmt SessionStmt.Res Unit Exn
    SessionStore Env UUID SessionCall Stage String where
  machine := sessionMachine
  rules := rules tenantOf
  base := Sound tenantOf
  own d _ g := g.Holds d
  token := Stage.right
  guar := Later
  guar_refl := Later.refl
  guar_trans _ _ _ := Later.trans

variable {tenantOf : UUID → UUID} {d d' : SessionStore} {g g' : Stage} {p₀ : Place}
  {l : Local SessionStmt Unit Env} {ks : List UUID}

/-- A hash that is unseen and at no stored place stays unseen. -/
theorem Effect.unseen {token_hash : String} (h : Effect tenantOf p₀ d d' g g')
    (hunseen : Unseen d token_hash)
    (hplace : ∀ tenantId, HonestClient.holder d (.stored tenantId) ≠ some token_hash) :
    Unseen d' token_hash := by
  intro x hx heq
  rcases h.seen x hx with hx | ⟨tenantId, hx⟩
  · exact hunseen x hx heq
  · exact hplace tenantId (heq ▸ hx)

section Effect

variable (h : Effect tenantOf p₀ d d' g g') (hb : Sound tenantOf d) (ho : g.Holds d)

include h hb ho

theorem Effect.sound : Sound tenantOf d' where
  server := h.server
  apart p p' t hp hp' := by
    rcases h.holder p t hp with hp | ⟨rfl, ht⟩
    · rcases h.holder p' t hp' with hp' | ⟨rfl, ht⟩
      · exact hb.apart p p' t hp hp'
      · exact absurd hp (ho.alone t ht p)
    · rcases h.holder p' t hp' with hp' | ⟨rfl, -⟩
      · exact absurd hp' (ho.alone t ht p')
      · rfl
  live p t hp := by
    have hlive : Live d t := by
      rcases h.holder p t hp with hp' | ⟨-, ht⟩
      · exact hb.live p t hp'
      · exact ho.live t ht
    rcases h.live t hlive with hlive | ⟨-, hnone⟩
    · exact hlive
    · exact absurd hp (hnone p)
  owned tenantId x hx := by
    rcases h.stored tenantId x hx with hold | ⟨howned, htaken⟩
    · obtain ⟨howned, hended⟩ := hb.owned tenantId x hold
      refine ⟨persistent_owned d d' h.later howned, fun hx' => ?_⟩
      rcases h.ended x hx' with hx' | ⟨-, hnone⟩
      · exact hended hx'
      · exact hnone tenantId hx
    · refine ⟨howned, fun hx' => htaken (h.later.taken ?_)⟩
      rcases h.ended x hx' with hx' | ⟨hx', -⟩
      · exact hb.ended hx'
      · exact hx'
  known x hx := by
    have hrow : ∃ r ∈ d.server.refresh_tokens, r.token_hash = sha256 x := by
      rcases h.seen x hx with hx | ⟨tenantId, hx⟩
      · exact hb.known x hx
      · obtain ⟨r, hr, hhash, -⟩ := hb.live _ _ hx
        exact ⟨r, hr, hhash⟩
    obtain ⟨r, hr, hhash⟩ := hrow
    obtain ⟨r', hr', -, hhash', -⟩ := h.later.rows r hr
    exact ⟨r', hr', hhash'.trans hhash⟩
  ended x hx := by
    rcases h.ended x hx with hx | ⟨hx, -⟩
    · exact h.later.taken (hb.ended hx)
    · exact h.later.taken hx
  responses n r hr := by
    rcases h.responses n r hr with hold | ⟨hright, hfresh, hanswers⟩
    · obtain ⟨hunseen, hanswers⟩ := hb.responses n r hold
      refine ⟨h.unseen hunseen fun tenantId ht => ?_, persistent_answers d d' h.later hanswers⟩
      have hplace : HonestClient.holder d (.response n) = some (sha256 r.refresh_token) := by
        rw [HonestClient.holder, hold]
        rfl
      cases hb.apart _ _ _ ht hplace
    · exact ⟨h.unseen (ho.unseen _ hright hfresh) fun t => ho.alone _ hright _, hanswers⟩

theorem Effect.moves : (discipline tenantOf).Moves ks d d' l g l g' where
  base := h.sound hb ho
  own :=
    { persistent := h.persistent
      knows := h.knows
      live := fun t ht => (h.right t ht).1
      alone := fun t ht => (h.right t ht).2.1
      unseen := fun t ht => (h.right t ht).2.2 }
  stable _ g₂ ho₂ hapart := by
    have ho₂ : g₂.Holds d := ho₂
    have hne : ∀ t, g₂.right = some t → g.right ≠ some t := fun t ht hg => hapart t hg ht
    exact
      { persistent := ho₂.persistent
        knows := ho₂.persistent d d' h.later ho₂.knows
        live := fun t ht => (h.live t (ho₂.live t ht)).resolve_right fun hg => hne t ht hg.1
        alone := by
          intro t ht p hp
          rcases h.holder p t hp with hp | ⟨-, hg⟩
          · exact ho₂.alone t ht p hp
          · exact hne t ht hg
        unseen := fun t ht hfresh =>
          h.unseen (ho₂.unseen t ht hfresh) fun _ => ho₂.alone t ht _ }
  token t ht := by
    rcases h.gain t ht with hg | hplace | hdead
    · exact .inl hg
    · refine .inr fun _ g₂ ho₂ _ ht₂ => ?_
      obtain ⟨p, hp⟩ := hplace
      exact Stage.Holds.alone (g := g₂) ho₂ t ht₂ p hp
    · exact .inr fun _ g₂ ho₂ _ ht₂ => hdead (Stage.Holds.live (g := g₂) ho₂ t ht₂)
  shared _ _ := trivial
  guar := h.later

end Effect

section Steps

variable {P : SessionStore → Prop} {x h : String} {n : ℕ} {tenantId : UUID}

theorem holder_stored : holder d (.stored tenantId) = some h ↔
    ∃ x, stored d tenantId = some x ∧ x ∉ d.taken ∧ sha256 x = h := by
  rw [holder, Option.bind_eq_some_iff]
  apply exists_congr
  intro x
  by_cases hx : x ∈ d.taken <;> simp [hx]

theorem holder_request : holder d (.request n) = some h ↔
    n ∉ d.accepted ∧ ∃ x, d.requests[n]? = some x ∧ sha256 x = h := by
  rw [holder]
  by_cases hn : n ∈ d.accepted <;> simp [hn]

theorem holder_response : holder d (.response n) = some h ↔
    ∃ r, d.responses.lookup n = some (.ok r) ∧ sha256 r.refresh_token = h := by
  rw [holder, Option.bind_eq_some_iff]
  constructor
  · rintro ⟨r, hr, hh⟩
    cases r with
    | ok r => exact ⟨r, hr, Option.some.inj hh⟩
    | error e => cases hh
  · rintro ⟨r, hr, hh⟩
    exact ⟨.ok r, hr, congrArg some hh⟩

/-- A step that brings no token to any place and changes no token at the server. -/
structure Drops (d d' : SessionStore) : Prop where
  rows : d'.server.refresh_tokens = d.server.refresh_tokens
  taken : d'.taken = d.taken
  requests : d'.requests = d.requests
  accepted : d.accepted ⊆ d'.accepted
  stored : ∀ tenantId x, stored d' tenantId = some x → HonestClient.stored d tenantId = some x
  ended : ∀ x ∈ d'.ended, x ∈ d.ended ∨ x ∈ d.taken ∧ ∀ tenantId, HonestClient.stored d' tenantId ≠
    some x
  responses : ∀ n r, d'.responses.lookup n = some (.ok r) → d.responses.lookup n = some (.ok r)

theorem Drops.holder (hs : Drops d d') (p : Place) (hp : holder d' p = some h) :
    HonestClient.holder d p = some h := by
  cases p with
  | stored tenantId =>
      obtain ⟨x, hx, htaken, hh⟩ := holder_stored.mp hp
      exact holder_stored.mpr ⟨x, hs.stored _ _ hx, hs.taken ▸ htaken, hh⟩
  | request n =>
      obtain ⟨hn, x, hx, hh⟩ := holder_request.mp hp
      exact holder_request.mpr ⟨fun h => hn (hs.accepted h), x, hs.requests ▸ hx, hh⟩
  | response n =>
      obtain ⟨r, hr, hh⟩ := holder_response.mp hp
      exact holder_response.mpr ⟨r, hs.responses n r hr, hh⟩

theorem Drops.live (hs : Drops d d') (hh : Live d h) : Live d' h := by
  rw [Live, hs.rows]
  exact hh

theorem Drops.unseen (hs : Drops d d') (hh : Unseen d h) : Unseen d' h := by
  rw [Unseen, hs.taken]
  exact hh

theorem Drops.later (hs : Drops d d') : Later d d' where
  rows r hr := ⟨r, hs.rows ▸ hr, rfl, rfl, rfl⟩
  taken := hs.taken ▸ List.Subset.refl _
  requests _ _ hx := hs.requests ▸ hx
  stored tenantId x hx _ := hs.stored tenantId x hx

/-- The process keeps what it has, or takes the token from the place `p`. -/
theorem Drops.effect (hs : Drops d d') (hserver : ServerSound tenantOf d'.server)
    (hb : Sound tenantOf d) (ho : g.Holds d) (hP : Persistent g'.knows) (hd' : g'.knows d')
    (hright : ∀ h, g'.right = some h → (g.right = some h ∧ (g'.fresh = true → g.fresh = true)) ∨
      (∃ p, HonestClient.holder d p = some h ∧ HonestClient.holder d' p = none) ∧
        (g'.fresh = true → Unseen d h)) : Effect tenantOf p₀ d d' g g' where
  server := hserver
  later := hs.later
  live h hh := .inl (hs.live hh)
  holder p h hp := .inl (hs.holder p hp)
  seen x hx := .inl (hs.taken ▸ hx)
  stored tenantId x hx := .inl (hs.stored tenantId x hx)
  ended := hs.ended
  responses n r hr := .inl (hs.responses n r hr)
  persistent := hP
  knows := hd'
  right h hh := by
    rcases hright h hh with ⟨hg, hfresh⟩ | ⟨⟨p, hp, hp'⟩, hfresh⟩
    · exact ⟨hs.live (ho.live h hg), fun p hp => ho.alone h hg p (hs.holder p hp),
        fun hf => hs.unseen (ho.unseen h hg (hfresh hf))⟩
    · refine ⟨hs.live (hb.live p h hp), fun q hq => ?_, fun hf => hs.unseen (hfresh hf)⟩
      obtain rfl := hb.apart p q h hp (hs.holder q hq)
      rw [hp'] at hq
      cases hq
  gain h hh := by
    rcases hright h hh with ⟨hg, -⟩ | ⟨⟨p, hp, -⟩, -⟩
    · exact .inl hg
    · exact .inr (.inl ⟨p, hp⟩)

/-- The process keeps its token. -/
theorem Drops.stays (hs : Drops d d') (hserver : ServerSound tenantOf d'.server)
    (hb : Sound tenantOf d) (ho : g.Holds d) (hP : Persistent P) (hd' : P d') :
    Effect tenantOf p₀ d d' g { g with knows := P } :=
  hs.effect hserver hb ho hP hd' fun _ hh => .inl ⟨hh, id⟩

theorem Drops.refl (d : SessionStore) : Drops d d :=
  ⟨rfl, rfl, rfl, List.Subset.refl _, fun _ _ h => h, fun _ h => .inl h, fun _ _ h => h⟩

/-- A tab takes a token that nobody has taken before. -/
theorem effect_take (hx : stored d tenantId = some x) (hnew : x ∉ d.taken)
    (hb : Sound tenantOf d) : Effect tenantOf p₀ d { d with taken := d.taken ++ [x] } g
      { right := some (sha256 x), knows := fun d => x ∈ d.taken } where
  server := hb.server
  later :=
    { rows := fun r hr => ⟨r, hr, rfl, rfl, rfl⟩
      taken := List.subset_append_left _ _
      requests := fun _ _ h => h
      stored := fun _ _ h _ => h }
  live h hh := .inl hh
  holder p h hp := by
    left
    cases p with
    | stored t =>
        obtain ⟨y, hy, htaken, hh⟩ := holder_stored.mp hp
        exact holder_stored.mpr ⟨y, hy, fun h => htaken (List.mem_append_left _ h), hh⟩
    | request n => exact hp
    | response n => exact hp
  seen y hy := by
    rcases List.mem_append.mp hy with hy | hy
    · exact .inl hy
    · rw [List.mem_singleton.mp hy]
      exact .inr ⟨tenantId, holder_stored.mpr ⟨x, hx, hnew, rfl⟩⟩
  stored _ _ h := .inl h
  ended _ h := .inl h
  responses _ _ h := .inl h
  persistent := persistent_taken
  knows := List.mem_append_right _ (List.mem_singleton_self _)
  right h hh := by
    cases hh
    have hplace := holder_stored.mpr ⟨x, hx, hnew, rfl⟩
    refine ⟨hb.live _ _ hplace, fun p hp => ?_, fun hf => by cases hf⟩
    cases p with
    | stored t =>
        obtain ⟨y, hy, htaken, hh⟩ := holder_stored.mp hp
        have hy' : y ∉ d.taken := fun h => htaken (List.mem_append_left _ h)
        cases hb.apart _ _ _ (holder_stored.mpr ⟨y, hy, hy', hh⟩) hplace
        have heq : y = x := Option.some.inj (hy.symm.trans hx)
        rw [heq] at htaken
        exact htaken (List.mem_append_right _ (List.mem_singleton_self _))
    | request n => cases hb.apart (.request n) (.stored tenantId) _ hp hplace
    | response n => cases hb.apart (.response n) (.stored tenantId) _ hp hplace
  gain h hh := by
    cases hh
    exact .inr (.inl ⟨_, holder_stored.mpr ⟨x, hx, hnew, rfl⟩⟩)

/-- The process gives its token away. -/
theorem effect_put (hserver : d'.server = d.server) (htaken : d'.taken = d.taken)
    (hended : d'.ended = d.ended) (hlater : Later d d')
    (hplace : ∀ p h, holder d' p = some h → holder d p = some h ∨ p = p₀ ∧ g.right = some h)
    (hstored : ∀ tenantId x, stored d' tenantId = some x →
      stored d tenantId = some x ∨ Owned tenantOf d' x tenantId ∧ x ∉ d'.taken)
    (hresponses : ∀ n r, d'.responses.lookup n = some (.ok r) →
      d.responses.lookup n = some (.ok r) ∨
        g.right = some (sha256 r.refresh_token) ∧ g.fresh = true ∧ Answers tenantOf d' n r)
    (hb : Sound tenantOf d) (hP : Persistent P) (hd' : P d') :
    Effect tenantOf p₀ d d' g { knows := P } where
  server := hserver ▸ hb.server
  later := hlater
  live h hh := .inl (by rw [Live, hserver]; exact hh)
  holder := hplace
  seen x hx := .inl (htaken ▸ hx)
  stored := hstored
  ended x hx := .inl (hended ▸ hx)
  responses := hresponses
  persistent := hP
  knows := hd'
  right h hh := by cases hh
  gain h hh := by cases hh

/-- The server revokes the token that the process presents. -/
theorem effect_revoke {id : UUID} (hright : g.right = some h)
    (hrow : ∃ r ∈ d.server.refresh_tokens, r.id = id ∧ r.token_hash = h) (hb : Sound tenantOf d)
    (ho : g.Holds d) (hP : Persistent P)
    (hd' : P { d with server := d.server.revoke fun r => r.id == id }) :
    Effect tenantOf p₀ d { d with server := d.server.revoke fun r => r.id == id } g
      { knows := P } where
  server :=
    { users := hb.server.users
      ids := by
        rw [TokenFamilies.map_revoke _ fun _ => rfl]
        exact hb.server.ids
      hashes := by
        rw [TokenFamilies.map_revoke _ fun _ => rfl]
        exact hb.server.hashes
      reused := hb.server.reused
      detected := hb.server.detected }
  later :=
    { rows := fun r hr => by
        refine ⟨_, List.mem_map_of_mem hr, ?_⟩
        split <;> exact ⟨rfl, rfl, rfl⟩
      taken := List.Subset.refl _
      requests := fun _ _ h => h
      stored := fun _ _ h _ => h }
  live t ht := by
    by_cases hht : h = t
    · exact .inr ⟨hht ▸ hright, fun p => ho.alone t (hht ▸ hright) p⟩
    · left
      obtain ⟨r, hr, hhash, hlive⟩ := ht
      obtain ⟨r₀, hr₀, hid₀, hhash₀⟩ := hrow
      have hne : (r.id == id) = false := by
        rw [beq_eq_false_iff_ne]
        intro hid
        obtain rfl := List.inj_on_of_nodup_map hb.server.ids hr hr₀ (hid.trans hid₀.symm)
        exact hht (hhash₀.symm.trans hhash)
      refine ⟨r, List.mem_map.mpr ⟨r, hr, ?_⟩, hhash, hlive⟩
      simp [hne]
  holder _ _ hp := .inl hp
  seen _ hx := .inl hx
  stored _ _ hx := .inl hx
  ended _ hx := .inl hx
  responses _ _ hr := .inl hr
  persistent := hP
  knows := hd'
  right h hh := by cases hh
  gain h hh := by cases hh

/-- The server issues a token. -/
theorem effect_insert {row : RefreshToken} (hhash : row.token_hash = h) (hlive : row.revoked = false)
    (hid : ∀ r ∈ d.server.refresh_tokens, r.id ≠ row.id)
    (hnew : ∀ r ∈ d.server.refresh_tokens, r.token_hash ≠ h) (hb : Sound tenantOf d)
    (hP : Persistent P) (hd' : P { d with server := { d.server with
      refresh_tokens := d.server.refresh_tokens ++ [row] } }) :
    Effect tenantOf p₀ d { d with server := { d.server with
      refresh_tokens := d.server.refresh_tokens ++ [row] } } g
      { right := some h, fresh := true, knows := P } where
  server :=
    { users := hb.server.users
      ids := nodup_map_concat _ hb.server.ids hid
      hashes := nodup_map_concat _ hb.server.hashes (hhash ▸ hnew)
      reused := hb.server.reused
      detected := hb.server.detected }
  later :=
    { rows := fun r hr => ⟨r, List.mem_append_left _ hr, rfl, rfl, rfl⟩
      taken := List.Subset.refl _
      requests := fun _ _ h => h
      stored := fun _ _ h _ => h }
  live t ht := by
    obtain ⟨r, hr, hh, hl⟩ := ht
    exact .inl ⟨r, List.mem_append_left _ hr, hh, hl⟩
  holder _ _ hp := .inl hp
  seen _ hx := .inl hx
  stored _ _ hx := .inl hx
  ended _ hx := .inl hx
  responses _ _ hr := .inl hr
  persistent := hP
  knows := hd'
  right t ht := by
    cases ht
    refine ⟨⟨row, List.mem_append_right _ (List.mem_singleton_self _), hhash, hlive⟩,
      fun p hp => ?_, fun _ x hx heq => ?_⟩
    · obtain ⟨r, hr, hh, -⟩ := hb.live p h hp
      exact hnew r hr hh
    · obtain ⟨r, hr, hh⟩ := hb.known x hx
      exact hnew r hr (hh.trans heq)
  gain t ht := by
    cases ht
    exact .inr (.inr fun ⟨r, hr, hh, _⟩ => hnew r hr hh)

end Steps

end HonestClient

end FrixelConnect
