import FrixelConnect.RefreshTokens
import FrixelConnect.Effects
import FrixelConnect.Interleaving.Discipline

/-!
# Families of refresh tokens

A rotation reads its token, and revokes it and issues the next one later. Each
token is exchanged once, a family has one usable token at most, and a family in
which a reuse was detected stays closed, in every run in which a rotation still
finds its token unrevoked when it revokes it and its family open when it issues
the next one.
-/

namespace FrixelConnect

namespace TokenFamilies

open Calendar Python Interleaving

/-- The columns that no statement changes. -/
def Same (r rt : RefreshToken) : Prop :=
  r.id = rt.id ∧ r.token_hash = rt.token_hash ∧ r.family_id = rt.family_id

def Known (d : TokenStore) (rt : RefreshToken) : Prop := ∃ r ∈ d.refresh_tokens, Same r rt

def Spent (d : TokenStore) (rt : RefreshToken) : Prop :=
  ∃ r ∈ d.refresh_tokens, Same r rt ∧ r.revoked = true

/-- The number of usable tokens of a family. -/
def live (d : TokenStore) (family_id : UUID) : ℕ :=
  d.refresh_tokens.countP fun r => r.family_id == family_id && !r.revoked

/-- No token belongs to the family. -/
def Unused (d : TokenStore) (family_id : UUID) : Prop :=
  ∀ r ∈ d.refresh_tokens, r.family_id ≠ family_id

/-- The constraints of the table, and families that are closed stay closed. -/
structure Sound (d : TokenStore) : Prop where
  ids : (d.refresh_tokens.map (·.id)).Nodup
  hashes : (d.refresh_tokens.map (·.token_hash)).Nodup
  closed : ∀ r ∈ d.refresh_tokens, r.family_id ∈ d.detected → r.revoked = true

/-- How far a call has come. -/
inductive Stage where
  | idle
  | drew (family_id : UUID)
  | read (rt : RefreshToken)
  | revoked (rt : RefreshToken)
  | exchanged (rt : RefreshToken)

namespace Stage

/-- What the call knows about the store. -/
def Holds (d : TokenStore) : Stage → Prop
  | .idle => True
  | .drew family_id => family_id ∈ d.drawn ∧ Unused d family_id
  | .read rt => Known d rt
  | .revoked rt => Spent d rt
  | .exchanged rt => Spent d rt

/-- A family that was drawn and a token that was revoked belong to one call. -/
def token : Stage → Option (UUID ⊕ String)
  | .drew family_id => some (.inl family_id)
  | .revoked rt => some (.inr rt.token_hash)
  | .exchanged rt => some (.inr rt.token_hash)
  | _ => none

/-- The call owes the family its next token. -/
def owes (family_id : UUID) : Stage → Bool
  | .revoked rt => rt.family_id == family_id
  | _ => false

end Stage

/-- The family id that was drawn is new. -/
def FreshFamily (d : TokenStore) : Choice Exn Env → Prop
  | .run v => v.uuid ∉ d.drawn ∧ Unused d v.uuid
  | .fail _ => True

/-- Runs in which a rotation finds its token unrevoked when it revokes it, no token is issued into
a family in which a reuse was detected, and family ids are never drawn twice. Users and tenants
change in any way. -/
def rules : TokenRules where
  stmt s c d := match s with
    | .revoke_token id => c.isRun = true → ∀ r ∈ d.refresh_tokens, r.id = id → r.revoked = false
    | .insert_refresh_token _ _ family_id _ => c.isRun = true → family_id ∉ d.detected
    | .uuid4 => FreshFamily d c
    | _ => True
  edit d d' := d'.refresh_tokens = d.refresh_tokens ∧ d'.detected = d.detected ∧ d'.drawn = d.drawn

/-- A family in which a reuse was detected gets no further token. -/
def Closed (d d' : TokenStore) : Prop :=
  ∀ family_id ∈ d.detected, family_id ∈ d'.detected ∧
    ∀ r' ∈ d'.refresh_tokens, r'.family_id = family_id → Known d r'

theorem Closed.refl (d : TokenStore) : Closed d d :=
  fun _ hf => ⟨hf, fun r hr _ => ⟨r, hr, rfl, rfl, rfl⟩⟩

theorem Closed.trans {d₁ d₂ d₃ : TokenStore} (h : Closed d₁ d₂) (h' : Closed d₂ d₃) :
    Closed d₁ d₃ := by
  intro family_id hf
  obtain ⟨hf₂, hrows⟩ := h family_id hf
  obtain ⟨hf₃, hrows'⟩ := h' family_id hf₂
  refine ⟨hf₃, fun r₃ hr₃ hfamily => ?_⟩
  obtain ⟨r₂, hr₂, hid, hhash, hfam⟩ := hrows' r₃ hr₃ hfamily
  obtain ⟨r₁, hr₁, hid', hhash', hfam'⟩ := hrows r₂ hr₂ (hfam.trans hfamily)
  exact ⟨r₁, hr₁, hid'.trans hid, hhash'.trans hhash, hfam'.trans hfam⟩

/-- Each family has one usable token or one call that owes it one, and not both. -/
def Balanced (d : TokenStore) (gs : Multiset Stage) : Prop :=
  ∀ family_id, live d family_id + gs.countP (·.owes family_id) ≤ 1 ∧
    (Unused d family_id → gs.countP (·.owes family_id) = 0)

def discipline : Discipline TokenStmt TokenStmt.Res Unit Exn TokenStore Env UUID TokenCall Stage
    (UUID ⊕ String) where
  machine := tokenMachine
  rules := rules
  base := Sound
  own d _ g := g.Holds d
  token := Stage.token
  shared := Balanced
  guar := Closed
  guar_refl := Closed.refl
  guar_trans _ _ _ := Closed.trans

variable {d d' : TokenStore} {g g' : Stage} {l : Local TokenStmt Unit Env} {rt : RefreshToken}
  {ks : List UUID}

theorem owes_none (h : g'.token = none) (family_id : UUID) : g'.owes family_id = false := by
  cases g' <;> first | rfl | cases h

/-- A step that leaves the tokens as they are. -/
theorem moves_quiet (hrows : d'.refresh_tokens = d.refresh_tokens)
    (hdetected : d'.detected = d.detected) (hdrawn : d.drawn ⊆ d'.drawn) (hb : Sound d)
    (ho : g'.Holds d') (ht : g'.token = none ∨ g' = g) :
    discipline.Moves ks d d' l g l g' where
  base := ⟨hrows ▸ hb.ids, hrows ▸ hb.hashes, by rw [hrows, hdetected]; exact hb.closed⟩
  own := ho
  stable l₂ g₂ h _ := by
    change g₂.Holds d'
    have h : g₂.Holds d := h
    cases g₂ with
    | idle => trivial
    | drew family_id => exact ⟨hdrawn h.1, by rw [Unused, hrows]; exact h.2⟩
    | _ => simpa only [Stage.Holds, Known, Spent, hrows] using h
  token t h := by
    rcases ht with ht | rfl
    · have h : g'.token = some t := h
      rw [ht] at h
      cases h
    · exact .inl h
  shared gs h := by
    intro family_id
    obtain ⟨hone, hzero⟩ := h family_id
    rw [Multiset.countP_cons] at hone hzero
    rw [Multiset.countP_cons, live, Unused, hrows]
    rcases ht with ht | rfl
    · rw [owes_none ht]
      simp only [Bool.false_eq_true, if_false, add_zero]
      rw [live] at hone
      exact ⟨by omega, fun hunused => by have := hzero hunused; omega⟩
    · exact ⟨hone, hzero⟩
  guar := by
    intro family_id hf
    rw [hdetected, hrows]
    exact Closed.refl d family_id hf

theorem moves_stay (hb : Sound d) (ho : g.Holds d) : discipline.Moves ks d d l g l g :=
  moves_quiet rfl rfl (List.Subset.refl _) hb ho (.inr rfl)

/-- A look-up leaves the tokens as they are. -/
theorem moves_selected {token_hash : String} {v : Env}
    {found : Option (RefreshToken × User × Tenant)}
    (he : (TokenStmt.select_refresh_token token_hash).eval v d = .ok (found, d')) (hb : Sound d)
    (ho : g'.Holds d) (ht : g'.token = none ∨ g' = g) : discipline.Moves ks d d' l g l g' := by
  have hrows : d'.refresh_tokens = d.refresh_tokens ∧ d'.detected = d.detected ∧
      d'.drawn = d.drawn := by
    rw [TokenStmt.eval_select_store he]
    split <;> exact ⟨rfl, rfl, rfl⟩
  obtain ⟨hrows, hdetected, hdrawn⟩ := hrows
  refine moves_quiet hrows hdetected (hdrawn ▸ List.Subset.refl _) hb ?_ ht
  cases g' with
  | idle => trivial
  | drew f => exact ⟨hdrawn ▸ ho.1, by rw [Unused, hrows]; exact ho.2⟩
  | _ => simpa only [Stage.Holds, Known, Spent, hrows] using ho

/-- A call gives up. -/
theorem moves_idle (hb : Sound d) : discipline.Moves ks d d l g l .idle :=
  moves_quiet rfl rfl (List.Subset.refl _) hb trivial (.inl rfl)

section Revoke

variable {p : RefreshToken → Bool}

/-- Revoking changes no other column. -/
theorem mem_revoke {r' : RefreshToken} (h : r' ∈ (d.revoke p).refresh_tokens) :
    ∃ r ∈ d.refresh_tokens, Same r r' ∧ (r'.revoked = true ∨ r' = r ∧ p r = false) := by
  obtain ⟨r, hr, rfl⟩ := List.mem_map.mp h
  refine ⟨r, hr, ?_⟩
  cases hp : p r with
  | true => exact ⟨⟨rfl, rfl, rfl⟩, .inl rfl⟩
  | false => exact ⟨⟨rfl, rfl, rfl⟩, .inr ⟨rfl, rfl⟩⟩

theorem mem_revoke_of_mem {r : RefreshToken} (h : r ∈ d.refresh_tokens) :
    ∃ r' ∈ (d.revoke p).refresh_tokens, Same r r' ∧ (r.revoked = true ∨ p r = true →
      r'.revoked = true) := by
  refine ⟨_, List.mem_map_of_mem h, ?_⟩
  cases hp : p r with
  | true => exact ⟨⟨rfl, rfl, rfl⟩, fun _ => rfl⟩
  | false => exact ⟨⟨rfl, rfl, rfl⟩, fun hr => hr.resolve_right (by simp)⟩

theorem known_revoke (h : Known d rt) : Known (d.revoke p) rt := by
  obtain ⟨r, hr, hid, hhash, hfamily⟩ := h
  obtain ⟨r', hr', ⟨hid', hhash', hfamily'⟩, -⟩ := mem_revoke_of_mem (p := p) hr
  exact ⟨r', hr', hid'.symm.trans hid, hhash'.symm.trans hhash, hfamily'.symm.trans hfamily⟩

theorem spent_revoke (h : Spent d rt) : Spent (d.revoke p) rt := by
  obtain ⟨r, hr, ⟨hid, hhash, hfamily⟩, hrevoked⟩ := h
  obtain ⟨r', hr', ⟨hid', hhash', hfamily'⟩, hkeep⟩ := mem_revoke_of_mem (p := p) hr
  exact ⟨r', hr', ⟨hid'.symm.trans hid, hhash'.symm.trans hhash, hfamily'.symm.trans hfamily⟩,
    hkeep (.inl hrevoked)⟩

theorem unused_revoke {family_id : UUID} :
    Unused (d.revoke p) family_id ↔ Unused d family_id := by
  constructor
  · intro h r hr hfamily
    obtain ⟨r', hr', ⟨-, -, hfamily'⟩, -⟩ := mem_revoke_of_mem (p := p) hr
    exact h r' hr' (hfamily'.symm.trans hfamily)
  · intro h r' hr' hfamily
    obtain ⟨r, hr, ⟨-, -, hfamily'⟩, -⟩ := mem_revoke hr'
    exact h r hr (hfamily'.trans hfamily)

theorem holds_revoke (h : g.Holds d) : g.Holds (d.revoke p) := by
  cases g with
  | idle => trivial
  | drew family_id => exact ⟨h.1, unused_revoke.mpr h.2⟩
  | read rt => exact known_revoke h
  | revoked rt => exact spent_revoke h
  | exchanged rt => exact spent_revoke h

/-- Revoking changes no column that it leaves alone. -/
theorem map_revoke {α : Type} (f : RefreshToken → α) (hf : ∀ r, f { r with revoked := true } = f r) :
    (d.revoke p).refresh_tokens.map f = d.refresh_tokens.map f := by
  simp only [TokenStore.revoke, updateRows, List.map_map]
  apply List.map_congr_left
  intro r _
  by_cases hp : p r = true
  · simp [hp, hf]
  · simp [hp]

theorem sound_revoke (h : Sound d) : Sound (d.revoke p) where
  ids := by
    rw [map_revoke _ fun _ => rfl]
    exact h.ids
  hashes := by
    rw [map_revoke _ fun _ => rfl]
    exact h.hashes
  closed := by
    intro r' hr' hdetected
    obtain ⟨r, hr, ⟨-, -, hfamily⟩, hrevoked | ⟨rfl, -⟩⟩ := mem_revoke hr'
    · exact hrevoked
    · exact h.closed r' hr hdetected

/-- Revoking some rows leaves no more usable tokens. -/
theorem countP_revoke_le (family_id : UUID) (rows : List RefreshToken) :
    (updateRows p (fun r => { r with revoked := true }) rows).countP
        (fun r => r.family_id == family_id && !r.revoked) ≤
      rows.countP fun r => r.family_id == family_id && !r.revoked := by
  rw [updateRows, List.countP_map]
  apply List.countP_mono_left
  intro r _ hr
  by_cases hp : p r = true
  · simp [hp] at hr
  · simpa [hp] using hr

/-- Revoking a usable token leaves one less. -/
theorem live_revoke_lt {r : RefreshToken} (hr : r ∈ d.refresh_tokens) (hp : p r = true)
    (hlive : r.revoked = false) : live (d.revoke p) r.family_id + 1 ≤ live d r.family_id := by
  obtain ⟨before, after, hsplit⟩ := List.append_of_mem hr
  have hbefore := countP_revoke_le (p := p) r.family_id before
  have hafter := countP_revoke_le (p := p) r.family_id after
  rw [live, live, TokenStore.revoke, hsplit]
  simp only [updateRows, List.map_append, List.map_cons, List.countP_append, List.countP_cons, hp,
    hlive] at hbefore hafter ⊢
  simp only [if_true, beq_self_eq_true, Bool.not_true, Bool.and_false, Bool.false_eq_true, if_false,
    Bool.not_false, Bool.and_self]
  omega

end Revoke

/-- A family is closed. -/
theorem moves_detect {family_id : UUID} (hb : Sound d) :
    discipline.Moves ks d { d.revoke fun r => r.family_id == family_id with
      detected := d.detected ++ [family_id] } l g l .idle where
  base :=
    { ids := (sound_revoke hb).ids
      hashes := (sound_revoke hb).hashes
      closed := by
        intro r' hr' hdetected
        obtain ⟨r, hr, ⟨-, -, hfamily⟩, hrevoked | ⟨rfl, hother⟩⟩ := mem_revoke hr'
        · exact hrevoked
        · rcases List.mem_append.mp hdetected with hdetected | hdetected
          · exact hb.closed r' hr hdetected
          · simp [List.mem_singleton.mp hdetected] at hother }
  own := trivial
  stable l₂ g₂ h _ := by
    cases g₂ with
    | idle => trivial
    | drew family_id => exact ⟨h.1, unused_revoke.mpr h.2⟩
    | read rt => exact known_revoke h
    | revoked rt => exact spent_revoke h
    | exchanged rt => exact spent_revoke h
  token t h := by cases h
  shared gs h := by
    intro f
    obtain ⟨hone, hzero⟩ := h f
    rw [Multiset.countP_cons] at hone hzero
    rw [Multiset.countP_cons_of_neg _ (by simp [Stage.owes])]
    have hle : live (d.revoke fun r => r.family_id == family_id) f ≤ live d f :=
      countP_revoke_le f d.refresh_tokens
    refine ⟨?_, fun hunused => ?_⟩
    · change live (d.revoke fun r => r.family_id == family_id) f + _ ≤ 1
      omega
    · have := hzero (unused_revoke.mp hunused)
      omega
  guar := by
    refine fun f hf => ⟨List.mem_append_left _ hf, fun r' hr' _ => ?_⟩
    obtain ⟨r, hr, hsame, -⟩ := mem_revoke hr'
    exact ⟨r, hr, hsame⟩

/-- A rotation revokes its token, which nobody has revoked before. -/
theorem moves_revoke (hb : Sound d) (ho : Known d rt)
    (hfresh : ∀ r ∈ d.refresh_tokens, r.id = rt.id → r.revoked = false) :
    discipline.Moves ks d (d.revoke fun r => r.id == rt.id) l (.read rt) l (.revoked rt) := by
  obtain ⟨r, hr, hid, hhash, hfamily⟩ := ho
  have hp : (r.id == rt.id) = true := beq_iff_eq.mpr hid
  refine ⟨sound_revoke hb, ?_, fun _ g₂ h _ => holds_revoke h, fun t ht => .inr ?_, ?_, ?_⟩
  · obtain ⟨r', hr', ⟨hid', hhash', hfamily'⟩, hrevoked⟩ :=
      mem_revoke_of_mem (p := fun r => r.id == rt.id) hr
    exact ⟨r', hr', ⟨hid'.symm.trans hid, hhash'.symm.trans hhash,
      hfamily'.symm.trans hfamily⟩, hrevoked (.inr hp)⟩
  · -- Another call with the token would have revoked the row.
    cases ht
    intro _ g₂ ho₂ _ ht₂
    have hspent : ∀ rt₂ : RefreshToken, rt₂.token_hash = rt.token_hash → ¬ Spent d rt₂ := by
      rintro rt₂ heq ⟨r₂, hr₂, ⟨-, hhash₂, -⟩, hrevoked⟩
      obtain rfl := List.inj_on_of_nodup_map hb.hashes hr₂ hr
        ((hhash₂.trans heq).trans hhash.symm)
      rw [hfresh r₂ hr hid] at hrevoked
      cases hrevoked
    have ho₂ : g₂.Holds d := ho₂
    cases g₂ with
    | idle => cases ht₂
    | drew _ => cases ht₂
    | read _ => cases ht₂
    | revoked rt₂ => exact hspent rt₂ (Sum.inr.inj (Option.some.inj ht₂)) ho₂
    | exchanged rt₂ => exact hspent rt₂ (Sum.inr.inj (Option.some.inj ht₂)) ho₂
  · intro gs h f
    obtain ⟨hone, hzero⟩ := h f
    rw [Multiset.countP_cons_of_neg _ (by simp [Stage.owes])] at hone hzero
    have hle : live (d.revoke fun r => r.id == rt.id) f ≤ live d f :=
      countP_revoke_le f d.refresh_tokens
    by_cases hf : rt.family_id = f
    · subst hf
      have hlt := live_revoke_lt (p := fun r => r.id == rt.id) hr hp (hfresh r hr hid)
      rw [hfamily] at hlt
      rw [Multiset.countP_cons_of_pos _ (by simp [Stage.owes])]
      exact ⟨by omega, fun hunused => absurd hfamily (unused_revoke.mp hunused r hr)⟩
    · rw [Multiset.countP_cons_of_neg _ (by simpa [Stage.owes] using hf)]
      exact ⟨by omega, fun hunused => hzero (unused_revoke.mp hunused)⟩
  · refine fun f hf => ⟨hf, fun r' hr' _ => ?_⟩
    obtain ⟨r, hr, hsame, -⟩ := mem_revoke hr'
    exact ⟨r, hr, hsame⟩

section Insert

variable {row : RefreshToken}

/-- The store with one token more. -/
def added (d : TokenStore) (row : RefreshToken) : TokenStore :=
  { d with refresh_tokens := d.refresh_tokens ++ [row] }

theorem live_added (hrow : row.revoked = false) (family_id : UUID) :
    live (added d row) family_id =
      live d family_id + if row.family_id = family_id then 1 else 0 := by
  rw [live, added, List.countP_append, List.countP_singleton]
  simp [hrow, live]

theorem unused_of_added {family_id : UUID} (h : Unused (added d row) family_id) :
    Unused d family_id ∧ row.family_id ≠ family_id :=
  ⟨fun r hr => h r (List.mem_append_left _ hr), h row (List.mem_append_right _
    (List.mem_singleton_self _))⟩

theorem known_added (h : Known d rt) : Known (added d row) rt := by
  obtain ⟨r, hr, hsame⟩ := h
  exact ⟨r, List.mem_append_left _ hr, hsame⟩

theorem spent_added (h : Spent d rt) : Spent (added d row) rt := by
  obtain ⟨r, hr, hsame⟩ := h
  exact ⟨r, List.mem_append_left _ hr, hsame⟩

/-- A token is issued into an open family that no other call has drawn. -/
theorem moves_insert (hb : Sound d)
    (hid : ∀ r ∈ d.refresh_tokens, r.id ≠ row.id)
    (hhash : ∀ r ∈ d.refresh_tokens, r.token_hash ≠ row.token_hash)
    (hopen : row.family_id ∉ d.detected) (ho : g'.Holds (added d row))
    (hdrew : ∀ family_id, (Stage.drew family_id).Holds d → g ≠ .drew family_id →
      row.family_id ≠ family_id)
    (ht : g'.token = none ∨ g'.token = g.token)
    (hbalanced : ∀ gs, Balanced d (g ::ₘ gs) → Balanced (added d row) (g' ::ₘ gs)) :
    discipline.Moves ks d (added d row) l g l g' where
  base :=
    { ids := nodup_map_concat _ hb.ids hid
      hashes := nodup_map_concat _ hb.hashes hhash
      closed := by
        intro r hr hdetected
        rcases List.mem_append.mp hr with hr | hr
        · exact hb.closed r hr hdetected
        · rw [List.mem_singleton.mp hr] at hdetected
          exact absurd hdetected hopen }
  own := ho
  stable l₂ g₂ h hapart := by
    cases g₂ with
    | idle => trivial
    | drew family_id =>
        have hne : g ≠ .drew family_id := by
          rintro rfl
          exact hapart _ rfl rfl
        refine ⟨h.1, fun r hr => ?_⟩
        rcases List.mem_append.mp hr with hr | hr
        · exact h.2 r hr
        · rw [List.mem_singleton.mp hr]
          exact hdrew family_id h hne
    | read rt => exact known_added h
    | revoked rt => exact spent_added h
    | exchanged rt => exact spent_added h
  token t h := by
    rcases ht with ht | ht
    · have h : g'.token = some t := h
      rw [ht] at h
      cases h
    · exact .inl (ht.symm.trans h)
  shared := hbalanced
  guar := by
    refine fun f hf => ⟨hf, fun r hr hfamily => ?_⟩
    rcases List.mem_append.mp hr with hr | hr
    · exact ⟨r, hr, rfl, rfl, rfl⟩
    · rw [List.mem_singleton.mp hr] at hfamily
      exact absurd (hfamily ▸ hf) hopen

end Insert

/-- A new family is drawn. -/
theorem moves_draw {family_id : UUID} (hb : Sound d) (hdrawn : family_id ∉ d.drawn)
    (hunused : Unused d family_id) : discipline.Moves ks d
      { d with drawn := d.drawn ++ [family_id] } l .idle l (.drew family_id) where
  base := ⟨hb.ids, hb.hashes, hb.closed⟩
  own := ⟨List.mem_append_right _ (List.mem_singleton_self _), hunused⟩
  stable l₂ g₂ h _ := by
    cases g₂ with
    | drew f => exact ⟨List.mem_append_left _ h.1, h.2⟩
    | _ => exact h
  token t h := by
    refine .inr fun l₂ g₂ ho₂ _ ht₂ => ?_
    cases h
    cases g₂ with
    | drew f =>
        cases ht₂
        exact hdrawn ho₂.1
    | _ => cases ht₂
  shared gs h := by
    intro f
    have hf := h f
    rw [Multiset.countP_cons_of_neg _ (by simp [Stage.owes])] at hf ⊢
    exact hf
  guar := Closed.refl d

/-- Every run of the program keeps the discipline and ends with `Q`. -/
def Does {α : Type} (Q : Except Exn α → Stage → Prop) (p : TokenM α) (g : Stage) : Prop :=
  discipline.protocol.wp (fun r l g => l = {} ∧ Q r g) p {} g

section Calls

variable {α β : Type} {Q : Except Exn β → Stage → Prop}

theorem does_then {B : Except Exn α → Stage → Prop} {p : TokenM α} {f : α → TokenM β}
    (h : Does B p g) (herr : ∀ e g, B (.error e) g → Q (.error e) g)
    (hok : ∀ a g, B (.ok a) g → Does Q (f a) g) : Does Q (p >>= f) g :=
  Discipline.Does.bind h herr hok

theorem does_perform {s : TokenStmt} {Q : Except Exn s.Res → Stage → Prop}
    (hfail : ∀ e, ∃ g', (g'.token = none ∨ g' = g) ∧ (∀ d, g.Holds d → g'.Holds d) ∧ Q (.error e) g')
    (hok : ∀ d v a d', Sound d → g.Holds d → rules.stmt s (.run v) d → s.eval v d = .ok (a, d') →
      ∃ g', discipline.Moves [] d d' {} g {} g' ∧ Q (.ok a) g') : Does Q (perform s) g := by
  refine Discipline.wp_exec tokenMachine_restores (.inr rfl) (fun d e hb ho _ => ?_) ?_
  · obtain ⟨g', ht, hholds, hQ⟩ := hfail e
    exact ⟨g', moves_quiet rfl rfl (List.Subset.refl _) hb (hholds d ho) ht, rfl, hQ⟩
  · intro d v a d' hb ho hrule he
    obtain ⟨g', hm, hQ⟩ := hok d v a d' hb ho hrule (TokenStmt.exec_eq_ok.mp he)
    exact ⟨g', hm, rfl, hQ⟩

/-- A draw or a look at the clock. -/
theorem does_draw {s : TokenStmt} (hs : ∀ v d a d', s.eval v d = .ok (a, d') → d' = d) :
    Does (fun _ g' => g' = g) (perform s) g := by
  refine does_perform (fun e => ⟨g, .inr rfl, fun _ h => h, rfl⟩) fun d v a d' hb ho _ he => ?_
  obtain rfl := hs v d a d' he
  exact ⟨g, moves_stay hb ho, rfl⟩

theorem does_generate (user_id : UUID) :
    Does (fun _ _ => True) (generate_refresh_token user_id) .idle := by
  refine does_then (does_draw fun _ _ _ _ he => by cases he; rfl) (fun _ _ _ => trivial) ?_
  rintro token g rfl
  refine does_then (B := fun r g' => ∀ family_id, r = .ok family_id → g' = .drew family_id)
    (does_perform (fun e => ⟨.idle, .inl rfl, fun _ _ => trivial, nofun⟩) ?_)
    (fun _ _ _ => trivial) ?_
  · intro d v family_id d' hb _ hrule he
    cases he
    exact ⟨.drew v.uuid, moves_draw hb hrule.1 hrule.2, fun _ h => by cases h; rfl⟩
  rintro family_id g hg
  obtain rfl := hg family_id rfl
  refine does_then (does_draw fun _ _ _ _ he => by cases he; rfl) (fun _ _ _ => trivial) ?_
  rintro now g rfl
  refine does_then (does_perform (Q := fun _ _ => True)
    (fun e => ⟨.idle, .inl rfl, fun _ _ => trivial, trivial⟩) ?_) (fun _ _ _ => trivial)
    fun _ _ _ => ⟨rfl, trivial⟩
  intro d v _ d' hb ho hrule he
  obtain ⟨row, rfl, hhash, rfl, hlive, hid, hnew, -⟩ := TokenStmt.eval_insert_refresh_token he
  refine ⟨.idle, moves_insert hb hid (hhash ▸ hnew) (hrule rfl) trivial ?_ (.inl rfl) ?_, trivial⟩
  · rintro f - hne rfl
    exact hne rfl
  · intro gs h f
    obtain ⟨hone, hzero⟩ := h f
    rw [Multiset.countP_cons_of_neg _ (by simp [Stage.owes])] at hone hzero ⊢
    rw [live_added hlive]
    split
    · next hf =>
      subst hf
      have hnone : live d row.family_id = 0 := by
        rw [live, List.countP_eq_zero]
        intro r hr hcount
        rw [Bool.and_eq_true, beq_iff_eq] at hcount
        exact ho.2 r hr hcount.1
      have := hzero ho.2
      exact ⟨by omega, fun hunused => absurd rfl (unused_of_added hunused).2⟩
    · exact ⟨by omega, fun hunused => hzero (unused_of_added hunused).1⟩

/-- The part of a rotation that issues the next token. -/
theorem does_issue_next (rt : RefreshToken) (u : User) :
    Does (fun r g => r.isOk = true → g = .exchanged rt) (issue_next rt u) (.read rt) := by
  refine does_then (B := fun r g => r.isOk = true → g = .revoked rt)
    (does_perform (fun e => ⟨.idle, .inl rfl, fun _ _ => trivial, fun h => by cases h⟩) ?_)
    (fun _ _ _ h => by cases h) ?_
  · intro d v _ d' hb ho hrule he
    cases he
    exact ⟨.revoked rt, moves_revoke hb ho (hrule rfl), fun _ => rfl⟩
  rintro _ g hg
  obtain rfl := hg rfl
  refine does_then (does_draw fun _ _ _ _ he => by cases he; rfl) (fun _ _ _ h => by cases h) ?_
  rintro new_token g rfl
  refine does_then (does_draw fun _ _ _ _ he => by cases he; rfl) (fun _ _ _ h => by cases h) ?_
  rintro now g rfl
  refine does_then (B := fun r g => r.isOk = true → g = .exchanged rt)
    (does_perform (fun e => ⟨.idle, .inl rfl, fun _ _ => trivial, fun h => by cases h⟩) ?_)
    (fun _ _ _ h => by cases h) fun _ _ hg => ⟨rfl, fun _ => hg rfl⟩
  intro d v _ d' hb ho hrule he
  obtain ⟨row, rfl, hhash, hfamily, hlive, hid, hnew, -⟩ := TokenStmt.eval_insert_refresh_token he
  have ho : Spent d rt := ho
  refine ⟨.exchanged rt, moves_insert hb hid (hhash ▸ hnew) (hfamily ▸ hrule rfl)
    (spent_added ho) ?_ (.inr rfl) ?_, fun _ => rfl⟩
  · rintro f hf - hrow
    obtain ⟨r, hr, ⟨-, -, hrt⟩, -⟩ := ho
    exact hf.2 r hr (hrt.trans (hfamily.symm.trans hrow))
  · intro gs h f
    obtain ⟨hone, hzero⟩ := h f
    rw [Multiset.countP_cons_of_neg _ (by simp [Stage.owes]), live_added hlive, hfamily]
    rw [Multiset.countP_cons] at hone hzero
    have howes : (Stage.revoked rt).owes f = true ↔ rt.family_id = f := beq_iff_eq
    by_cases hf : rt.family_id = f
    · rw [if_pos (howes.mpr hf)] at hone
      rw [if_pos hf]
      exact ⟨by omega, fun hunused => absurd (hfamily.trans hf) (unused_of_added hunused).2⟩
    · rw [if_neg (mt howes.mp hf)] at hone hzero
      rw [if_neg hf]
      exact ⟨by omega, fun hunused => hzero (unused_of_added hunused).1⟩

/-- A rotation that ends well has exchanged its token. -/
theorem does_rotate (old_token : String) :
    Does (fun r g => r.isOk = true → ∃ rt, g = .exchanged rt ∧ rt.token_hash = sha256 old_token)
      (rotate_refresh_token old_token) .idle := by
  refine does_then (B := fun r g => ∀ rt u t, r = .ok (some (rt, u, t)) →
      g = .read rt ∧ rt.token_hash = sha256 old_token)
    (does_perform (fun e => ⟨.idle, .inl rfl, fun _ _ => trivial, fun _ _ _ h => by cases h⟩) ?_)
    (fun _ _ _ h => by cases h) ?_
  · intro d v found d' hb _ _ he
    cases found with
    | none => exact ⟨.idle, moves_selected he hb trivial (.inl rfl), fun _ _ _ h => by cases h⟩
    | some found =>
        obtain ⟨rt, u, t⟩ := found
        obtain ⟨⟨hrt, hhash⟩, -⟩ := TokenStmt.eval_select_refresh_token he
        refine ⟨.read rt, moves_selected he hb ⟨rt, hrt, rfl, rfl, rfl⟩ (.inl rfl), ?_⟩
        rintro _ _ _ ⟨⟩
        exact ⟨rfl, hhash⟩
  rintro found g hg
  cases found with
  | none => exact ⟨rfl, fun h => by cases h⟩
  | some found =>
      obtain ⟨rt, u, t⟩ := found
      obtain ⟨rfl, hhash⟩ := hg rt u t rfl
      refine does_then (does_draw fun _ _ _ _ he => by cases he; rfl) (fun _ _ _ h => by cases h) ?_
      rintro now g rfl
      split
      · exact ⟨rfl, fun h => by cases h⟩
      split
      · refine does_then (does_perform (Q := fun _ _ => True)
          (fun e => ⟨.idle, .inl rfl, fun _ _ => trivial, trivial⟩) ?_) (fun _ _ _ h => by cases h)
          fun _ _ _ => ⟨rfl, fun h => by cases h⟩
        intro d v _ d' hb _ _ he
        cases he
        exact ⟨.idle, moves_detect hb, trivial⟩
      split
      · exact ⟨rfl, fun h => by cases h⟩
      split
      · exact ⟨rfl, fun h => by cases h⟩
      split
      · exact ⟨rfl, fun h => by cases h⟩
      · exact Protocol.wp_mono (does_issue_next rt u) fun r l g h =>
          ⟨h.1, fun hr => ⟨rt, h.2 hr, hhash⟩⟩

end Calls

/-- What the stage of a finished call says about its answer. -/
def Answered (r : Except Exn TokenAnswer) (_ : Local TokenStmt Unit Env) (g : Stage) : Prop :=
  ∀ old_token user new_token, r = .ok (.exchanged old_token user new_token) →
    ∃ rt, g = .exchanged rt ∧ rt.token_hash = sha256 old_token

theorem wp_call (w : TokenCall) : discipline.protocol.wp Answered w.prog {} .idle := by
  cases w with
  | generate user_id =>
      refine Protocol.wp_mono (does_then (Q := fun r g => Answered r {} g) (does_generate user_id)
        (fun _ _ _ _ _ _ h => by cases h) fun _ _ _ => ⟨rfl, fun _ _ _ h => by cases h⟩) ?_
      exact fun _ _ _ h => h.2
  | rotate old_token =>
      refine Protocol.wp_mono (does_then (Q := fun r g => Answered r {} g) (does_rotate old_token)
        (fun _ _ _ _ _ _ h => by cases h) fun _ _ hg => ⟨rfl, fun _ _ _ h => ?_⟩) ?_
      · cases h
        exact hg rfl
      · exact fun _ _ _ h => h.2

/-- The constraints of the table, and a usable token for each family at most. -/
structure Initial (d : TokenStore) : Prop extends Sound d where
  single : ∀ family_id, live d family_id ≤ 1

/-- No call runs yet. -/
def idle (d : TokenStore) : TokenState := { store := d }

theorem valid_idle (hd : Initial d) : Valid discipline.protocol Answered (idle d) := by
  refine Valid.start (.empty hd.toSound fun family_id => ?_)
  rw [Multiset.countP_zero]
  exact ⟨hd.single family_id, fun _ => rfl⟩

theorem valid_reaches {s s' : TokenState} (h : Valid discipline.protocol Answered s)
    (hs : Reaches tokenSystem rules s s') :
    Valid discipline.protocol Answered s' ∧ Closed s.store s'.store := by
  refine h.reaches (Y := tokenSystem) rfl ?_ ?_ hs
  · intro w d d' p ls hi _ hstart
    cases hstart
    refine ⟨.idle, hi.joins trivial rfl fun hs f => ?_, wp_call w⟩
    rw [Multiset.countP_cons_of_neg _ (by simp [Stage.owes])]
    exact hs f
  · rintro d d' ls hi ⟨hrows, hdetected, hdrawn⟩
    have hsub : d.drawn ⊆ d'.drawn := hdrawn ▸ List.Subset.refl _
    -- An edit of other tables is a step of a call that does nothing.
    have hquiet : discipline.Moves [] d d' {} .idle {} .idle :=
      moves_quiet hrows hdetected hsub hi.base trivial (.inr rfl)
    refine ⟨⟨hquiet.base, fun x hx => ?_, hi.apart, fun f => ?_⟩, hquiet.guar⟩
    · exact hquiet.stable _ _ (hi.own x hx) fun _ h => by cases h
    · have hf := hquiet.shared (ls.map Prod.snd) (fun f => ?_) f
      · rwa [Multiset.countP_cons_of_neg _ (by simp [Stage.owes])] at hf
      · rw [Multiset.countP_cons_of_neg _ (by simp [Stage.owes])]
        exact hi.shared f

/-- The token that a call has exchanged. -/
def exchangedBy (p : Proc TokenStmt TokenStmt.Res Unit Exn Env TokenAnswer) : Option String :=
  match p.prog with
  | .ret (.ok (.exchanged old_token _ _)) => some old_token
  | _ => none

/-- The call that was started as number `i` has exchanged the token. -/
def Exchanged (s : TokenState) (i : ℕ) (token : String) : Prop :=
  s.procs[i]?.bind exchangedBy = some token

theorem Exchanged.ended {s : TokenState} {i : ℕ} {token : String} (h : Exchanged s i token) :
    ∃ p r, s.procs[i]? = some p ∧ p.prog = .ret r ∧
      ∀ l g, Answered r l g → discipline.token g = some (.inr (sha256 token)) := by
  obtain ⟨p, hp, hexchanged⟩ := Option.bind_eq_some_iff.mp h
  unfold exchangedBy at hexchanged
  split at hexchanged
  · next old_token user new_token hprog =>
      cases hexchanged
      refine ⟨p, _, hp, hprog, fun l g hg => ?_⟩
      obtain ⟨rt, rfl, hhash⟩ := hg token user new_token rfl
      rw [← hhash]
      rfl
  · cases hexchanged

/-- Each token is exchanged once, a family has one usable token at most, and a family in which a
reuse was detected has no usable token and gets none, in every run in which rotations find their
tokens unrevoked and their families open. -/
theorem family_safety (hd : Initial d) {s : TokenState}
    (hs : Reaches tokenSystem rules (idle d) s) :
    (∀ token i j, Exchanged s i token → Exchanged s j token → i = j) ∧
      (∀ family_id, live s.store family_id ≤ 1) ∧
      ∀ s', Reaches tokenSystem rules s s' → ∀ r ∈ s'.store.refresh_tokens,
        r.family_id ∈ s.store.detected → r.revoked = true ∧ Known s.store r := by
  have hvalid := (valid_reaches (valid_idle hd) hs).1
  refine ⟨fun token i j hi hj => Discipline.ended_once hvalid hi.ended hj.ended,
    fun family_id => ?_, fun s' hs' r hr hf => ?_⟩
  · obtain ⟨ann, -, hinv, -⟩ := hvalid
    have hone := (hinv.shared family_id).1
    omega
  · obtain ⟨hvalid', hclosed⟩ := valid_reaches hvalid hs'
    obtain ⟨hdetected, hknown⟩ := hclosed r.family_id hf
    obtain ⟨ann, -, hinv, -⟩ := hvalid'
    exact ⟨hinv.base.closed r hr hdetected, hknown r hr rfl⟩

/-- Runs in which family ids are never drawn twice. -/
def unguarded : TokenRules where
  stmt s c d := match s with
    | .uuid4 => FreshFamily d c
    | _ => True
  edit d d' := d'.refresh_tokens = d.refresh_tokens ∧ d'.detected = d.detected ∧ d'.drawn = d.drawn

section Decidable

variable (s : TokenStmt) (c : Choice Exn Env) (w : TokenCall) (d d' : TokenStore)

instance : Decidable (FreshFamily d c) :=
  match c with
  | .run v =>
      inferInstanceAs (Decidable (v.uuid ∉ d.drawn ∧ ∀ r ∈ d.refresh_tokens, r.family_id ≠ v.uuid))
  | .fail _ => .isTrue trivial

instance : Decidable (rules.stmt s c d) := by
  cases s with
  | revoke_token id =>
      exact inferInstanceAs (Decidable (c.isRun = true →
        ∀ r ∈ d.refresh_tokens, r.id = id → r.revoked = false))
  | insert_refresh_token _ _ family_id _ =>
      exact inferInstanceAs (Decidable (c.isRun = true → family_id ∉ d.detected))
  | uuid4 => exact inferInstanceAs (Decidable (FreshFamily d c))
  | _ => exact .isTrue trivial

instance : Decidable (rules.spawn w d) := .isTrue trivial

instance : Decidable (rules.edit d d') :=
  inferInstanceAs (Decidable (_ ∧ _ ∧ _))

instance : Decidable (unguarded.stmt s c d) := by
  cases s with
  | uuid4 => exact inferInstanceAs (Decidable (FreshFamily d c))
  | _ => exact .isTrue trivial

instance : Decidable (unguarded.spawn w d) := .isTrue trivial

instance : Decidable (unguarded.edit d d') :=
  inferInstanceAs (Decidable (_ ∧ _ ∧ _))

end Decidable

/-- A user who has logged in once. -/
def loggedIn : TokenStore where
  users := [{ id := 2, email := "c@example.com", phone := "254700000002", hashed_password := ""
              tenant_id := 1 }]
  tenants := [{ id := 1, owner_phone := "254700000001", next_billing_date := 0 }]
  refresh_tokens := [{ id := 3, user_id := 2, token_hash := sha256 "first", family_id := 4
                       expires_at := day }]

theorem initial_loggedIn : Initial loggedIn where
  ids := by decide
  hashes := List.nodup_singleton _
  closed := fun _ _ h => by cases h
  single family_id := List.countP_le_length

theorem exchanged_iff {s : TokenState} {i : ℕ} {token : String} :
    Exchanged s i token ↔ (s.procs.map exchangedBy)[i]? = some (some token) := by
  rw [Exchanged, List.getElem?_map, Option.bind_eq_some_iff, Option.map_eq_some_iff]

/-- The answer of a statement. -/
def answer (i : ℕ) (v : Env) : Label Exn TokenStore Env TokenCall := .step i (.run v)

theorem family_safety_after_exchange : ∃ s : TokenState, Exchanged s 0 "first" ∧
    ∀ i, Exchanged s i "first" → i = 0 := by
  obtain ⟨s, hs, hv⟩ := Reaches.of_moves_state (Y := tokenSystem) (ρ := rules) (idle loggedIn)
    [.spawn (.rotate "first"), answer 0 {}, answer 0 {}, answer 0 {}, answer 0 { text := "second" },
      answer 0 {}, answer 0 { uuid := 5 }]
    (fun s => s.procs.map exchangedBy) [some "first"] (by decide +kernel) (by decide +kernel)
  have hfirst : Exchanged s 0 "first" := exchanged_iff.mpr (by rw [hv]; rfl)
  exact ⟨s, hfirst, fun i hi => (family_safety initial_loggedIn hs).1 "first" i 0 hi hfirst⟩

/-- Two rotations read the token before either of them revokes it. -/
theorem not_family_safety : ¬ ∀ (d : TokenStore) (s : TokenState), Initial d →
    Reaches tokenSystem unguarded (idle d) s →
    (∀ token i j, Exchanged s i token → Exchanged s j token → i = j) ∧
      (∀ family_id, live s.store family_id ≤ 1) ∧
      ∀ s', Reaches tokenSystem unguarded s s' → ∀ r ∈ s'.store.refresh_tokens,
        r.family_id ∈ s.store.detected → r.revoked = true ∧ Known s.store r := by
  intro h
  obtain ⟨s, hs, hv⟩ := Reaches.of_moves_state (Y := tokenSystem) (ρ := unguarded) (idle loggedIn)
    [.spawn (.rotate "first"), .spawn (.rotate "first"), answer 0 {}, answer 1 {},
      answer 0 {}, answer 0 {}, answer 0 { text := "second" }, answer 0 {}, answer 0 { uuid := 5 },
      answer 1 {}, answer 1 {}, answer 1 { text := "third" }, answer 1 {}, answer 1 { uuid := 6 }]
    (fun s => s.procs.map exchangedBy) [some "first", some "first"] (by decide +kernel)
    (by decide +kernel)
  have htwice := (h loggedIn s initial_loggedIn hs).1 "first" 0 1
    (exchanged_iff.mpr (by rw [hv]; rfl)) (exchanged_iff.mpr (by rw [hv]; rfl))
  cases htwice

end TokenFamilies

end FrixelConnect
