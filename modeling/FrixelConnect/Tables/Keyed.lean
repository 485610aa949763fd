import Mathlib.Data.List.Nodup
import Mathlib.Data.List.Perm.Basic

/-!
# Tables of rows under a key

A row has a key that the table gives it, and attributes that are written by the users of the
table. Two tables are the same up to keys when their rows have the same attributes.

## Main results

Three ways to bring a row into a table are described by what they leave: the row is added where
none like it is there (`AddsMissing`), added or updated (`Upserts`), or put in the place of all
that are like it (`Replaces`). Each has a lemma that says when it reaches its goal, and one that
says that a second time changes nothing.
-/

namespace Keyed

variable {K A V : Type}

structure Row (K A V : Type) where
  id : K
  attrs : A → Option V

/-- Rows with different keys. -/
structure KeyTable (K A V : Type) where
  rows : List (Row K A V)
  nodup : (rows.map (·.id)).Nodup

namespace KeyTable

def empty : KeyTable K A V := ⟨[], List.nodup_nil⟩

def ids (t : KeyTable K A V) : List K := t.rows.map (·.id)

@[ext] theorem ext {t t' : KeyTable K A V} (h : t.rows = t'.rows) : t = t' := by
  cases t
  cases t'
  congr

/-- The rows that satisfy `p`. -/
def filter (t : KeyTable K A V) (p : Row K A V → Bool) : KeyTable K A V where
  rows := t.rows.filter p
  nodup := t.nodup.sublist (List.filter_sublist.map _)

/-- The same rows up to their keys. -/
def Same (t t' : KeyTable K A V) : Prop := (t.rows.map (·.attrs)).Perm (t'.rows.map (·.attrs))

end KeyTable

variable [DecidableEq A]

/-- The attributes that a body names, and no others. -/
def ofBody (body : List (A × V)) : A → Option V := fun a => body.lookup a

/-- The attributes after an update with a body. -/
def patch (attrs : A → Option V) (body : List (A × V)) : A → Option V :=
  fun a => (body.lookup a).or (attrs a)

/-- The attributes have the values of a body. -/
def Holds (attrs : A → Option V) (body : List (A × V)) : Prop :=
  ∀ entry ∈ body, attrs entry.1 = some entry.2

instance [DecidableEq V] (attrs : A → Option V) (body : List (A × V)) :
    Decidable (Holds attrs body) :=
  List.decidableBAll ..

namespace KeyTable

def insert (t : KeyTable K A V) (id : K) (h : id ∉ t.ids) (body : List (A × V)) :
    KeyTable K A V where
  rows := t.rows ++ [⟨id, ofBody body⟩]
  nodup := by
    rw [List.map_append, List.nodup_append]
    refine ⟨t.nodup, List.nodup_singleton _, ?_⟩
    intro a ha b hb
    rw [List.map_singleton, List.mem_singleton] at hb
    subst hb
    exact fun hab => h (hab ▸ ha)

variable [DecidableEq K]

def update (t : KeyTable K A V) (id : K) (body : List (A × V)) : KeyTable K A V where
  rows := t.rows.map fun r => if r.id = id then { r with attrs := patch r.attrs body } else r
  nodup := by
    have hids : (t.rows.map fun r => if r.id = id then { r with attrs := patch r.attrs body }
        else r).map (·.id) = t.rows.map (·.id) := by
      rw [List.map_map]
      apply List.map_congr_left
      intro r _
      rw [Function.comp_apply]
      split
      · rfl
      · rfl
    rw [hids]
    exact t.nodup

def delete (t : KeyTable K A V) (id : K) : KeyTable K A V := t.filter fun r => r.id ≠ id

end KeyTable

section Attributes

variable {attrs : A → Option V} {body : List (A × V)}

theorem holds_ofBody (h : (body.map (·.1)).Nodup) : Holds (ofBody body) body := by
  intro entry hentry
  rw [ofBody]
  induction body with
  | nil => cases hentry
  | cons first rest ih =>
      rw [List.map_cons, List.nodup_cons] at h
      rw [List.lookup_cons]
      cases List.mem_cons.mp hentry with
      | inl heq => simp [heq]
      | inr hrest =>
          have hne : entry.1 ≠ first.1 := fun heq => h.1 (heq ▸ List.mem_map_of_mem hrest)
          rw [beq_false_of_ne hne]
          exact ih h.2 hrest

/-- An update with values that are there changes nothing. -/
theorem patch_eq_self (h : Holds attrs body) : patch attrs body = attrs := by
  funext a
  rw [patch]
  cases hbody : body.lookup a with
  | none => rfl
  | some v =>
      obtain ⟨before, after, hsplit, _⟩ := List.lookup_eq_some_iff.mp hbody
      have hmem : (a, v) ∈ body := by
        rw [hsplit]
        exact List.mem_append_right _ List.mem_cons_self
      exact (h (a, v) hmem).symm

@[simp] theorem patch_patch : patch (patch attrs body) body = patch attrs body := by
  funext a
  rw [patch, patch]
  cases body.lookup a with
  | none => rfl
  | some v => rfl

theorem holds_patch (h : (body.map (·.1)).Nodup) : Holds (patch attrs body) body := by
  intro entry hentry
  have hlookup : body.lookup entry.1 = some entry.2 := holds_ofBody h entry hentry
  rw [patch, hlookup]
  rfl

section Repeated

variable [DecidableEq K] {t : KeyTable K A V} {id : K}

theorem KeyTable.ids_update : (t.update id body).ids = t.ids := by
  rw [KeyTable.ids, KeyTable.update, List.map_map]
  apply List.map_congr_left
  intro r _
  rw [Function.comp_apply]
  split
  · rfl
  · rfl

theorem KeyTable.rows_update : (t.update id body).rows = t.rows.map fun r =>
    if r.id = id then { r with attrs := patch r.attrs body } else r := rfl

/-- An update can be repeated. -/
theorem KeyTable.update_update : (t.update id body).update id body = t.update id body := by
  apply KeyTable.ext
  rw [KeyTable.rows_update, KeyTable.rows_update, List.map_map]
  apply List.map_congr_left
  intro r _
  rw [Function.comp_apply]
  by_cases h : r.id = id
  · rw [if_pos h, if_pos h, patch_patch]
  · rw [if_neg h, if_neg h]

end Repeated

end Attributes

section Goals

variable (key : (A → Option V) → Bool) (body create change : List (A × V))

/-- A row with the body is there, and every row like it has the values of the body. -/
def OnlyHolds (t : KeyTable K A V) : Prop :=
  (∃ r ∈ t.rows, key r.attrs = true) ∧ ∀ r ∈ t.rows, key r.attrs = true → Holds r.attrs body

/-- A row is added where none like it is there. -/
def AddsMissing (t t' : KeyTable K A V) : Prop :=
  if t.rows.any fun r => key r.attrs then t' = t else ∃ id h, t' = t.insert id h body

/-- A row is put in the place of those that are like it. -/
def Replaces (t t' : KeyTable K A V) : Prop :=
  ∃ id h, t' = (t.filter fun r => !key r.attrs).insert id h body

/-- A row is added, or the first row that is like it is updated. -/
def Upserts [DecidableEq K] (t t' : KeyTable K A V) : Prop :=
  match t.rows.find? fun r => key r.attrs with
  | none => ∃ id h, t' = t.insert id h create
  | some first => t' = t.update first.id change

/-- A row with the body is recognised. -/
structure Recognises : Prop where
  created : key (ofBody body) = true
  nodup : (body.map (·.1)).Nodup

/-- An update writes a part of the body and does not change which rows are recognised. -/
structure Updates : Prop extends Recognises key create where
  sublist : change.Sublist create
  stable : ∀ attrs, key (patch attrs change) = key attrs

variable {key body create change} {t t' t'' : KeyTable K A V}

theorem Recognises.holds (h : Recognises key body) : Holds (ofBody body) body :=
  holds_ofBody h.nodup

/-- The goal may be about more rows than those that are looked for, and about less of the body. -/
theorem AddsMissing.onlyHolds_iff (h : AddsMissing key body t t')
    (wide : (A → Option V) → Bool) (goal : List (A × V)) (hrec : Recognises key body)
    (hgoal : goal ⊆ body) (hwide : ∀ attrs, key attrs = true → wide attrs = true) :
    OnlyHolds wide goal t' ↔ ∀ r ∈ t.rows, wide r.attrs = true → Holds r.attrs goal := by
  unfold AddsMissing at h
  split at h
  · next hany =>
      subst h
      obtain ⟨r, hr, hkey⟩ := List.any_eq_true.mp hany
      constructor
      · exact fun honly => honly.2
      · exact fun hall => ⟨⟨r, hr, hwide _ hkey⟩, hall⟩
  · obtain ⟨id, hid, rfl⟩ := h
    constructor
    · exact fun honly r hr => honly.2 r (List.mem_append_left _ hr)
    · intro hall
      constructor
      · exact ⟨⟨id, ofBody body⟩, List.mem_append_right _ List.mem_cons_self,
          hwide _ hrec.created⟩
      · intro r hr hrkey
        cases List.mem_append.mp hr with
        | inl hold => exact hall r hold hrkey
        | inr hnew =>
            rw [List.mem_singleton.mp hnew]
            exact fun entry hentry => hrec.holds entry (hgoal hentry)

/-- A row that was added is found. -/
theorem AddsMissing.again (h : AddsMissing key body t t') (h' : AddsMissing key body t' t'')
    (hkey : key (ofBody body) = true) : t'' = t' := by
  have hany : t'.rows.any (fun r => key r.attrs) = true := by
    unfold AddsMissing at h
    split at h
    · next hany => rwa [h]
    · obtain ⟨id, hid, rfl⟩ := h
      exact List.any_eq_true.mpr
        ⟨⟨id, ofBody body⟩, List.mem_append_right _ List.mem_cons_self, hkey⟩
  rwa [AddsMissing, if_pos hany] at h'

theorem Replaces.onlyHolds (h : Replaces key body t t') (hrec : Recognises key body) :
    OnlyHolds key body t' := by
  obtain ⟨id, hid, rfl⟩ := h
  constructor
  · exact ⟨⟨id, ofBody body⟩, List.mem_append_right _ List.mem_cons_self, hrec.created⟩
  · intro r hr hrkey
    cases List.mem_append.mp hr with
    | inl hold =>
        have hnot := (List.mem_filter.mp hold).2
        rw [hrkey] at hnot
        cases hnot
    | inr hnew =>
        rw [List.mem_singleton.mp hnew]
        exact hrec.holds

/-- The second time, the row takes the place of the one of the first time. -/
theorem Replaces.again (h : Replaces key body t t') (h' : Replaces key body t' t'')
    (hkey : key (ofBody body) = true) : t'.Same t'' := by
  obtain ⟨id, hid, rfl⟩ := h
  obtain ⟨id', hid', rfl⟩ := h'
  have hrest : (((t.filter fun r => !key r.attrs).insert id hid body).rows.filter
      fun r => !key r.attrs) = t.rows.filter fun r => !key r.attrs := by
    rw [KeyTable.insert, List.filter_append, List.filter_singleton, hkey]
    simp [KeyTable.filter]
  rw [KeyTable.Same]
  apply List.Perm.of_eq
  simp only [KeyTable.insert, KeyTable.filter, List.map_append, List.map_singleton] at hrest ⊢
  rw [hrest]

section Upserts

variable [DecidableEq K]

theorem Upserts.onlyHolds_iff (h : Upserts key create change t t')
    (hupd : Updates key create change) :
    OnlyHolds key create t' ↔ ∀ first, (t.rows.find? fun r => key r.attrs) = some first →
      ∀ r ∈ t.rows, key r.attrs = true →
        Holds (if r.id = first.id then patch r.attrs change else r.attrs) create := by
  unfold Upserts at h
  split at h
  · next hnone =>
      obtain ⟨id, hid, rfl⟩ := h
      simp only [hnone, reduceCtorEq, false_implies, implies_true, iff_true]
      constructor
      · exact ⟨⟨id, ofBody create⟩, List.mem_append_right _ List.mem_cons_self, hupd.created⟩
      · intro r hr hrkey
        cases List.mem_append.mp hr with
        | inl hold => exact absurd hrkey (List.find?_eq_none.mp hnone r hold)
        | inr hnew =>
            rw [List.mem_singleton.mp hnew]
            exact hupd.holds
  · next first hfirst =>
      subst h
      simp only [hfirst, Option.some.injEq, forall_eq']
      have hattrs (r : Row K A V) :
          (if r.id = first.id then { r with attrs := patch r.attrs change } else r).attrs =
            if r.id = first.id then patch r.attrs change else r.attrs := by
        split
        · rfl
        · rfl
      have hkeys (r : Row K A V) :
          key (if r.id = first.id then patch r.attrs change else r.attrs) = key r.attrs := by
        split
        · exact hupd.stable _
        · rfl
      constructor
      · intro hgoal r hr hrkey
        have hnew := hgoal.2 _ (List.mem_map_of_mem hr)
        rw [hattrs, hkeys] at hnew
        exact hnew hrkey
      · intro hall
        constructor
        · refine ⟨_, List.mem_map_of_mem (List.mem_of_find?_eq_some hfirst), ?_⟩
          rw [hattrs, hkeys]
          exact List.find?_some (p := fun r : Row K A V => key r.attrs) hfirst
        · intro r' hr' hrkey
          obtain ⟨r, hr, rfl⟩ := List.mem_map.mp hr'
          rw [hattrs, hkeys] at hrkey
          rw [hattrs]
          exact hall r hr hrkey

/-- The first row is the one that was added or updated, and has the values of the update. -/
theorem Upserts.find? (h : Upserts key create change t t')
    (hupd : Updates key create change) :
    ∃ first, (t'.rows.find? fun r => key r.attrs) = some first ∧ Holds first.attrs change := by
  unfold Upserts at h
  split at h
  · next hnone =>
      obtain ⟨id, hid, rfl⟩ := h
      refine ⟨⟨id, ofBody create⟩, ?_, fun entry hentry =>
        hupd.holds entry (hupd.sublist.subset hentry)⟩
      rw [KeyTable.insert, List.find?_append, hnone, List.find?_singleton, if_pos hupd.created]
      rfl
  · next first hfirst =>
      subst h
      refine ⟨{ first with attrs := patch first.attrs change }, ?_,
        holds_patch (hupd.nodup.sublist (hupd.sublist.map _))⟩
      have hcomp : ((fun r : Row K A V => key r.attrs) ∘
          fun r => if r.id = first.id then { r with attrs := patch r.attrs change } else r) =
            fun r => key r.attrs := by
        funext r
        rw [Function.comp_apply]
        split
        · exact hupd.stable _
        · rfl
      rw [KeyTable.update, List.find?_map, hcomp, hfirst, Option.map_some, if_pos rfl]

/-- An update with values that are there changes nothing. -/
theorem KeyTable.update_eq_self {first : Row K A V} (hmem : first ∈ t.rows)
    (h : Holds first.attrs change) : t.update first.id change = t := by
  apply KeyTable.ext
  rw [KeyTable.update]
  conv_rhs => rw [← List.map_id t.rows]
  apply List.map_congr_left
  intro r hr
  by_cases hid : r.id = first.id
  · have heq : r = first := List.inj_on_of_nodup_map t.nodup hr hmem hid
    subst heq
    rw [if_pos rfl, patch_eq_self h]
    rfl
  · rw [if_neg hid]
    rfl

/-- The second time, the update finds its values. -/
theorem Upserts.again (h : Upserts key create change t t') (h' : Upserts key create change t' t'')
    (hupd : Updates key create change) : t'' = t' := by
  obtain ⟨first, hfirst, hholds⟩ := h.find? hupd
  rw [Upserts, hfirst] at h'
  rw [h']
  exact KeyTable.update_eq_self (List.mem_of_find?_eq_some hfirst) hholds

end Upserts

end Goals

end Keyed
