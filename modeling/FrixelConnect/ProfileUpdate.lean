import FrixelConnect.Users
import FrixelConnect.Specs.Alone

/-!
# Profile updates

A profile update writes a password, a phone and an email in this order, each by a statement
of its own that is committed at once, and looks for other users of a contact right before it
writes it. It looks in the tenant only, while the constraints range over all tenants.
-/

namespace FrixelConnect

namespace ProfileUpdate

open Python Interleaving Alone

/-- The user as requested, with the hash of the password. -/
def requested (data : UserUpdate) (hash : Option String) (u : User) : User :=
  { u with
    hashed_password := (data.password.bind fun _ => hash).getD u.hashed_password
    phone := data.phone.getD u.phone
    email := data.email.getD u.email }

/-- `id = $1 AND tenant_id = $2` -/
def own (user_id tenant_id : UUID) (u : User) : Bool :=
  u.id == user_id && u.tenant_id == tenant_id

/-- The store with another row of the caller. -/
def patched (d : Store) (user_id tenant_id : UUID) (g : User → User) : Store :=
  { d with users := updateRows (own user_id tenant_id) g d.users }

/-- The database answers every statement; the journal holds the hash of the password. -/
def hashes : Journal Stmt Exn Env (Option String) := fun hash s c => match s, c with
  | .hash_password _, .run v => some (some v.text)
  | .hash_password _, .fail _ => some hash
  | _, .run _ => some hash
  | _, .fail _ => none

/-- A call that raises leaves everything as it was; one that returns leaves the user as requested,
and everything else as it was. -/
def AllOrNothing (d : Store) (user_id tenant_id : UUID) (data : UserUpdate) : Prop :=
  Solo.Always machine hashes (fun _ _ => True) (fun r hash d' _ => match r with
    | .error _ => d' = d
    | .ok _ => d' = patched d user_id tenant_id (requested data hash))
    (update_my_profile user_id tenant_id data) none d {}

/-- The contact does not fit its column, or another user has it, in whichever tenant. -/
def Refused (d : Store) (user_id : UUID) (c : Contact) (value : String) : Prop :=
  (∀ o, textParam (some c.limit) (.str value) ≠ .ok o) ∨
    ∃ r ∈ d.users, r.id ≠ user_id ∧ c.of r = value

/-- The request changes the contact to one that is refused. -/
def Denied (d : Store) (u : User) (c : Contact) (value : Option String) : Prop :=
  ∃ s, c.wanted value u = some s ∧ Refused d u.id c s

/-- Nothing is written before a contact that is refused. -/
def Safe (d : Store) (user_id tenant_id : UUID) (data : UserUpdate) : Prop :=
  ∀ u ∈ d.users, own user_id tenant_id u = true →
    (Denied d u .phone data.phone → data.password = none) ∧
    (Denied d u .email data.email → ¬ Denied d u .phone data.phone →
      data.password = none ∧ Contact.phone.wanted data.phone u = none)

section Rows

variable {d : Store} {u : User} {user_id tenant_id : UUID} {g g' : User → User}

/-- The new row is that of the same user. -/
structure Keeps (g : User → User) : Prop where
  id : ∀ u, (g u).id = u.id
  tenant : ∀ u, (g u).tenant_id = u.tenant_id

theorem Keeps.own (hg : Keeps g) (u : User) :
    own user_id tenant_id (g u) = own user_id tenant_id u := by
  simp only [ProfileUpdate.own, hg.id, hg.tenant]

theorem Keeps.comp (hg : Keeps g) (hg' : Keeps g') : Keeps (g' ∘ g) where
  id u := (hg'.id _).trans (hg.id u)
  tenant u := (hg'.tenant _).trans (hg.tenant u)

theorem keeps_id : Keeps id := ⟨fun _ => rfl, fun _ => rfl⟩

theorem keeps_set (c : Contact) (s : String) : Keeps (c.set s) := by
  cases c <;> exact ⟨fun _ => rfl, fun _ => rfl⟩

/-- The caller has one row. -/
structure Caller (d : Store) (user_id tenant_id : UUID) (u : User) : Prop where
  ids : (d.users.map (·.id)).Nodup
  mem : u ∈ d.users
  own : own user_id tenant_id u = true

theorem Caller.id (h : Caller d user_id tenant_id u) : u.id = user_id := by
  have hown := h.own
  simp only [ProfileUpdate.own, Bool.and_eq_true, beq_iff_eq] at hown
  exact hown.1

theorem Caller.eq (h : Caller d user_id tenant_id u) {r : User} (hr : r ∈ d.users)
    (hid : r.id = user_id) : r = u :=
  List.inj_on_of_nodup_map h.ids hr h.mem (hid.trans h.id.symm)

/-- The other rows are those with other ids. -/
theorem Caller.own_iff (h : Caller d user_id tenant_id u) {r : User} (hr : r ∈ d.users) :
    ProfileUpdate.own user_id tenant_id r = true ↔ r.id = user_id := by
  constructor
  · intro hown
    simp only [ProfileUpdate.own, Bool.and_eq_true, beq_iff_eq] at hown
    exact hown.1
  · intro hid
    rw [h.eq hr hid]
    exact h.own

theorem Caller.mem_patched (h : Caller d user_id tenant_id u) {r : User} :
    r ∈ (patched d user_id tenant_id g).users ↔ r = g u ∨ r ∈ d.users ∧ r.id ≠ user_id := by
  simp only [patched, updateRows, List.mem_map]
  constructor
  · rintro ⟨r₀, hr₀, rfl⟩
    split
    · next hown =>
        rw [h.eq hr₀ ((h.own_iff hr₀).mp hown)]
        exact .inl rfl
    · next hown => exact .inr ⟨hr₀, fun hid => hown ((h.own_iff hr₀).mpr hid)⟩
  · rintro (rfl | ⟨hr, hid⟩)
    · exact ⟨u, h.mem, if_pos h.own⟩
    · exact ⟨r, hr, if_neg fun hown => hid ((h.own_iff hr).mp hown)⟩

/-- What is written depends on the row of the caller. -/
theorem Caller.patched_congr (h : Caller d user_id tenant_id u) (hg : g u = g' u) :
    patched d user_id tenant_id g = patched d user_id tenant_id g' := by
  have hrows : updateRows (ProfileUpdate.own user_id tenant_id) g d.users =
      updateRows (ProfileUpdate.own user_id tenant_id) g' d.users := by
    apply List.map_congr_left
    intro r hr
    split
    · next hown => rw [h.eq hr ((h.own_iff hr).mp hown), hg]
    · rfl
  rw [patched, patched, hrows]

theorem Caller.patched_eq (h : Caller d user_id tenant_id u) :
    patched d user_id tenant_id g = d ↔ g u = u := by
  constructor
  · intro heq
    have hmem : g u ∈ d.users := heq ▸ h.mem_patched.mpr (.inl rfl)
    have hu : u ∈ (patched d user_id tenant_id g).users := heq.symm ▸ h.mem
    rcases h.mem_patched.mp hu with hu | hu
    · exact hu.symm
    · exact absurd h.id hu.2
  · intro hu
    have hrows : updateRows (ProfileUpdate.own user_id tenant_id) (fun u => u) d.users =
        d.users := by
      simp [updateRows]
    calc
      patched d user_id tenant_id g = patched d user_id tenant_id fun u => u := h.patched_congr hu
      _ = d := by rw [patched, hrows]

/-- Two writes of the row of the caller. -/
theorem patched_patched (hg : Keeps g) :
    patched (patched d user_id tenant_id g) user_id tenant_id g' =
      patched d user_id tenant_id (g' ∘ g) := by
  have hrows : updateRows (own user_id tenant_id) g'
      (updateRows (own user_id tenant_id) g d.users) =
        updateRows (own user_id tenant_id) (g' ∘ g) d.users := by
    rw [updateRows, updateRows, List.map_map]
    apply List.map_congr_left
    intro r _
    by_cases hown : own user_id tenant_id r = true
    · simp [hown, hg.own]
    · simp [hown]
  rw [patched, patched, patched, hrows]

end Rows

section Statements

variable {d d' : Store} {u : User} {user_id tenant_id : UUID} {g : User → User} {v : Env}
  {c : Contact} {value : String}

/-- The caller's row is the only one that the caller's key selects. -/
theorem Caller.fetch (h : Caller d user_id tenant_id u) (hg : Keeps g) (pick : ℕ) :
    fetchrow pick (ProfileUpdate.own user_id tenant_id) (patched d user_id tenant_id g).users =
      some (g u) := by
  have hown : ProfileUpdate.own user_id tenant_id (g u) = true := (hg.own u).trans h.own
  cases hrow : fetchrow pick (ProfileUpdate.own user_id tenant_id)
      (patched d user_id tenant_id g).users with
  | none => exact absurd hown (fetchrow_eq_none.mp hrow (g u) (h.mem_patched.mpr (.inl rfl)))
  | some r =>
      obtain ⟨hr, hr'⟩ := fetchrow_eq_some hrow
      rcases h.mem_patched.mp hr with rfl | ⟨hr, hne⟩
      · rfl
      · exact absurd ((h.own_iff hr).mp hr') hne

/-- The update of a contact that is not refused. -/
theorem Caller.eval_set_contact (h : Caller d user_id tenant_id u) (hg : Keeps g)
    (hfree : ¬ Refused d user_id c value) :
    (Stmt.set_contact c value user_id tenant_id).eval v (patched d user_id tenant_id g) =
      .ok ((), patched d user_id tenant_id (c.set value ∘ g)) := by
  obtain ⟨o, ho⟩ : ∃ o, textParam (some c.limit) (.str value) = .ok o := by
    by_contra hnot
    exact hfree (.inl fun o ho => hnot ⟨o, ho⟩)
  have hother : (patched d user_id tenant_id g).users.all (fun r =>
      ProfileUpdate.own user_id tenant_id r || c.of r != value) = true := by
    rw [List.all_eq_true]
    intro r hr
    rcases h.mem_patched.mp hr with rfl | ⟨hr, hne⟩
    · simp [hg.own, h.own]
    · have hvalue : c.of r ≠ value := fun heq => hfree (.inr ⟨r, hr, hne, heq⟩)
      simp [hvalue]
  have hcheck : check (!(patched d user_id tenant_id g).users.any
      (ProfileUpdate.own user_id tenant_id) || (patched d user_id tenant_id g).users.all (fun r =>
        ProfileUpdate.own user_id tenant_id r || c.of r != value)) (.uniqueViolation c.unique) =
      .ok () := by
    rw [hother, Bool.or_true]
    rfl
  rw [← patched_patched hg]
  change (do
    let _ ← textParam (some c.limit) (.str value)
    check (!(patched d user_id tenant_id g).users.any (ProfileUpdate.own user_id tenant_id) ||
      (patched d user_id tenant_id g).users.all (fun r =>
        ProfileUpdate.own user_id tenant_id r || c.of r != value)) (.uniqueViolation c.unique)
    pure ((), patched (patched d user_id tenant_id g) user_id tenant_id (c.set value)) :
      Except Exn (Unit × Store)) = _
  rw [ho, hcheck]
  rfl

/-- The update of a contact that is refused raises. -/
theorem Caller.eval_set_contact_refused (h : Caller d user_id tenant_id u) (hg : Keeps g)
    (hrefused : Refused d user_id c value) {a : Unit} :
    (Stmt.set_contact c value user_id tenant_id).eval v (patched d user_id tenant_id g) ≠
      .ok (a, d') := by
  intro he
  simp only [Stmt.eval, Except.bind_eq_ok, check_eq_ok] at he
  obtain ⟨o, ho, _, hcheck, -⟩ := he
  rcases hrefused with htext | ⟨r, hr, hne, hvalue⟩
  · exact htext o ho
  · rw [Bool.or_eq_true, Bool.not_eq_true', List.any_eq_false, List.all_eq_true] at hcheck
    rcases hcheck with hnone | hall
    · exact hnone (g u) (h.mem_patched.mpr (.inl rfl)) ((hg.own u).trans h.own)
    · have hrow := hall r (h.mem_patched.mpr (.inr ⟨hr, hne⟩))
      rw [hvalue] at hrow
      simp only [bne_self_eq_false, Bool.or_false, Bool.and_eq_true, beq_iff_eq] at hrow
      exact hne hrow.1

/-- Another user of the tenant has the contact. -/
theorem Caller.refused_of_other (h : Caller d user_id tenant_id u) {pick : ℕ} {r : User}
    (hr : fetchrow pick (fun r => c.of r == value && r.tenant_id == tenant_id && r.id != user_id)
      (patched d user_id tenant_id g).users = some r) (hg : Keeps g) :
    Refused d user_id c value := by
  obtain ⟨hmem, hother⟩ := fetchrow_eq_some hr
  simp only [Bool.and_eq_true, beq_iff_eq, bne_iff_ne] at hother
  rcases h.mem_patched.mp hmem with rfl | ⟨hmem, hne⟩
  · exact absurd ((hg.id u).trans h.id) hother.2
  · exact .inr ⟨r, hmem, hne, hother.1.1⟩

end Statements

section Runs

variable {d : Store} {u : User} {user_id tenant_id : UUID} {g : User → User} {c : Contact}
  {value : Option String} {hash : Option String}

theorem hashes_run {s : Stmt} {v : Env} (hs : ∀ p, s ≠ .hash_password p) :
    hashes hash s (.run v) = some hash := by
  cases s with
  | hash_password p => exact absurd rfl (hs p)
  | _ => rfl

theorem hashes_fail {s : Stmt} {e : Exn} (hs : ∀ p, s ≠ .hash_password p) :
    hashes hash s (.fail e) = none := by
  cases s with
  | hash_password p => exact absurd rfl (hs p)
  | _ => rfl

/-- A statement of the database: it raises what the database raises, or answers. -/
theorem always_database {s : Stmt} {Q : Except Exn s.Res → Option String → Store → RunLocal → Prop}
    (hs : ∀ p, s ≠ .hash_password p)
    (herr : ∀ v e, s.eval v d = .error e → Q (.error e) hash d {})
    (hok : ∀ v a d', s.eval v d = .ok (a, d') → Q (.ok a) hash d' {}) :
    Solo.Always machine hashes (fun _ _ => True) Q (exec s) hash d {} := by
  refine (Solo.always_exec (.inr rfl)).mpr ⟨trivial, fun c j' hc => ⟨trivial, ?_⟩⟩
  cases c with
  | fail e =>
      rw [hashes_fail hs] at hc
      cases hc
  | run v =>
      have hj : j' = hash := by
        rw [hashes_run hs] at hc
        exact (Option.some.inj hc).symm
      subst hj
      change Q (s.exec v d).1 j' (s.exec v d).2 {}
      rcases s.exec_cases v d with ⟨a, d', he, hx⟩ | ⟨e, he, hx⟩
      · rw [hx]
        exact hok v a d' he
      · rw [hx]
        exact herr v e he

/-- Such a statement, and what follows its answer. -/
theorem always_database_bind {β : Type} {s : Stmt} {f : s.Res → M β}
    {Q : Except Exn β → Option String → Store → RunLocal → Prop} (hs : ∀ p, s ≠ .hash_password p)
    (herr : ∀ v e, s.eval v d = .error e → Q (.error e) hash d {})
    (hok : ∀ v a d', s.eval v d = .ok (a, d') →
      Solo.Always machine hashes (fun _ _ => True) Q (f a) hash d' {}) :
    Solo.Always machine hashes (fun _ _ => True) Q (exec s >>= f) hash d {} :=
  Solo.always_bind.mpr (always_database hs (fun v e he => ⟨trivial, herr v e he⟩) hok)

/-- A text that fits a column can be compared with any column. -/
theorem textParam_unlimited {n : ℕ} {s : String} {o : Option String}
    (h : textParam (some n) (.str s) = .ok o) : textParam none (.str s) = .ok o := by
  simp only [textParam, Except.bind_eq_ok, check_eq_ok] at h ⊢
  obtain ⟨u, hnul, _, -, ho⟩ := h
  exact ⟨u, hnul, (), rfl, ho⟩

/-- The row of the caller after the write of a contact. -/
def write (c : Contact) (value : Option String) (u : User) : User → User :=
  match c.wanted value u with
  | none => id
  | some s => c.set s

theorem keeps_write : Keeps (write c value u) := by
  unfold write
  split
  · exact keeps_id
  · exact keeps_set _ _

/-- One contact of the request. -/
theorem always_change_contact {Q : Except Exn Unit → Option String → Store → RunLocal → Prop}
    (h : Caller d user_id tenant_id u) (hg : Keeps g)
    (hdenied : Denied d u c value → ∀ e, Q (.error e) hash (patched d user_id tenant_id g) {})
    (hdone : ¬ Denied d u c value →
      Q (.ok ()) hash (patched d user_id tenant_id (write c value u ∘ g)) {}) :
    Solo.Always machine hashes (fun _ _ => True) Q (change_contact c value u user_id tenant_id)
      hash (patched d user_id tenant_id g) {} := by
  unfold change_contact
  cases hwanted : c.wanted value u with
  | none =>
      have hnot : ¬ Denied d u c value := by
        rintro ⟨s, hs, -⟩
        rw [hwanted] at hs
        cases hs
      have hQ := hdone hnot
      rw [write, hwanted] at hQ
      exact ⟨trivial, hQ⟩
  | some s =>
      have hrefused (hr : Refused d user_id c s) (e : Exn) :
          Q (.error e) hash (patched d user_id tenant_id g) {} :=
        hdenied ⟨s, hwanted, h.id ▸ hr⟩ e
      refine always_database_bind (fun _ hp => by cases hp) (fun v e he => ?_) ?_
      · refine hrefused (.inl fun o ho => ?_) e
        rw [Stmt.eval, textParam_unlimited ho] at he
        cases he
      · intro v existing d' he
        simp only [Stmt.eval, Except.bind_eq_ok, pure, Except.pure, Except.ok.injEq,
          Prod.mk.injEq] at he
        obtain ⟨_, -, hexisting, rfl⟩ := he
        cases existing with
        | some r =>
            have hr : Refused d user_id c s := h.refused_of_other hexisting hg
            exact ⟨trivial, hrefused hr _⟩
        | none =>
            refine always_database (fun _ hp => by cases hp) (fun v e he => ?_) ?_
            · by_cases hr : Refused d user_id c s
              · exact hrefused hr e
              · rw [h.eval_set_contact hg hr] at he
                cases he
            · intro v a d' he
              have hfree : ¬ Refused d user_id c s := fun hr =>
                h.eval_set_contact_refused hg hr he
              rw [h.eval_set_contact hg hfree] at he
              cases he
              have hnot : ¬ Denied d u c value := by
                rintro ⟨s', hs', hr⟩
                rw [hwanted] at hs'
                cases hs'
                exact hfree (h.id ▸ hr)
              have hQ := hdone hnot
              rwa [write, hwanted] at hQ

/-- Reading the row of the caller. -/
theorem always_get_my_profile {Q : Except Exn User → Option String → Store → RunLocal → Prop}
    (h : Caller d user_id tenant_id u) (hg : Keeps g)
    (hQ : Q (.ok (g u)) hash (patched d user_id tenant_id g) {}) :
    Solo.Always machine hashes (fun _ _ => True) Q (get_my_profile user_id tenant_id)
      hash (patched d user_id tenant_id g) {} := by
  refine always_database_bind (fun _ hp => by cases hp) (fun v e he => by cases he) ?_
  intro v row d' he
  cases he
  have hrow : fetchrow v.pick (fun r => r.id == user_id && r.tenant_id == tenant_id)
      (patched d user_id tenant_id g).users = some (g u) := h.fetch hg v.pick
  rw [hrow]
  exact ⟨trivial, hQ⟩

/-- The two contacts of the request, after the password. -/
theorem always_contacts (data : UserUpdate) (hash : Option String)
    {Q : Except Exn User → Option String → Store → RunLocal → Prop}
    (h : Caller d user_id tenant_id u) (hg : Keeps g)
    (hphone : Denied d u .phone data.phone →
      ∀ e, Q (.error e) hash (patched d user_id tenant_id g) {})
    (hemail : ¬ Denied d u .phone data.phone → Denied d u .email data.email →
      ∀ e, Q (.error e) hash (patched d user_id tenant_id (write .phone data.phone u ∘ g)) {})
    (hdone : ¬ Denied d u .phone data.phone → ¬ Denied d u .email data.email → ∀ row,
      Q (.ok row) hash (patched d user_id tenant_id
        (write .email data.email u ∘ write .phone data.phone u ∘ g)) {}) :
    Solo.Always machine hashes (fun _ _ => True) Q (do
      change_contact .phone data.phone u user_id tenant_id
      change_contact .email data.email u user_id tenant_id
      get_my_profile user_id tenant_id) hash (patched d user_id tenant_id g) {} := by
  have hg' : Keeps (write .phone data.phone u ∘ g) := hg.comp keeps_write
  refine Solo.always_bind.mpr (always_change_contact h hg ?_ ?_)
  · exact fun hdenied e => ⟨trivial, hphone hdenied e⟩
  · intro hallowed
    refine Solo.always_bind.mpr (always_change_contact h hg' ?_ ?_)
    · exact fun hdenied e => ⟨trivial, hemail hallowed hdenied e⟩
    · intro hallowed'
      exact always_get_my_profile h (hg'.comp keeps_write) (hdone hallowed hallowed' _)

end Runs

section Exact

variable {d : Store} {u : User} {user_id tenant_id : UUID} {data : UserUpdate}

theorem wanted_eq_some {c : Contact} {value : Option String} {s : String} :
    c.wanted value u = some s ↔ value = some s ∧ s ≠ c.of u := by
  simp [Contact.wanted, Option.filter_eq_some_iff]

theorem wanted_eq_none {c : Contact} {value : Option String} (h : c.wanted value u = none) :
    value.getD (c.of u) = c.of u := by
  cases value with
  | none => rfl
  | some s =>
      by_contra hne
      have hwanted : c.wanted (some s) u = some s := wanted_eq_some.mpr ⟨rfl, hne⟩
      rw [h] at hwanted
      cases hwanted

/-- The password is written first. -/
def hashed (hash : Option String) (u : User) : User :=
  { u with hashed_password := hash.getD u.hashed_password }

theorem keeps_hashed (hash : Option String) : Keeps (hashed hash) := ⟨fun _ => rfl, fun _ => rfl⟩

/-- The password of the request. -/
theorem always_change_password {Q : Except Exn Unit → Option String → Store → RunLocal → Prop}
    {p : String} {hash : Option String} (hfail : ∀ e, Q (.error e) hash d {})
    (hok : ∀ T, Q (.ok ()) (some T) (patched d user_id tenant_id (hashed (some T))) {}) :
    Solo.Always machine hashes (fun _ _ => True) Q (change_password (some p) user_id tenant_id)
      hash d {} := by
  refine Solo.always_exec_bind (.inl rfl) trivial fun c j' hc => ?_
  cases c with
  | fail e =>
      cases hc
      exact ⟨trivial, hfail e⟩
  | run v =>
      cases hc
      refine always_database (fun _ hp => by cases hp) (fun v e he => by cases he) ?_
      intro v' a d' he
      cases he
      exact hok v.text

/-- The three writes leave the user as requested. -/
theorem write_requested {hash : Option String} (hhash : data.password = none → hash = none) :
    (write .email data.email u ∘ write .phone data.phone u ∘ hashed hash) u =
      requested data hash u := by
  have hpassword : (data.password.bind fun _ => hash) = hash := by
    cases hp : data.password with
    | none => rw [hhash hp]; rfl
    | some p => rfl
  have hphone (x : User) (hx : x.phone = u.phone) : write .phone data.phone u x =
      { x with phone := data.phone.getD u.phone } := by
    unfold write
    cases hwanted : Contact.phone.wanted data.phone u with
    | none =>
        have hsame : data.phone.getD u.phone = u.phone := wanted_eq_none hwanted
        rw [hsame, ← hx]
        rfl
    | some s => rw [(wanted_eq_some.mp hwanted).1]; rfl
  have hemail (x : User) (hx : x.email = u.email) : write .email data.email u x =
      { x with email := data.email.getD u.email } := by
    unfold write
    cases hwanted : Contact.email.wanted data.email u with
    | none =>
        have hsame : data.email.getD u.email = u.email := wanted_eq_none hwanted
        rw [hsame, ← hx]
        rfl
    | some s => rw [(wanted_eq_some.mp hwanted).1]; rfl
  have hlast := hemail { hashed hash u with phone := data.phone.getD u.phone } rfl
  rw [Function.comp_apply, Function.comp_apply, hphone (hashed hash u) rfl, hlast, requested,
    hpassword]
  rfl

/-- Nothing is written before a refused contact, so nothing is left of a call that raises. -/
theorem allOrNothing_of_safe (hids : (d.users.map (·.id)).Nodup)
    (hsafe : Safe d user_id tenant_id data) : AllOrNothing d user_id tenant_id data := by
  refine Solo.always_bind.mpr (always_database_bind (fun _ hp => by cases hp)
    (fun v e he => by cases he) ?_)
  intro v row d' he
  cases he
  cases hrow : fetchrow v.pick (fun r => r.id == user_id && r.tenant_id == tenant_id) d.users with
  | none => exact ⟨trivial, trivial, rfl⟩
  | some u =>
      obtain ⟨hmem, hown⟩ := fetchrow_eq_some hrow
      have h : Caller d user_id tenant_id u := ⟨hids, hmem, hown⟩
      obtain ⟨hphone, hemail⟩ := hsafe u hmem hown
      have hself (hash : Option String) (hhash : hash = none) :
          patched d user_id tenant_id (hashed hash) = d := by
        rw [h.patched_eq, hhash]
        rfl
      refine ⟨trivial, ?_⟩
      have hrest (hash : Option String) (hhash : data.password = none → hash = none) :=
        always_contacts data hash (Q := fun r hash d' _ => match r with
          | .error _ => d' = d
          | .ok _ => d' = patched d user_id tenant_id (requested data hash)) h (keeps_hashed hash)
          (fun hdenied e => hself hash (hhash (hphone hdenied)))
          (fun hallowed hdenied e => by
            obtain ⟨hpassword, hwanted⟩ := hemail hdenied hallowed
            have hg : (write .phone data.phone u ∘ hashed hash) u = hashed hash u := by
              rw [Function.comp_apply, write, hwanted]
              rfl
            rw [h.patched_congr hg]
            exact hself hash (hhash hpassword))
          (fun _ _ row => h.patched_congr (write_requested hhash))
      cases hp : data.password with
      | none =>
          have hpatched := hrest none fun _ => rfl
          rw [hself none rfl] at hpatched
          exact hpatched
      | some p =>
          refine Solo.always_bind.mpr (always_change_password (fun e => ⟨trivial, rfl⟩) fun T => ?_)
          exact hrest (some T) fun hnone => by rw [hp] at hnone; cases hnone

/-- Some hash of the password differs from the one that is stored. -/
theorem exists_hash (u : User) : ∃ T, T ≠ u.hashed_password := by
  refine ⟨u.hashed_password ++ "$", fun h => ?_⟩
  have hlength := congrArg String.length h
  rw [String.length_append] at hlength
  exact absurd hlength (by simp)

/-- In every state the environment has a choice. -/
theorem hashes_total (hash : Option String) (s : Stmt) :
    ∃ c hash', hashes hash s c = some hash' := by
  refine ⟨.run {}, ?_⟩
  cases s with
  | hash_password p => exact ⟨_, rfl⟩
  | _ => exact ⟨hash, rfl⟩

/-- The call gets to the contacts, with any hash of a new password. -/
theorem AllOrNothing.contacts (h : AllOrNothing d user_id tenant_id data)
    (hu : Caller d user_id tenant_id u) {hash : Option String}
    (hhash : data.password = none ↔ hash = none) :
    Solo.Always machine hashes (fun _ _ => True) (fun r hash d' _ => match r with
      | .error _ => d' = d
      | .ok _ => d' = patched d user_id tenant_id (requested data hash)) (do
        change_contact .phone data.phone u user_id tenant_id
        change_contact .email data.email u user_id tenant_id
        get_my_profile user_id tenant_id) hash (patched d user_id tenant_id (hashed hash)) {} := by
  have hself : patched d user_id tenant_id (hashed none) = d := hu.patched_eq.mpr rfl
  have hrow : (Stmt.select_contact user_id tenant_id).eval {} d = .ok (some u, d) := by
    have hfetch := hu.fetch (keeps_hashed none) 0
    rw [hself] at hfetch
    change Except.ok (fetchrow 0 (own user_id tenant_id) d.users, d) = .ok (some u, d)
    rw [hfetch]
    rfl
  have hpassword := (run (Solo.always_bind.mp h) rfl rfl hrow).2
  cases hp : data.password with
  | none =>
      rw [hhash.mp hp, hself]
      rw [hp] at hpassword
      exact hpassword
  | some p =>
      cases hash with
      | none =>
          rw [hhash.mpr rfl] at hp
          cases hp
      | some T =>
          rw [hp] at hpassword
          have hset : (Stmt.set_hashed_password T user_id tenant_id).eval {} d =
              .ok ((), patched d user_id tenant_id (hashed (some T))) := rfl
          have hhashed := run (v := { text := T }) (Solo.always_bind.mp hpassword) rfl rfl rfl
          exact last hhashed rfl rfl hset

/-- A contact that is refused after something was written leaves it behind. -/
theorem safe_of_allOrNothing (hids : (d.users.map (·.id)).Nodup)
    (h : AllOrNothing d user_id tenant_id data) : Safe d user_id tenant_id data := by
  intro u hmem hown
  have hu : Caller d user_id tenant_id u := ⟨hids, hmem, hown⟩
  obtain ⟨T, hT⟩ := exists_hash u
  obtain ⟨hash, hhash, hnew⟩ : ∃ hash : Option String, (data.password = none ↔ hash = none) ∧
      (hash = none ∨ hash.getD u.hashed_password ≠ u.hashed_password) := by
    cases hp : data.password with
    | none => exact ⟨none, by simp, .inl rfl⟩
    | some p => exact ⟨some T, by simp, .inr hT⟩
  have hcontacts := h.contacts hu hhash
  have hg := keeps_hashed hash
  constructor
  · intro hdenied
    have hstops := always_contacts data hash (Q := fun r _ d' _ => (∃ e, r = .error e) ∧
      d' = patched d user_id tenant_id (hashed hash)) hu hg
      (fun _ e => ⟨⟨e, rfl⟩, rfl⟩) (fun hallowed => absurd hdenied hallowed)
      (fun hallowed => absurd hdenied hallowed)
    obtain ⟨_, _, d', _, hd, ⟨e, rfl⟩, hd'⟩ := (hcontacts.and hstops).ends hashes_total
    have hsame : hashed hash u = u := hu.patched_eq.mp (hd'.symm.trans hd)
    exact hhash.mpr (hnew.resolve_right fun hne => hne (congrArg User.hashed_password hsame))
  · intro hdenied hallowed
    have hstops := always_contacts data hash (Q := fun r _ d' _ => (∃ e, r = .error e) ∧
      d' = patched d user_id tenant_id (write .phone data.phone u ∘ hashed hash)) hu hg
      (fun hphone => absurd hphone hallowed) (fun _ _ e => ⟨⟨e, rfl⟩, rfl⟩)
      (fun _ hemail => absurd hdenied hemail)
    obtain ⟨_, _, d', _, hd, ⟨e, rfl⟩, hd'⟩ := (hcontacts.and hstops).ends hashes_total
    have hsame : write .phone data.phone u (hashed hash u) = u :=
      hu.patched_eq.mp (hd'.symm.trans hd)
    cases hwanted : Contact.phone.wanted data.phone u with
    | none =>
        rw [write, hwanted] at hsame
        exact ⟨hhash.mpr (hnew.resolve_right fun hne =>
          hne (congrArg User.hashed_password hsame)), rfl⟩
    | some s =>
        rw [write, hwanted] at hsame
        exact absurd (congrArg User.phone hsame) (wanted_eq_some.mp hwanted).2

/-- A profile update is all or nothing exactly when nothing is written before a contact that
is refused: a refused phone comes without a password, and a refused email, with a phone that is
not refused, without a password and a new phone. -/
theorem allOrNothing_iff (hids : (d.users.map (·.id)).Nodup) :
    AllOrNothing d user_id tenant_id data ↔ Safe d user_id tenant_id data :=
  ⟨safe_of_allOrNothing hids, allOrNothing_of_safe hids⟩

end Exact

/-- A customer of a tenant. -/
def customerOf (id tenant_id : UUID) (email phone : String) : User :=
  { id, email, phone, hashed_password := "", tenant_id }

/-- Two tenants with one customer each. -/
def twoTenants : Store :=
  { tenants := [{ id := 1, owner_phone := "254700000001", next_billing_date := 0 },
      { id := 2, owner_phone := "254700000002", next_billing_date := 0 }]
    users := [customerOf 3 1 "a@example.com" "254711000003",
      customerOf 4 2 "b@example.com" "254711000004"] }

/-- The phone of the other tenant's customer alone. -/
theorem allOrNothing_phone : AllOrNothing twoTenants 3 1 { phone := some "254711000004" } := by
  refine (allOrNothing_iff (by decide)).mpr fun u _ _ => ⟨fun _ => rfl, fun hdenied _ => ?_⟩
  obtain ⟨s, hs, -⟩ := hdenied
  cases hs

/-- The same phone with a new password. -/
theorem not_allOrNothing : ¬ AllOrNothing twoTenants 3 1
    { phone := some "254711000004", password := some "new-password" } := by
  intro h
  have hsafe := safe_of_allOrNothing (by decide) h (customerOf 3 1 "a@example.com" "254711000003")
    (by decide) rfl
  have hrefused : Refused twoTenants 3 .phone "254711000004" :=
    .inr ⟨customerOf 4 2 "b@example.com" "254711000004", by decide, by decide, rfl⟩
  have hpassword := hsafe.1 ⟨"254711000004", by decide +kernel, hrefused⟩
  cases hpassword

end ProfileUpdate

end FrixelConnect
