import FrixelConnect.SuperAdmins
import FrixelConnect.Interleaving.Discipline

/-!
# The enrolment of a TOTP secret

The setup of an admin and the first verification each read the admin, and write it later.
The enrolled secret is the one that the accepted code was compared with, and it never
changes, in every run in which a setup finds the admin as unverified as it has read it,
and a first verification finds the secret that it has read.
-/

namespace FrixelConnect

open Calendar Interleaving Python SuperAdmins

namespace Enrolment

/-- The keys of the admins, a secret for every verified one, and the secrets of the enrolments. -/
structure Enrolled (d : AdminStore) : Prop where
  ids : (d.super_admins.map (·.id)).Nodup
  secrets : ∀ a ∈ d.super_admins, a.totp_verified_at ≠ none → a.totp_secret ≠ none
  enrolled : ∀ e ∈ d.enrolled, e.stored = some e.checked

/-- A verified admin stays verified and keeps the secret. -/
def Stable (d d' : AdminStore) : Prop := ∀ a ∈ d.super_admins, a.totp_verified_at ≠ none →
  ∃ a' ∈ d'.super_admins, a'.id = a.id ∧ a'.totp_verified_at ≠ none ∧
    a'.totp_secret = a.totp_secret

theorem Stable.refl (d : AdminStore) : Stable d d := fun a ha hv => ⟨a, ha, rfl, hv, rfl⟩

theorem Stable.trans {d₁ d₂ d₃ : AdminStore} (h : Stable d₁ d₂) (h' : Stable d₂ d₃) :
    Stable d₁ d₃ := by
  intro a ha hv
  obtain ⟨a₂, ha₂, hid₂, hv₂, hsecret₂⟩ := h a ha hv
  obtain ⟨a₃, ha₃, hid₃, hv₃, hsecret₃⟩ := h' a₂ ha₂ hv₂
  exact ⟨a₃, ha₃, hid₃.trans hid₂, hv₃, hsecret₃.trans hsecret₂⟩

/-- Edits of the rest of the system, which enrols no admin and leaves the enrolled ones alone. -/
def OtherEdit (d d' : AdminStore) : Prop :=
  (d'.super_admins.map (·.id)).Nodup ∧ d'.enrolled = d.enrolled ∧ Stable d d' ∧ Stable d' d

/-- Runs in which a setup and a first verification find what they have read. -/
def steady : AdminRules where
  stmt s c d := match s, c with
    | .update_totp_secret id _ totp_verified_at, .run _ =>
        ∀ a ∈ d.super_admins, a.id = id → a.totp_verified_at = totp_verified_at
    | .set_totp_verified id _ checked, .run _ => ∀ a ∈ d.super_admins, a.id = id →
        a.totp_verified_at = none → a.totp_secret = some checked
    | _, _ => True
  edit := OtherEdit

def enrolment : Discipline AdminStmt AdminStmt.Res Unit Exn AdminStore AdminEnv UUID AdminCall
    Unit Empty where
  machine := adminMachine
  rules := steady
  base := Enrolled
  guar := Stable
  guar_refl := Stable.refl
  guar_trans _ _ _ := Stable.trans

variable {d d' : AdminStore} {s : AdminStmt} {v : AdminEnv} {a : s.Res} {id : UUID}

/-- A setup stores its secret only for an admin that was not verified. -/
def SetsUnverified : AdminStmt → Prop
  | .update_totp_secret _ _ totp_verified_at => totp_verified_at = none
  | _ => True

/-- A verified row that a look-up answers has a secret. -/
def AnswersEnrolled : (s : AdminStmt) → s.Res → Prop
  | .select_pre_auth_token _, found =>
      ∀ row : PreAuthRow, found = some row → row.totp_verified_at ≠ none → row.totp_secret ≠ none
  | _, _ => True

variable (id) in
/-- An update of the admin with the id `id`. -/
theorem Enrolled.updateAdmins {f : SuperAdmin → SuperAdmin} (h : Enrolled d)
    (hid : ∀ a, (f a).id = a.id)
    (hf : ∀ a ∈ d.super_admins, a.id = id → (a.totp_verified_at ≠ none →
      (f a).totp_verified_at ≠ none ∧ (f a).totp_secret = a.totp_secret) ∧
      ((f a).totp_verified_at ≠ none → (f a).totp_secret ≠ none)) :
    Enrolled (d.updateAdmins id f) ∧ Stable d (d.updateAdmins id f) := by
  refine ⟨⟨?_, fun a' ha' hv => ?_, h.enrolled⟩, fun a ha hv => ?_⟩
  · have hids : (d.updateAdmins id f).super_admins.map (·.id) = d.super_admins.map (·.id) := by
      rw [AdminStore.updateAdmins, updateRows, List.map_map]
      apply List.map_congr_left
      intro a _
      dsimp only [Function.comp]
      split
      · exact hid a
      · rfl
    rw [hids]
    exact h.ids
  · obtain ⟨a, ha, rfl⟩ := List.mem_map.mp ha'
    split at hv
    · next hrow =>
        rw [if_pos hrow]
        exact (hf a ha (beq_iff_eq.mp hrow)).2 hv
    · next hrow =>
        rw [if_neg hrow]
        exact h.secrets a ha hv
  · refine ⟨_, List.mem_map_of_mem ha, ?_⟩
    split
    · next hrow => exact ⟨hid a, (hf a ha (beq_iff_eq.mp hrow)).1 hv⟩
    · exact ⟨rfl, hv, rfl⟩

/-- What a statement does to the admins in a steady run. -/
theorem Enrolled.exec (h : Enrolled d) (hs : SetsUnverified s) (hr : steady.stmt s (.run v) d)
    (he : s.eval v d = .ok (a, d')) : Enrolled d' ∧ Stable d d' ∧ AnswersEnrolled s a := by
  have hsame (hadmins : d'.super_admins = d.super_admins) (henrolled : d'.enrolled = d.enrolled) :
      Enrolled d' ∧ Stable d d' :=
    ⟨⟨hadmins ▸ h.ids, hadmins ▸ h.secrets, henrolled ▸ h.enrolled⟩,
      fun a ha hv => ⟨a, hadmins ▸ ha, rfl, hv, rfl⟩⟩
  cases s with
  | select_pre_auth_token token_hash =>
      cases he
      refine ⟨h, Stable.refl d, fun row hrow hv => ?_⟩
      have hfound : (AdminStmt.select_pre_auth_token token_hash).eval v d = .ok (some row, d) := by
        rw [← hrow]
        rfl
      obtain ⟨-, a, ha, -, hsecret, hverified⟩ := AdminStmt.eval_select_pre_auth_token hfound
      rw [← hsecret]
      exact h.secrets a ha (hverified ▸ hv)
  | insert_pre_auth_token super_admin_id token_hash =>
      obtain ⟨t, rfl, -, -⟩ := AdminStmt.eval_insert_pre_auth_token he
      obtain ⟨hb, hstable⟩ := hsame rfl rfl
      exact ⟨hb, hstable, trivial⟩
  | redis_incr key =>
      simp only [AdminStmt.eval] at he
      split at he
      · cases he
        exact ⟨(hsame rfl rfl).1, (hsame rfl rfl).2, trivial⟩
      · cases he
        exact ⟨(hsame rfl rfl).1, (hsame rfl rfl).2, trivial⟩
  | update_totp_secret id totp_secret totp_verified_at =>
      cases he
      have hread : totp_verified_at = none := hs
      obtain ⟨hb, hstable⟩ := h.updateAdmins id
        (f := fun a => { a with totp_secret := some totp_secret }) (fun _ => rfl) fun a ha hid =>
          ⟨fun hv => absurd ((hr a ha hid).trans hread) hv, fun _ h => by cases h⟩
      exact ⟨hb, hstable, trivial⟩
  | set_totp_verified id now checked =>
      cases he
      obtain ⟨hb, hstable⟩ := h.updateAdmins id
        (f := fun a => { a with totp_verified_at := some now, last_login_at := some now })
        (fun _ => rfl) fun a ha hid => by
          refine ⟨fun _ => ⟨Option.some_ne_none _, rfl⟩, fun _ => ?_⟩
          by_cases hv : a.totp_verified_at = none
          · rw [hr a ha hid hv]
            exact fun h => by cases h
          · exact h.secrets a ha hv
      refine ⟨⟨hb.ids, hb.secrets, fun e he => ?_⟩, hstable, trivial⟩
      rcases List.mem_append.mp he with he | he
      · exact h.enrolled e he
      · obtain ⟨a, ha, rfl⟩ := List.mem_map.mp he
        obtain ⟨ha, hrow⟩ := List.mem_filter.mp ha
        simp only [Bool.and_eq_true, beq_iff_eq, Option.isNone_iff_eq_none] at hrow
        exact hr a ha hrow.1 hrow.2
  | set_last_login id now =>
      cases he
      obtain ⟨hb, hstable⟩ := h.updateAdmins id
        (f := fun a => { a with last_login_at := some now }) (fun _ => rfl) fun a ha _ =>
          ⟨fun hv => ⟨hv, rfl⟩, fun hv => h.secrets a ha hv⟩
      exact ⟨hb, hstable, trivial⟩
  | _ =>
      cases he
      exact ⟨(hsame rfl rfl).1, (hsame rfl rfl).2, trivial⟩

section Calls

variable {α β : Type} {Q : Except Exn β → Unit → Prop}

theorem does_run (hs : SetsUnverified s) :
    enrolment.Does (fun r _ => ∀ a, r = .ok a → AnswersEnrolled s a) (run s) () := by
  refine Discipline.does_exec adminMachine_restores (fun d e hb ho => ?_) fun d v a d' hb ho hr hx => ?_
  · exact ⟨(), .stay hb ho, fun _ h => by cases h⟩
  · obtain ⟨hb', hstable, hanswer⟩ := Enrolled.exec hb hs hr (AdminStmt.exec_eq_ok.mp hx)
    have hmoves : enrolment.Moves [] d d' ({} : Local AdminStmt Unit AdminEnv) () {} () :=
      ⟨hb', trivial, fun _ _ _ _ => trivial, fun t => t.elim, fun _ _ => trivial, hstable⟩
    refine ⟨(), hmoves, fun _ h => ?_⟩
    cases h
    exact hanswer

/-- A statement whose answer does not matter. -/
theorem does_any {f : s.Res → AdminM β} (hs : SetsUnverified s)
    (hf : ∀ a, enrolment.Does (fun _ _ => True) (f a) ()) :
    enrolment.Does (fun _ _ => True) (run s >>= f) () :=
  Discipline.Does.bind (does_run hs) (fun _ _ _ => trivial) fun a _ _ => hf a

theorem does_validate (raw_token : String) : enrolment.Does (fun r _ => ∀ row, r = .ok row →
    row.totp_verified_at ≠ none → row.totp_secret ≠ none)
    (validate_pre_auth_token raw_token false) () := by
  refine Discipline.Does.bind (does_run trivial) (fun _ _ _ _ h => by cases h) fun found _ hfound => ?_
  cases found with
  | none => exact Discipline.does_ret fun _ h => by cases h
  | some row =>
      dsimp only
      split
      · exact Discipline.does_ret fun _ h => by cases h
      refine Discipline.Does.bind (does_run trivial) (fun _ _ _ _ h => by cases h) fun now _ _ => ?_
      split
      · exact Discipline.does_ret fun _ h => by cases h
      split
      · exact Discipline.does_ret fun _ h => by cases h
      · refine Discipline.does_ret fun row' h => ?_
        cases h
        exact hfound _ rfl row rfl

theorem does_setup (pre_auth_token : String) :
    enrolment.Does (fun _ _ => True) (setup_totp pre_auth_token) () := by
  refine Discipline.Does.bind (does_validate pre_auth_token) (fun _ _ _ => trivial) fun row _ hrow => ?_
  split
  · exact Discipline.does_ret trivial
  · next hopen =>
      have hunverified : row.totp_verified_at = none := by
        by_contra hv
        have hsecret := hrow row rfl hv
        simp [Option.isSome_iff_ne_none, hv, hsecret] at hopen
      exact does_any trivial fun _ => does_any trivial fun _ => does_any hunverified fun _ =>
        does_any trivial fun _ => Discipline.does_ret trivial

theorem does_lock (row : PreAuthRow) (reason : String) :
    enrolment.Does (fun _ _ => True) (lock row reason) () :=
  does_any trivial fun _ => does_any trivial fun _ => Discipline.does_ret trivial

theorem does_reject (row : PreAuthRow) (redis_key : String) :
    enrolment.Does (fun _ _ => True) (reject row redis_key) () := by
  refine does_any trivial fun new_attempts => ?_
  refine Discipline.Does.bind (B := fun _ _ => True) ?_ (fun _ _ _ => trivial) fun _ _ _ => ?_
  · unfold expire_first
    split
    · exact (does_run (s := .redis_expire redis_key 300) trivial).mono fun _ _ _ => trivial
    · exact Discipline.does_ret trivial
  split
  · exact does_lock row _
  · exact does_any trivial fun _ => Discipline.does_ret trivial

theorem does_accept (row : PreAuthRow) (redis_key totp_secret : String) :
    enrolment.Does (fun _ _ => True) (accept row redis_key totp_secret) () := by
  refine does_any trivial fun _ => does_any trivial fun _ => does_any trivial fun now => ?_
  refine Discipline.Does.bind (B := fun _ _ => True) ?_ (fun _ _ _ => trivial) fun _ _ _ => ?_
  · unfold record_login
    split
    · exact (does_run (s := .set_totp_verified row.super_admin_id now totp_secret) trivial).mono
        fun _ _ _ => trivial
    · exact (does_run (s := .set_last_login row.super_admin_id now) trivial).mono
        fun _ _ _ => trivial
  · exact does_any trivial fun _ => does_any trivial fun _ => Discipline.does_ret trivial

theorem does_verify (pre_auth_token totp_code : String) :
    enrolment.Does (fun _ _ => True) (verify_totp pre_auth_token totp_code) () := by
  refine Discipline.Does.bind (does_validate pre_auth_token) (fun _ _ _ => trivial) fun row _ _ => ?_
  refine does_any trivial fun attempts => ?_
  split
  · exact does_lock row _
  unfold compare_code
  split
  · exact Discipline.does_ret trivial
  refine Discipline.Does.bind (B := fun _ _ => True) ?_ (fun _ _ _ => trivial) fun raw_secret _ _ => ?_
  · exact Discipline.Does.tryCatch (does_run trivial) (fun _ _ _ => trivial) fun _ _ _ =>
      Discipline.does_ret trivial
  refine does_any trivial fun accepted => ?_
  split
  · exact does_accept row _ _
  · exact does_reject row _

theorem does_login (email password : String) :
    enrolment.Does (fun _ _ => True) (authenticate_password email password) () := by
  refine does_any trivial fun row => does_any trivial fun password_ok => ?_
  cases row with
  | none => exact Discipline.does_ret trivial
  | some row =>
      dsimp only
      split
      · exact Discipline.does_ret trivial
      split
      · exact Discipline.does_ret trivial
      · exact does_any trivial fun _ => does_any trivial fun _ => does_any trivial fun _ =>
          Discipline.does_ret trivial

theorem does_call (w : AdminCall) : enrolment.Does (fun _ _ => True) w.program () := by
  cases w with
  | login email password =>
      exact Discipline.Does.bind (does_login email password) (fun _ _ _ => trivial)
        fun _ _ _ => Discipline.does_ret trivial
  | setup pre_auth_token =>
      exact Discipline.Does.bind (does_setup pre_auth_token) (fun _ _ _ => trivial)
        fun _ _ _ => Discipline.does_ret trivial
  | verify pre_auth_token totp_code =>
      exact Discipline.Does.bind (does_verify pre_auth_token totp_code) (fun _ _ _ => trivial)
        fun _ _ _ => Discipline.does_ret trivial

end Calls

/-- The keys of the admins, and a secret for every verified one; nobody is enrolled yet. -/
structure Initial (d : AdminStore) : Prop where
  ids : (d.super_admins.map (·.id)).Nodup
  secrets : ∀ a ∈ d.super_admins, a.totp_verified_at ≠ none → a.totp_secret ≠ none
  enrolled : d.enrolled = []

/-- No call runs yet. -/
def idle (d : AdminStore) : AdminState := { store := d }

theorem valid_idle (hd : Initial d) : Valid enrolment.protocol (fun _ _ _ => True) (idle d) :=
  Valid.start (.empty ⟨hd.ids, hd.secrets, fun e he => by simp [hd.enrolled] at he⟩ trivial)

theorem valid_reaches {s s' : AdminState} (h : Valid enrolment.protocol (fun _ _ _ => True) s)
    (hs : Reaches adminSystem steady s s') :
    Valid enrolment.protocol (fun _ _ _ => True) s' ∧ Stable s.store s'.store := by
  refine h.reaches (Y := adminSystem) rfl ?_ ?_ hs
  · intro w d d' p ls hi _ hstart
    cases hstart
    exact ⟨(), hi.joins trivial rfl fun _ => trivial,
      Protocol.wp_mono (does_call w) fun _ _ _ _ => trivial⟩
  · rintro d d' ls hi ⟨hids, henrolled, hstable, hback⟩
    refine ⟨⟨⟨hids, fun a' ha' hv => ?_, henrolled ▸ hi.base.enrolled⟩, fun _ _ => trivial,
      hi.apart, trivial⟩, hstable⟩
    obtain ⟨a, ha, -, hv, hsecret⟩ := hback a' ha' hv
    rw [← hsecret]
    exact hi.base.secrets a ha hv

/-- Any interleaving. The rest of the system enrols no admin and leaves the enrolled ones alone. -/
def unsteady : AdminRules where
  edit := OtherEdit

section Decidable

variable (s : AdminStmt) (c : Choice Exn AdminEnv) (w : AdminCall) (d d' : AdminStore)

instance : Decidable (steady.stmt s c d) := by
  cases c with
  | fail e => cases s <;> exact .isTrue trivial
  | run v =>
      cases s with
      | update_totp_secret id _ totp_verified_at =>
          exact inferInstanceAs (Decidable (∀ a ∈ d.super_admins, a.id = id →
            a.totp_verified_at = totp_verified_at))
      | set_totp_verified id _ checked =>
          exact inferInstanceAs (Decidable (∀ a ∈ d.super_admins, a.id = id →
            a.totp_verified_at = none → a.totp_secret = some checked))
      | _ => exact .isTrue trivial

instance : Decidable (steady.spawn w d) := .isTrue trivial

noncomputable instance : Decidable (steady.edit d d') := Classical.propDecidable _

instance : Decidable (unsteady.stmt s c d) := .isTrue trivial

instance : Decidable (unsteady.spawn w d) := .isTrue trivial

noncomputable instance : Decidable (unsteady.edit d d') := Classical.propDecidable _

end Decidable

/-- A new admin who has entered the password. -/
def loggedIn : AdminStore where
  super_admins := [{ id := 1, email := "fred@example.com", hashed_password := "", full_name := "Fred" }]
  pre_auth_tokens := [{ id := 2, super_admin_id := 1, token_hash := sha256 "pre-auth"
                        expires_at := 5 * minute }]

theorem initial_loggedIn : Initial loggedIn where
  ids := List.nodup_singleton _
  secrets := by decide
  enrolled := rfl

/-- `n` steps of call `i`, in which codes are right and texts are `text`. -/
def answers (n i : ℕ) (text : String) : List AdminLabel :=
  List.replicate n (.step i (.run { accepted := true, text }))

end Enrolment

end FrixelConnect
