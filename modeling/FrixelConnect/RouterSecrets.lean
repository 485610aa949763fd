import FrixelConnect.GracePeriod

/-!
# Secrets on the routers

A call that runs alone, with a pattern of failures, and what its requests do to the secrets
on the routers. A secret is looked up by its name and switched by its id.
-/

namespace FrixelConnect

open Calendar Interleaving

namespace SubscriptionStore

/-- The store without the messages that were sent. -/
def quiet (d : SubscriptionStore) : SubscriptionStore := { d with sms := [] }

/-- What the billing run does not change of the store. -/
def fixed (d : SubscriptionStore) : SubscriptionStore :=
  let subscriptions := d.subscriptions.map fun x => { x with status := .active }
  let secrets := d.secrets.map fun s => { s with disabled := false }
  { d with subscriptions, secrets, sms := [] }

end SubscriptionStore

namespace Subscriptions

/-- A time, and what may fail of everything else. -/
structure Pattern where
  now : Timestamptz
  stmt : SubscriptionStmt → Choice Exn SubscriptionEnv

namespace Pattern

variable (f : Pattern)

/-- Reading the clock does not fail. -/
def fate : SubscriptionFate where
  stmt s := if s.query = .utc_now then .run { now := f.now } else f.stmt s
  commit := .run {}

/-- The store after a program that runs alone. -/
def after {α : Type} (p : SubscriptionM α) (d : SubscriptionStore) : SubscriptionStore :=
  (Solo.outcome subscriptionMachine f.fate p d {}).2.1

/-- What the billing run does for a subscription. -/
def doneFor (id : UUID) (d : SubscriptionStore) : List SubscriptionStmt :=
  (Solo.performed subscriptionMachine f.fate pppoe_billing_cron d {}).filter fun s =>
    s.subscription == some id

/-- The statement fails. -/
def Fails (s : SubscriptionStmt) : Prop := (f.fate.stmt s).isRun = false

/-- The client for a router, unless its password cannot be decrypted. -/
def client (caller : Option UUID) (router : RouterLogin) : Option MikroTikClient :=
  match f.fate.stmt ⟨caller, .decrypt_secret router.password_encrypted⟩ with
  | .fail _ => none
  | .run v => some {
      host := router.host, port := router.port, username := router.username
      password := v.password }

end Pattern

/-- The secret is the one with the name on the router. -/
def PppSecret.belongs (router : RouterLogin) (name : String) (s : PppSecret) : Bool :=
  s.host == router.host && s.port == router.port && s.name == name

/-- The keys and references of the tables. On one router the ids and the names of the secrets are
unique, and no id is empty. -/
structure Sound (d : SubscriptionStore) : Prop where
  ids : (d.subscriptions.map (·.id)).Nodup
  packages : ∀ x ∈ d.subscriptions, ∃ p ∈ d.packages, p.id = x.package_id
  users : (d.users.map (·.id)).Nodup
  phones : (d.users.map (·.phone)).Nodup
  router_ids : (d.routers.map (·.id)).Nodup
  routers : ∀ u ∈ d.users, ∀ id, u.router_id = some id → ∃ r ∈ d.routers, r.id = id
  secret_ids : ∀ s ∈ d.secrets, s.id ≠ ""
  secrets : ∀ s ∈ d.secrets, ∀ t ∈ d.secrets, s.host = t.host → s.port = t.port →
    (s.id = t.id ↔ s.name = t.name)

/-- No enabled secret with the name is on the router. -/
def SecretOff (d : SubscriptionStore) (router : RouterLogin) (name : String) : Prop :=
  ∀ s ∈ d.secrets, PppSecret.belongs router name s = true → s.disabled = true

/-- One of the requests that disable the secret on the router fails. -/
def RouterFails (f : Pattern) (caller : Option UUID) (router : RouterLogin) (name : String)
    (d : SubscriptionStore) : Prop :=
  match f.client caller router with
  | none => True
  | some client => f.Fails ⟨caller, .find_ppp_secret client name⟩ ∨
      ∃ s ∈ d.secrets, PppSecret.belongs router name s = true ∧
        f.Fails ⟨caller, .switch_ppp_secret client s.id true⟩

section Switch

/-- The store after the secret with the name was disabled. -/
def switchOff (d : SubscriptionStore) (p : PppSecret → Bool) : SubscriptionStore :=
  { d with secrets := updateRows p (fun s => { s with disabled := true }) d.secrets }

variable {f : Pattern} {d : SubscriptionStore} {caller : Option UUID} {router : RouterLogin}
  {name : String} {q : SubscriptionQuery} {fails : Prop} {d₁ : SubscriptionStore}

/-- A statement that fails, or goes through. -/
theorem fails_or (f : Pattern) (s : SubscriptionStmt) :
    (f.Fails s ∧ ∃ e, f.fate.stmt s = .fail e) ∨ (¬ f.Fails s ∧ ∃ v, f.fate.stmt s = .run v) := by
  unfold Pattern.Fails
  cases f.fate.stmt s with
  | fail e => exact .inl ⟨rfl, e, rfl⟩
  | run v => exact .inr ⟨by simp [Choice.isRun], v, rfl⟩

/-- A program that runs alone raises and leaves `d₁`, if `fails`, and ends with `d₂` otherwise,
apart from the messages that were sent. -/
structure Ends (f : Pattern) (p : SubscriptionM Unit) (d : SubscriptionStore) (fails : Prop)
    (d₁ d₂ : SubscriptionStore) : Prop where
  raises : fails → ∃ e d', Solo.outcome subscriptionMachine f.fate p d {} =
    (.error e, d', ({} : SubscriptionLocal)) ∧ d'.quiet = d₁.quiet
  succeeds : ¬ fails → ∃ d', Solo.outcome subscriptionMachine f.fate p d {} =
    (.ok (), d', ({} : SubscriptionLocal)) ∧ d'.quiet = d₂.quiet

/-- A statement that fails ends the program. -/
theorem outcome_fails {α : Type} {k : q.Res → SubscriptionM α} (h : f.Fails ⟨caller, q⟩) :
    ∃ e, Solo.outcome subscriptionMachine f.fate (run caller q >>= k) d {} =
      (.error e, d, ({} : SubscriptionLocal)) := by
  rcases fails_or f ⟨caller, q⟩ with ⟨-, e, he⟩ | ⟨hnot, -⟩
  · exact ⟨e, Solo.outcome_exec_bind_error rfl (by rw [he]; rfl)⟩
  · exact absurd h hnot

/-- A statement that goes through, and whose answer depends on the store only. -/
theorem outcome_runs {α : Type} {k : q.Res → SubscriptionM α} {a : q.Res}
    {d' : SubscriptionStore} (h : ¬ f.Fails ⟨caller, q⟩)
    (he : ∀ v, q.eval v d = .ok (a, d')) :
    Solo.outcome subscriptionMachine f.fate (run caller q >>= k) d {} =
      Solo.outcome subscriptionMachine f.fate (k a) d' ({} : SubscriptionLocal) := by
  rcases fails_or f ⟨caller, q⟩ with ⟨hf, -⟩ | ⟨-, v, hv⟩
  · exact absurd hf h
  · apply Solo.outcome_exec_bind rfl
    rw [hv]
    exact SubscriptionStmt.exec_eq_ok.mpr (he v)

/-- A statement, and what follows its answer. -/
theorem Ends.exec_bind {k : q.Res → SubscriptionM Unit} {a : q.Res} {fails : Prop}
    {d' d₁ d₂ : SubscriptionStore} (he : ∀ v, q.eval v d = .ok (a, d'))
    (hk : ¬ f.Fails ⟨caller, q⟩ → Ends f (k a) d' fails d₁ d₂)
    (hd : f.Fails ⟨caller, q⟩ → d₁ = d) :
    Ends f (run caller q >>= k) d (f.Fails ⟨caller, q⟩ ∨ fails) d₁ d₂ := by
  constructor
  · intro hfails
    by_cases hf : f.Fails ⟨caller, q⟩
    · obtain ⟨e, he⟩ := outcome_fails (d := d) (k := k) hf
      exact ⟨e, d, he, by rw [hd hf]⟩
    · rw [outcome_runs hf he]
      exact (hk hf).raises (hfails.resolve_left hf)
  · intro hnot
    have hf : ¬ f.Fails ⟨caller, q⟩ := fun hf => hnot (.inl hf)
    rw [outcome_runs hf he]
    exact (hk hf).succeeds fun hf' => hnot (.inr hf')

theorem Ends.congr {p : SubscriptionM Unit} {fails fails' : Prop} {d₁ d₂ : SubscriptionStore}
    (h : Ends f p d fails d₁ d₂) (hiff : fails ↔ fails') : Ends f p d fails' d₁ d₂ :=
  ⟨fun hf => h.raises (hiff.mpr hf), fun hf => h.succeeds fun hf' => hf (hiff.mp hf')⟩

/-- A program that does nothing. -/
theorem ends_pure (h : ¬ fails) : Ends f (pure ()) d fails d₁ d :=
  ⟨fun hf => absurd hf h, fun _ => ⟨d, rfl, rfl⟩⟩

/-- A message is sent, or it is not. -/
theorem ends_send_sms (phone_number message : String) (d₁ d : SubscriptionStore) :
    Ends f (send_sms caller phone_number message >>= fun _ => pure PUnit.unit) d False d₁ d := by
  refine ⟨False.elim, fun _ => ?_⟩
  rcases fails_or f ⟨caller, .post_sms (international phone_number) message⟩ with
    ⟨-, e, he⟩ | ⟨-, v, hv⟩
  · refine ⟨d, Solo.outcome_bind_ok (a := false) ?_, rfl⟩
    have hfails : Solo.outcome subscriptionMachine f.fate
        (run caller (.post_sms (international phone_number) message)) d {} =
          (.error e, d, ({} : SubscriptionLocal)) := Solo.outcome_exec rfl (by rw [he]; rfl)
    rw [send_sms, Prog.tryCatch, Solo.outcome_handle, hfails]
    rfl
  · obtain ⟨sms, hsms⟩ : ∃ sms, (SubscriptionQuery.post_sms (international phone_number)
        message).eval v d = .ok (v.delivered, { d with sms }) := ⟨_, rfl⟩
    refine ⟨{ d with sms }, Solo.outcome_bind_ok (a := v.delivered) ?_, rfl⟩
    apply Solo.outcome_tryCatch_ok
    refine Solo.outcome_exec rfl ?_
    rw [hv]
    exact SubscriptionStmt.exec_eq_ok.mpr hsms

/-- A program, and a message after it. -/
theorem Ends.and_sms {p : SubscriptionM Unit} {fails : Prop} {d₁ d₂ : SubscriptionStore}
    (h : Ends f p d fails d₁ d₂) (phone_number message : String) :
    Ends f (p >>= fun _ => send_sms caller phone_number message >>= fun _ => pure PUnit.unit) d
      fails d₁ d₂ := by
  constructor
  · intro hf
    obtain ⟨e, d', hx, hd'⟩ := h.raises hf
    exact ⟨e, d', Solo.outcome_bind_error hx, hd'⟩
  · intro hf
    obtain ⟨d', hx, hd'⟩ := h.succeeds hf
    have hsms : Ends f (send_sms caller phone_number message >>= fun _ => pure PUnit.unit) d'
        False d₁ d' := ends_send_sms _ _ _ _
    obtain ⟨d'', hx', hd''⟩ := hsms.succeeds not_false
    exact ⟨d'', by rw [Solo.outcome_bind_ok hx, hx'], hd''.trans hd'⟩

/-- The request that disables a secret. -/
theorem ends_switch_ppp_secret {client : MikroTikClient} {id : String} {d' : SubscriptionStore}
    (he : ∀ v, (SubscriptionQuery.switch_ppp_secret client id true).eval v d = .ok ((), d')) :
    Ends f (run caller (.switch_ppp_secret client id true)) d
      (f.Fails ⟨caller, .switch_ppp_secret client id true⟩) d d' := by
  rcases fails_or f ⟨caller, .switch_ppp_secret client id true⟩ with ⟨hf, e, hc⟩ | ⟨hf, v, hc⟩
  · refine ⟨fun _ => ⟨e, d, Solo.outcome_exec rfl ?_, rfl⟩, fun h => absurd hf h⟩
    rw [hc]
    rfl
  · refine ⟨fun h => absurd h hf, fun _ => ⟨d', Solo.outcome_exec rfl ?_, rfl⟩⟩
    rw [hc]
    exact SubscriptionStmt.exec_eq_ok.mpr (he v)

/-- No secret has the name. -/
theorem switchOff_none {p : PppSecret → Bool} (h : ∀ s ∈ d.secrets, p s = false) :
    switchOff d p = d := by
  have hsecrets : updateRows p (fun s => { s with disabled := true }) d.secrets = d.secrets := by
    conv_rhs => rw [← List.map_id d.secrets]
    apply List.map_congr_left
    intro s hs
    simp [h s hs]
  rw [switchOff, hsecrets]

/-- The client talks to the router. -/
def TalksTo (client : MikroTikClient) (router : RouterLogin) : Prop :=
  client.host = router.host ∧ client.port = router.port

theorem TalksTo.belongs {client : MikroTikClient} (h : TalksTo client router) (s : PppSecret) :
    (s.isOn client && s.name == name) = PppSecret.belongs router name s := by
  rw [PppSecret.isOn, PppSecret.belongs, h.1, h.2]

/-- Two secrets with one name on one router have one id. -/
theorem Sound.same_id (hd : Sound d) {s t : PppSecret} (hs : s ∈ d.secrets) (ht : t ∈ d.secrets)
    (hsb : PppSecret.belongs router name s = true) (htb : PppSecret.belongs router name t = true) :
    s.id = t.id := by
  simp only [PppSecret.belongs, Bool.and_eq_true, beq_iff_eq] at hsb htb
  exact (hd.secrets s hs t ht (hsb.1.1.trans htb.1.1.symm) (hsb.1.2.trans htb.1.2.symm)).mpr
    (hsb.2.trans htb.2.symm)

/-- On one router the switch by id is a switch by name. -/
theorem Sound.switch_by_id (hd : Sound d) {client : MikroTikClient} (hclient : TalksTo client router)
    {t : PppSecret} (ht : t ∈ d.secrets) (hbelongs : PppSecret.belongs router name t = true)
    (v : SubscriptionEnv) : (SubscriptionQuery.switch_ppp_secret client t.id true).eval v d =
      .ok ((), switchOff d (PppSecret.belongs router name)) := by
  have hsame : ∀ s ∈ d.secrets,
      (s.isOn client && s.id == t.id) = PppSecret.belongs router name s := by
    intro s hs
    rw [Bool.eq_iff_iff]
    constructor
    · intro h
      simp only [PppSecret.belongs, PppSecret.isOn, hclient.1, hclient.2, Bool.and_eq_true,
        beq_iff_eq] at h hbelongs ⊢
      have hname := (hd.secrets s hs t ht (h.1.1.trans hbelongs.1.1.symm)
        (h.1.2.trans hbelongs.1.2.symm)).mp h.2
      exact ⟨h.1, hname.trans hbelongs.2⟩
    · intro h
      have hid := hd.same_id hs ht h hbelongs
      rw [← hclient.belongs s, Bool.and_eq_true] at h
      simp [h.1, hid]
  have hsecrets : updateRows (fun s => s.isOn client && s.id == t.id)
      (fun s => { s with disabled := true }) d.secrets =
        updateRows (PppSecret.belongs router name) (fun s => { s with disabled := true })
          d.secrets := by
    apply List.map_congr_left
    intro s hs
    simp only [hsame s hs]
  simp only [SubscriptionQuery.eval, hsecrets, switchOff]
  rfl

/-- The secret is looked up by name and switched by id. -/
theorem ends_disable_ppp_secret {client : MikroTikClient} (hd : Sound d)
    (hclient : TalksTo client router) : Ends f (disable_ppp_secret caller client name) d
      (f.Fails ⟨caller, .find_ppp_secret client name⟩ ∨
        ∃ s ∈ d.secrets, PppSecret.belongs router name s = true ∧
          f.Fails ⟨caller, .switch_ppp_secret client s.id true⟩)
      d (switchOff d (PppSecret.belongs router name)) := by
  refine Ends.exec_bind (q := .find_ppp_secret client name) (fun v => rfl) (fun _ => ?_) fun _ => rfl
  cases hfound : d.secrets.filter fun s => s.isOn client && s.name == name with
  | nil =>
      have hnone : ∀ s ∈ d.secrets, PppSecret.belongs router name s = false := by
        intro s hs
        have hnot := List.filter_eq_nil_iff.mp hfound s hs
        rw [← hclient.belongs s]
        exact Bool.eq_false_iff.mpr hnot
      rw [switchOff_none hnone]
      apply ends_pure
      rintro ⟨s, hs, hbelongs, -⟩
      rw [hnone s hs] at hbelongs
      cases hbelongs
  | cons t rest =>
      have hmem : t ∈ d.secrets.filter fun s => s.isOn client && s.name == name := by
        rw [hfound]
        exact List.mem_cons_self ..
      obtain ⟨ht, hbelongs⟩ := List.mem_filter.mp hmem
      rw [hclient.belongs t] at hbelongs
      rw [List.map_cons, switch_first, if_neg (hd.secret_ids t ht)]
      refine (ends_switch_ppp_secret (hd.switch_by_id hclient ht hbelongs)).congr ?_
      constructor
      · exact fun hf => ⟨t, ht, hbelongs, hf⟩
      · rintro ⟨s, hs, hs', hf⟩
        rwa [hd.same_id hs ht hs' hbelongs] at hf

/-- A password is decrypted, and the secret with the name disabled. -/
theorem ends_disable (f : Pattern) (caller : Option UUID) (router : RouterLogin) (name : String)
    (hd : Sound d) : Ends f (get_mikrotik_client caller router >>= fun client =>
      disable_ppp_secret caller client name) d (RouterFails f caller router name d) d
        (switchOff d (PppSecret.belongs router name)) := by
  rcases fails_or f ⟨caller, .decrypt_secret router.password_encrypted⟩ with
    ⟨hf, -⟩ | ⟨hf, v, hv⟩
  · obtain ⟨e, he⟩ := outcome_fails (d := d) (k := fun password => pure ({
      host := router.host, port := router.port, username := router.username, password } :
        MikroTikClient)) hf
    refine ⟨fun _ => ⟨e, d, Solo.outcome_bind_error he, rfl⟩, fun hnot => absurd ?_ hnot⟩
    rcases fails_or f ⟨caller, .decrypt_secret router.password_encrypted⟩ with
      ⟨-, e, he⟩ | ⟨hnot, -⟩
    · rw [RouterFails, Pattern.client, he]
      trivial
    · exact absurd hf hnot
  · obtain ⟨client, hc⟩ : ∃ client : MikroTikClient, client = {
        host := router.host, port := router.port, username := router.username
        password := v.password } := ⟨_, rfl⟩
    have hclient : f.client caller router = some client := by
      rw [Pattern.client, hv, hc]
    have hx : Solo.outcome subscriptionMachine f.fate (get_mikrotik_client caller router) d {} =
        (.ok client, d, ({} : SubscriptionLocal)) := by
      rw [hc]
      apply Solo.outcome_exec_bind rfl
      rw [hv]
      rfl
    have htalks : TalksTo client router := ⟨by rw [hc], by rw [hc]⟩
    have hends : Ends f (disable_ppp_secret caller client name) d _ d _ :=
      ends_disable_ppp_secret hd htalks
    rw [RouterFails, hclient]
    constructor
    · rw [Solo.outcome_bind_ok hx]
      exact hends.raises
    · rw [Solo.outcome_bind_ok hx]
      exact hends.succeeds

end Switch

end Subscriptions

end FrixelConnect
