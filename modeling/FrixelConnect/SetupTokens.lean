import FrixelConnect.RouterAddresses
import FrixelConnect.SetupScripts
import FrixelConnect.Interleaving.Discipline
import FrixelConnect.Interleaving.History

/-!
# Setup tokens

A setup token is read by one statement and used up by a later transaction, which asks for
nothing but its id. One confirmation at most goes through in every run in which the
transaction finds the token unused. That a used token has no private key any more, and that
a script is built from a token that was unused and not expired when it was read, holds in
every run.
-/

namespace FrixelConnect

open Calendar Interleaving Python

namespace SetupTokens

open Routers

/-- The requests that a router sends with a setup token. -/
inductive SetupCall where
  | download (token client_ip : String)
  | confirm (token client_ip : String)

/-- What they are answered. -/
inductive SetupAnswer where
  | downloaded (token : String) (response : ScriptResponse)
  | answered (token : String) (confirmation : Confirmation)

variable (settings : SetupSettings)

def SetupCall.program : SetupCall → RouterM SetupAnswer
  | .download token client_ip => do
      let response ← download_setup_script settings token client_ip
      return .downloaded token response
  | .confirm token client_ip => do
      let confirmation ← confirm_setup token client_ip
      return .answered token confirmation

def setupSystem : System RouterStmt RouterStmt.Res Unit Exn RouterStore RouterEnv UUID SetupAnswer
    SetupCall :=
  { routerMachine with start := fun w d => some (d, w.program settings) }

/-- States and rules of the two endpoints. -/
abbrev SetupState := State RouterStmt RouterStmt.Res Unit Exn RouterStore RouterEnv SetupAnswer
abbrev SetupRules := Rules RouterStmt Exn RouterStore RouterEnv SetupCall
abbrev SetupLocal := Local RouterStmt Unit RouterEnv

/-- The rest of the system changes routers and adds tokens. -/
structure TokensKept (d d' : RouterStore) : Prop where
  ids : (d'.setup_tokens.map (·.id)).Nodup
  tokens : (d'.setup_tokens.map (·.token)).Nodup
  kept : ∀ t ∈ d.setup_tokens, t ∈ d'.setup_tokens
  fresh : ∀ t ∈ d'.setup_tokens, t ∉ d.setup_tokens → t.used_at = none

/-- All runs or, if `strict`, those in which a token that is used up is unused. -/
def setupRules (strict : Bool) : SetupRules where
  stmt s c d := match s, c with
    | .consume_setup_token id, .run _ =>
        strict = true → ∀ t ∈ d.setup_tokens, t.id = id → t.used_at = none
    | _, _ => True
  edit := TokensKept

/-- Runs in which every confirmation that commits finds its token unused. -/
abbrev oneShot : SetupRules := setupRules true

/-- Any interleaving. -/
abbrev anyOrder : SetupRules := setupRules false

/-- The keys of the table, and that used tokens have no private key. -/
structure Sound (d : RouterStore) : Prop where
  ids : (d.setup_tokens.map (·.id)).Nodup
  tokens : (d.setup_tokens.map (·.token)).Nodup
  erased : ∀ t ∈ d.setup_tokens, t.used_at ≠ none → t.router_wg_private_key = none

/-- How far a request has come. -/
inductive Stage where
  | idle
  | read (id : UUID) (token : String)
  | used (token : String)

namespace Stage

/-- What the request knows about the store. -/
def Holds (d : RouterStore) : Stage → Prop
  | .idle => True
  | .read id token => ∃ t ∈ d.setup_tokens, t.id = id ∧ t.token = token
  | .used token => ∃ t ∈ d.setup_tokens, t.token = token ∧ t.used_at ≠ none

/-- A confirmation uses its token up. -/
def token : Stage → Option String
  | .used token => some token
  | _ => none

end Stage

def setup (strict : Bool) : Discipline RouterStmt RouterStmt.Res Unit Exn RouterStore RouterEnv UUID
    SetupCall Stage String where
  machine := routerMachine
  rules := setupRules strict
  base := Sound
  own d _ g := g.Holds d
  token g := if strict then g.token else none

variable {strict : Bool} {d d' : RouterStore} {g g' : Stage} {l l' : SetupLocal} {id : UUID}
  {token : String} {ks : List UUID}

/-- No token is lost or becomes unused. -/
def Kept (d d' : RouterStore) : Prop := ∀ t ∈ d.setup_tokens, ∃ t' ∈ d'.setup_tokens,
  t'.id = t.id ∧ t'.token = t.token ∧ (t.used_at ≠ none → t'.used_at ≠ none)

theorem Kept.of_tokens (h : d'.setup_tokens = d.setup_tokens) : Kept d d' := by
  intro t ht
  exact ⟨t, h ▸ ht, rfl, rfl, fun hused => hused⟩

theorem Stage.Holds.kept (h : g.Holds d) (hk : Kept d d') : g.Holds d' := by
  cases g with
  | idle => trivial
  | read id token =>
      obtain ⟨t, ht, hid, htoken⟩ := h
      obtain ⟨t', ht', hid', htoken', -⟩ := hk t ht
      exact ⟨t', ht', hid'.trans hid, htoken'.trans htoken⟩
  | used token =>
      obtain ⟨t, ht, htoken, hused⟩ := h
      obtain ⟨t', ht', -, htoken', hkeep⟩ := hk t ht
      exact ⟨t', ht', htoken'.trans htoken, hkeep hused⟩

theorem Sound.congr (hb : Sound d) (h : d'.setup_tokens = d.setup_tokens) : Sound d' where
  ids := h ▸ hb.ids
  tokens := h ▸ hb.tokens
  erased := h ▸ hb.erased

/-- A step that uses no token up. -/
theorem moves_kept (hb : Sound d') (hk : Kept d d') (ho : g'.Holds d')
    (ht : g'.token = none ∨ g' = g) : (setup strict).Moves ks d d' l g l' g' where
  base := hb
  own := ho
  stable _ _ h _ := h.kept hk
  token t h := by
    rcases ht with ht | rfl
    · simp [setup, ht] at h
    · exact .inl h
  shared _ _ := trivial
  guar := trivial

/-- The store after a confirmation. -/
def confirmed (id router_id tenant_id : UUID) (client_ip : String) (v : RouterEnv)
    (d : RouterStore) : RouterStore :=
  ((d.updateTokens id fun t => { t with used_at := some v.now }).updateTokens id fun t =>
    { t with router_wg_private_key := none }).updateRouters
      (fun r => r.id == router_id && r.tenant_id == tenant_id) fun r =>
        { r with
          status := .online
          host := if r.wireguard_peer_public_key.isNone then some client_ip else r.host }

section Use

variable {router_id tenant_id : UUID} {client_ip : String} {v : RouterEnv}

theorem tokens_confirmed : (confirmed id router_id tenant_id client_ip v d).setup_tokens =
    d.setup_tokens.map fun t =>
      if t.id == id then { t with used_at := some v.now, router_wg_private_key := none } else t := by
  simp only [confirmed, RouterStore.updateRouters, RouterStore.updateTokens, updateRows,
    List.map_map]
  apply List.map_congr_left
  intro t _
  by_cases h : t.id = id <;> simp [h]

/-- A confirmation changes no key of the table. -/
theorem map_confirmed {α : Type} (f : SetupToken → α) (hf : ∀ t : SetupToken,
    f { t with used_at := some v.now, router_wg_private_key := none } = f t) :
    (confirmed id router_id tenant_id client_ip v d).setup_tokens.map f = d.setup_tokens.map f := by
  rw [tokens_confirmed, List.map_map]
  apply List.map_congr_left
  intro t _
  dsimp only [Function.comp]
  split
  · exact hf t
  · rfl

theorem kept_confirmed : Kept d (confirmed id router_id tenant_id client_ip v d) := by
  intro t ht
  rw [tokens_confirmed]
  refine ⟨_, List.mem_map_of_mem ht, ?_⟩
  split
  · exact ⟨rfl, rfl, fun _ h => by cases h⟩
  · exact ⟨rfl, rfl, fun h => h⟩

theorem sound_confirmed (hb : Sound d) : Sound (confirmed id router_id tenant_id client_ip v d) where
  ids := by
    rw [map_confirmed _ fun _ => rfl]
    exact hb.ids
  tokens := by
    rw [map_confirmed _ fun _ => rfl]
    exact hb.tokens
  erased t ht hused := by
    rw [tokens_confirmed] at ht
    obtain ⟨t₀, ht₀, rfl⟩ := List.mem_map.mp ht
    by_cases h : (t₀.id == id) = true
    · rw [if_pos h]
    · rw [if_neg h] at hused ⊢
      exact hb.erased t₀ ht₀ hused

/-- A confirmation uses its token up, which in a strict run nobody has used before. -/
theorem moves_confirmed (hb : Sound d) (ho : (Stage.read id token).Holds d)
    (hunused : strict = true → ∀ t ∈ d.setup_tokens, t.id = id → t.used_at = none) :
    (setup strict).Moves ks d (confirmed id router_id tenant_id client_ip v d) l (.read id token) l'
      (.used token) := by
  obtain ⟨t, ht, hid, htoken⟩ := ho
  refine ⟨sound_confirmed hb, ?_, fun _ _ h _ => Stage.Holds.kept h kept_confirmed,
    fun x hx => .inr ?_, fun _ _ => trivial, trivial⟩
  · change ∃ t ∈ (confirmed id router_id tenant_id client_ip v d).setup_tokens, _
    rw [tokens_confirmed]
    refine ⟨_, List.mem_map_of_mem ht, ?_⟩
    rw [if_pos (beq_iff_eq.mpr hid)]
    exact ⟨htoken, fun h => by cases h⟩
  · -- Another confirmation that has used the token up would have left it used.
    cases strict with
    | false => cases hx
    | true =>
        cases hx
        intro _ g₂ ho₂ _ ht₂
        cases g₂ with
        | used token₂ =>
            cases ht₂
            obtain ⟨t₂, ht₂, htoken₂, hused⟩ := ho₂
            obtain rfl := List.inj_on_of_nodup_map hb.tokens ht₂ ht (htoken₂.trans htoken.symm)
            exact hused (hunused rfl t₂ ht hid)
        | idle => cases ht₂
        | read => cases ht₂

end Use

section Calls

/-- A statement that leaves the tokens alone. -/
def Quiet (s : RouterStmt) : Prop :=
  ∀ v d a d', s.eval v d = .ok (a, d') → d'.setup_tokens = d.setup_tokens

theorem neutral_of_quiet {s : RouterStmt} (hs : Quiet s) :
    (setup strict).protocol.Neutral g s := by
  intro d l others v hi _
  have hsame : (s.exec v d).2.setup_tokens = d.setup_tokens := by
    rcases exec_cases s v d with ⟨a, d', he, hx⟩ | ⟨e, -, hx⟩
    · rw [hx]
      exact hs v d a d' he
    · rw [hx]
  have ho : g.Holds d := hi.own _ (Multiset.mem_cons_self _ _)
  have hm : (setup strict).Moves [] d (s.exec v d).2 l g l g :=
    moves_kept (Sound.congr hi.base hsame) (.of_tokens hsame) (ho.kept (.of_tokens hsame)) (.inr rfl)
  exact hi.moves hm (by simp)

/-- A program that leaves the tokens alone. -/
theorem does_plain {α : Type} {p : RouterM α} (hp : p.Plain Quiet) :
    (setup strict).Does (fun _ g' => g' = g) p g := by
  apply Protocol.wp_mono (Protocol.wp_of_plain (hp.mono fun _ => neutral_of_quiet) rfl)
  rintro r l g' ⟨rfl, rfl⟩
  exact ⟨rfl, rfl⟩

/-- A statement that leaves the store alone. -/
theorem quiet_of_read {s : RouterStmt}
    (h : ∀ v d, ∃ a, s.eval v d = .ok (a, d) := by exact fun _ _ => ⟨_, rfl⟩) : Quiet s := by
  intro v d a d' he
  obtain ⟨a', ha⟩ := h v d
  rw [ha] at he
  cases he
  rfl

theorem quiet_set_peer (key ip : String) : Quiet (.wg_set_peer key ip) := by
  intro v d a d' he
  simp only [RouterStmt.eval, Except.bind_eq_ok, pure, Except.pure, Except.ok.injEq,
    Prod.mk.injEq] at he
  obtain ⟨-, -, -, -, -, rfl⟩ := he
  rfl

theorem restore_peer_plain (router_row : Option RouterRow) :
    (restore_peer router_row).Plain Quiet := by
  unfold restore_peer
  split
  · split
    · trivial
    · apply Prog.Plain.tryCatch _ fun _ => Prog.plain_ret _
      apply Prog.Plain.tryCatch _ fun _ => Prog.plain_ret _
      apply Prog.Plain.bind ((Prog.plain_exec _).mpr (quiet_set_peer _ _)) fun _ => ?_
      exact Prog.Plain.bind ((Prog.plain_exec _).mpr quiet_of_read) fun _ => trivial
  · trivial

theorem build_setup_script_plain {token router_name wg_private_key server_public_key
    server_endpoint assigned_wg_ip server_wg_ip api_password confirm_url : String} {is_chr : Bool} :
    (build_setup_script settings token router_name wg_private_key server_public_key server_endpoint
      assigned_wg_ip server_wg_ip api_password confirm_url is_chr).Plain Quiet := by
  have hrest (script : Timestamptz → SetupScript) :
      (run .utc_now >>= fun timestamp => pure (script timestamp)).Plain Quiet :=
    Prog.Plain.bind ((Prog.plain_exec _).mpr quiet_of_read) fun _ => trivial
  have hcheck (r : Except Exn Unit) : (Prog.ofExcept r : RouterM Unit).Plain Quiet := trivial
  cases is_chr with
  | false => exact (hcheck _).bind fun _ => (hcheck _).bind fun _ => hrest _
  | true => exact hrest _

theorem log_download_plain (tenant_id router_id : UUID) (token : String) (is_chr : Bool)
    (client_ip : String) : (log_download tenant_id router_id token is_chr client_ip).Plain Quiet := by
  apply Prog.Plain.tryCatch _ fun _ => Prog.plain_ret _
  apply Prog.Plain.bind ((Prog.plain_exec _).mpr quiet_of_read) fun actor_row => ?_
  cases actor_row with
  | none => trivial
  | some actor_user_id => exact (Prog.plain_exec _).mpr quiet_of_read

theorem serve_script_plain (token client_ip : String) (token_row : SetupToken) :
    (serve_script settings token client_ip token_row).Plain Quiet := by
  apply Prog.Plain.bind ((Prog.plain_exec _).mpr quiet_of_read) fun router_row => ?_
  cases router_row with
  | none => trivial
  | some row =>
      apply Prog.Plain.bind ((Prog.plain_exec _).mpr quiet_of_read) fun api_password => ?_
      apply Prog.Plain.bind (build_setup_script_plain settings) fun script_content => ?_
      exact (log_download_plain _ _ _ _ _).bind fun _ => trivial

theorem download_plain (token client_ip : String) :
    (download_setup_script settings token client_ip).Plain Quiet := by
  unfold download_setup_script
  split
  · trivial
  · apply Prog.Plain.bind ((Prog.plain_exec _).mpr quiet_of_read) fun token_row => ?_
    cases token_row with
    | none => trivial
    | some row => exact serve_script_plain settings token client_ip row

/-- A token that is found is in the table. -/
theorem does_select (token : String) :
    (setup strict).Does (fun r g => ∀ row, r = .ok (some row) → g = .read row.id token)
      (run (.select_setup_token token)) .idle := by
  refine Discipline.does_exec routerMachine_restores (fun d e hb ho => ?_)
    fun d v found d' hb ho _ hx => ?_
  · exact ⟨.idle, moves_kept hb (.of_tokens rfl) ho (.inl rfl), fun _ h => by cases h⟩
  · have he := Except.ok.inj (exec_eq_ok.mp hx)
    obtain ⟨hfound, rfl⟩ := Prod.mk.inj he
    cases found with
    | none => exact ⟨.idle, moves_kept hb (.of_tokens rfl) ho (.inl rfl), fun _ h => by cases h⟩
    | some row =>
        obtain ⟨hmem, hp⟩ := fetchrow_eq_some hfound
        simp only [Bool.and_eq_true, beq_iff_eq] at hp
        refine ⟨.read row.id token, moves_kept hb (.of_tokens rfl) ⟨row, hmem, rfl, hp.1.1⟩
          (.inl rfl), ?_⟩
        rintro _ ⟨⟩
        rfl

/-- Inside the transaction of a confirmation the store and the stage stay as they are. -/
theorem wp_inside {s : RouterStmt} (hs : s.inTx = true) (log : List (RouterStmt × RouterEnv)) :
    (setup strict).protocol.wp (fun r l g => g = .read id token ∧ l.frames = [] ∧
        ∀ a, r = .ok a → ∃ v, l.txn = .active (log ++ [(s, v)]))
      (run s) ({ txn := .active log } : SetupLocal) (.read id token) := by
  apply Discipline.wp_logged hs rfl
  · exact fun d e hb ho _ => ⟨_, .stay hb ho, rfl, rfl, fun _ h => by cases h⟩
  · exact fun d v view a hb ho _ _ => ⟨_, .stay hb ho, rfl, rfl, fun _ _ => ⟨v, rfl⟩⟩

section Transaction

variable {router_id tenant_id : UUID} {client_ip : String}

/-- A confirmation as its transaction commits. -/
theorem replay_use {v v₁ v₂ : RouterEnv} :
    routerMachine.replay [(.consume_setup_token id, v), (.clear_private_key id, v₁),
      (.confirm_router router_id tenant_id client_ip, v₂)] d =
        some (confirmed id router_id tenant_id client_ip v d) := rfl

/-- What a confirmation ends with. -/
def Used (token : String) (r : Except Exn Unit) (l : SetupLocal) (g : Stage) : Prop :=
  l = {} ∧ (r.isOk = true → g = .used token)

/-- A statement that raises ends the transaction without effect. -/
theorem post_error {e : Exn} (hl : l.frames = []) :
    Discipline.TxPost (𝒜 := setup strict) (Used token) (.error e) l (.read id token) := by
  constructor
  · intro d e _ _ hb ho
    refine ⟨_, .stay hb ho, ?_, fun h => by cases h⟩
    rw [hl]
  · exact fun _ h => by cases h

/-- The end of the transaction: it commits or has no effect. -/
theorem post_ok {v v₁ v₂ : RouterEnv} (hl : l.frames = []) (htxn : l.txn =
    .active [(.consume_setup_token id, v), (.clear_private_key id, v₁),
      (.confirm_router router_id tenant_id client_ip, v₂)]) :
    Discipline.TxPost (𝒜 := setup strict) (Used token) (.ok ()) l (.read id token) := by
  constructor
  · intro d e _ _ hb ho
    refine ⟨_, .stay hb ho, ?_, fun h => by cases h⟩
    rw [hl]
  · intro a _ log hlog d d' hb ho hreplay hallow
    rw [htxn] at hlog
    cases hlog
    have hd' : confirmed id router_id tenant_id client_ip v d = d' :=
      Option.some.inj (replay_use.symm.trans hreplay)
    refine ⟨.used token, hd' ▸ moves_confirmed hb ho fun hstrict => ?_, ?_, fun _ => rfl⟩
    · exact hallow.1 hstrict
    · rw [hl]

theorem does_use : (setup strict).Does (fun r g => r.isOk = true → g = .used token)
    (Prog.transaction (do
      run (.consume_setup_token id)
      run (.clear_private_key id)
      run (.confirm_router router_id tenant_id client_ip) : RouterM Unit)) (.read id token) := by
  refine Discipline.wp_transaction (fun d hb ho => .stay hb ho) ?_
  refine Protocol.wp_then (wp_inside rfl []) ?_ ?_
  · rintro e l g ⟨rfl, hl, -⟩
    exact post_error hl
  rintro _ ⟨frames, txn⟩ g ⟨rfl, rfl, h⟩
  obtain ⟨v, rfl⟩ := h _ rfl
  refine Protocol.wp_then (wp_inside rfl _) ?_ ?_
  · rintro e l g ⟨rfl, hl, -⟩
    exact post_error hl
  rintro _ ⟨frames, txn⟩ g ⟨rfl, rfl, h⟩
  obtain ⟨v₁, rfl⟩ := h _ rfl
  refine Protocol.wp_mono (wp_inside rfl _) ?_
  rintro r l g ⟨rfl, hl, h⟩
  cases r with
  | error e => exact post_error hl
  | ok a =>
      obtain ⟨v₂, htxn⟩ := h a rfl
      exact post_ok hl htxn

end Transaction

theorem does_confirm (token client_ip : String) :
    (setup strict).Does (fun r g => ∀ router_id, r = .ok (.confirmed router_id) → g = .used token)
      (confirm_setup token client_ip) .idle := by
  unfold confirm_setup
  split
  · exact Discipline.does_ret fun _ h => by cases h
  refine Discipline.Does.bind (does_select token) (fun _ _ _ _ h => by cases h) fun token_row g hg => ?_
  cases token_row with
  | none => exact Discipline.does_ret fun _ h => by cases h
  | some row =>
      obtain rfl := hg row rfl
      refine Discipline.Does.bind does_use (fun _ _ _ _ h => by cases h) fun _ g hg => ?_
      obtain rfl := hg rfl
      refine Discipline.Does.bind (does_plain ((Prog.plain_exec _).mpr quiet_of_read))
        (fun _ _ _ _ h => by cases h) fun router_row g hg => ?_
      refine Discipline.Does.bind (does_plain (restore_peer_plain router_row))
        (fun _ _ _ _ h => by cases h) fun _ g' hg' => ?_
      exact Discipline.does_ret fun _ _ => hg'.trans hg

end Calls

/-- What the stage of a finished request says about its answer. -/
def Ends (r : Except Exn SetupAnswer) (_ : SetupLocal) (g : Stage) : Prop :=
  ∀ token router_id, r = .ok (.answered token (.confirmed router_id)) → g = .used token

theorem wp_call (w : SetupCall) :
    (setup strict).protocol.wp Ends (w.program settings) {} .idle := by
  have hdoes : (setup strict).Does (fun r g => Ends r {} g) (w.program settings) .idle := by
    cases w with
    | download token client_ip =>
        exact Discipline.Does.bind (does_plain (download_plain settings token client_ip))
          (fun _ _ _ _ _ h => by cases h) fun _ _ _ => Discipline.does_ret fun _ _ h => by cases h
    | confirm token client_ip =>
        refine Discipline.Does.bind (does_confirm token client_ip) (fun _ _ _ _ _ h => by cases h)
          fun confirmation g hg => Discipline.does_ret fun token' router_id h => ?_
        cases h
        exact hg router_id rfl
  exact Protocol.wp_mono hdoes fun _ _ _ h => h.2

/-- No request runs yet. -/
def idle (d : RouterStore) : SetupState := { store := d }

theorem valid_idle (hd : Sound d) : Valid (setup strict).protocol Ends (idle d) :=
  Valid.start (.empty hd trivial)

theorem Sound.kept (hb : Sound d) (h : TokensKept d d') : Sound d' where
  ids := h.ids
  tokens := h.tokens
  erased t ht hused := by
    by_cases hold : t ∈ d.setup_tokens
    · exact hb.erased t hold hused
    · exact absurd (h.fresh t ht hold) hused

theorem valid_reaches {s s' : SetupState} (h : Valid (setup strict).protocol Ends s)
    (hs : Reaches (setupSystem settings) (setupRules strict) s s') :
    Valid (setup strict).protocol Ends s' := by
  refine (h.reaches (Y := setupSystem settings) rfl ?_ ?_ hs).1
  · intro w d d' p ls hi _ hstart
    cases hstart
    exact ⟨.idle, hi.joins trivial (by cases strict <;> rfl) fun _ => trivial,
      wp_call settings w⟩
  · intro d d' ls hi hedit
    refine ⟨⟨hi.base.kept hedit, fun x hx => ?_, hi.apart, trivial⟩, trivial⟩
    have hkept : Kept d d' := fun t ht => ⟨t, hedit.kept t ht, rfl, rfl, fun hused => hused⟩
    exact Stage.Holds.kept (hi.own x hx) hkept

section Scripts

variable {B : (s : RouterStmt) → s.Res → Prop}

/-- The private key in the script, if any, is this one. -/
def Carries (key : String) (script : SetupScript) : Prop :=
  ∀ section₂, script.wireguard = some section₂ → section₂.private_key = key

theorem build_setup_script_carries {token router_name wg_private_key server_public_key
    server_endpoint assigned_wg_ip server_wg_ip api_password confirm_url : String} {is_chr : Bool} :
    (build_setup_script settings token router_name wg_private_key server_public_key server_endpoint
      assigned_wg_ip server_wg_ip api_password confirm_url is_chr).AllWith (fun _ => True)
        (Carries wg_private_key) := by
  have hrest (script : Timestamptz → SetupScript) (h : ∀ now, Carries wg_private_key (script now)) :
      (run .utc_now >>= fun timestamp => pure (script timestamp)).AllWith (fun _ => True)
        (Carries wg_private_key) := by
    apply Prog.allWith_bind
    intro now script' h'
    cases h'
    exact h now
  cases is_chr with
  | false =>
      apply Prog.allWith_bind fun _ => Prog.allWith_bind fun _ => hrest _ fun now section₂ h => ?_
      cases h
      rfl
  | true => exact hrest _ fun now section₂ h => by cases h

/-- A script comes from the token that it is served for. -/
def FromToken (token_row : SetupToken) : ScriptResponse → Prop
  | .script content => Carries (token_row.router_wg_private_key.getD "") content
  | .error _ _ => True

theorem serve_script_from (token client_ip : String) (token_row : SetupToken) :
    (serve_script settings token client_ip token_row).AllWith (fun _ => True)
      (FromToken token_row) := by
  apply Prog.allWith_bind fun router_row => ?_
  cases router_row with
  | none =>
      intro response h
      cases h
      trivial
  | some row =>
      apply Prog.allWith_bind fun api_password => ?_
      apply (build_setup_script_carries settings).andThen fun script_content hcarries => ?_
      apply Prog.allWith_bind fun _ => ?_
      intro response h
      cases h
      exact hcarries

/-- A script is built on the answer to the request's own query. -/
def Scripted (B : (s : RouterStmt) → s.Res → Prop) : SetupAnswer → Prop
  | .downloaded token (.script content) => ∃ row, B (.select_setup_token token) (some row) ∧
      Carries (row.router_wg_private_key.getD "") content
  | _ => True

theorem download_scripted (token client_ip : String) :
    (download_setup_script settings token client_ip).Yields B
      (fun response => Scripted B (.downloaded token response)) := by
  unfold download_setup_script
  split
  · intro response h
    cases h
    trivial
  · apply Prog.yields_exec_bind fun token_row hrow => ?_
    cases token_row with
    | none =>
        intro response h
        cases h
        trivial
    | some row =>
        apply Prog.AllWith.yields
        apply (serve_script_from settings token client_ip row).mono
        intro response h
        cases response with
        | script content => exact ⟨row, hrow, h⟩
        | error => trivial

theorem program_scripted (w : SetupCall) : (w.program settings).Yields B (Scripted B) := by
  cases w with
  | download token client_ip =>
      apply Prog.Yields.bind ((download_plain settings token client_ip).mono fun _ _ => trivial)
        (download_scripted settings token client_ip)
      intro response h answer ha
      cases ha
      exact h
  | confirm token client_ip =>
      apply Prog.AllWith.yields
      apply Prog.allWith_bind
      intro confirmation answer ha
      cases ha
      trivial

end Scripts

/-- The token that a request has confirmed. -/
def confirmedBy (p : Proc RouterStmt RouterStmt.Res Unit Exn RouterEnv SetupAnswer) :
    Option String :=
  match p.prog with
  | .ret (.ok (.answered token (.confirmed _))) => some token
  | _ => none

/-- The request that was started as number `i` has confirmed the token. -/
def Confirmed (s : SetupState) (i : ℕ) (token : String) : Prop :=
  s.procs[i]?.bind confirmedBy = some token

/-- The request that was started as number `i` has been answered a script for the token. -/
def Served (s : SetupState) (i : ℕ) (token : String) (content : SetupScript) : Prop :=
  ∃ p, s.procs[i]? = some p ∧ p.prog = .ret (.ok (.downloaded token (.script content)))

/-- One confirmation of a token at most takes effect. -/
def ConfirmedOnce (s : SetupState) : Prop :=
  ∀ token i j, Confirmed s i token → Confirmed s j token → i = j

/-- A used token has no private key. -/
def Erased (d : RouterStore) : Prop :=
  ∀ t ∈ d.setup_tokens, t.used_at ≠ none → t.router_wg_private_key = none

/-- The row that the request read for its script: unused and not expired at that moment, and the
key in the script is that of the row. -/
def ServedUnused (d : RouterStore) (s : SetupState) : Prop :=
  ∀ i token content, Served s i token content → ∃ row d' v,
    Answered (setupSystem settings) anyOrder (idle d) s i (.select_setup_token token) (some row) d'
      v ∧
    row ∈ d'.setup_tokens ∧ row.token = token ∧ row.used_at = none ∧ v.now < row.expires_at ∧
    Carries (row.router_wg_private_key.getD "") content

theorem Confirmed.ended {s : SetupState} {i : ℕ} {token : String} (h : Confirmed s i token) :
    ∃ p r, s.procs[i]? = some p ∧ p.prog = .ret r ∧
      ∀ l g, Ends r l g → (setup true).token g = some token := by
  obtain ⟨p, hp, hconfirmed⟩ := Option.bind_eq_some_iff.mp h
  unfold confirmedBy at hconfirmed
  split at hconfirmed
  · next token' router_id hprog =>
      cases hconfirmed
      refine ⟨p, _, hp, hprog, fun l g hg => ?_⟩
      rw [hg token router_id rfl]
      rfl
  · cases hconfirmed

theorem served_unused {s : SetupState} (hs : Reaches (setupSystem settings) anyOrder (idle d) s) :
    ServedUnused settings d s := by
  rintro i token content ⟨p, hp, hprog⟩
  have hgives := Reaches.yields (ψ := Scripted) rfl hs
    (fun w d d' p hstart B => by cases hstart; exact program_scripted settings w) i p hp
  have hscripted : Scripted (Given (setupSystem settings) anyOrder (idle d) s i)
      (.downloaded token (.script content)) := by
    have hout := hgives.outside
    rw [hprog] at hout
    exact hout _ rfl
  obtain ⟨row, ⟨d', v, hanswered⟩, hcarries⟩ := hscripted
  have hfound : fetchrow v.pick (fun t => t.token == token && t.used_at.isNone &&
      decide (v.now < t.expires_at)) d'.setup_tokens = some row := Except.ok.inj hanswered.answer
  obtain ⟨hmem, hrow⟩ := fetchrow_eq_some hfound
  simp only [Bool.and_eq_true, beq_iff_eq, Option.isNone_iff_eq_none, decide_eq_true_eq] at hrow
  exact ⟨row, d', v, hanswered, hmem, hrow.1.1, hrow.1.2, hrow.2, hcarries⟩

/-- A setup token is confirmed once in every run in which a confirmation that commits finds it
unused; used tokens have lost their private key, and scripts come from unused ones, in every
run. -/
theorem one_shot (hd : Sound d) :
    (∀ s, Reaches (setupSystem settings) oneShot (idle d) s → ConfirmedOnce s) ∧
      ∀ s, Reaches (setupSystem settings) anyOrder (idle d) s →
        Erased s.store ∧ ServedUnused settings d s := by
  constructor
  · intro s hs token i j hi hj
    exact Discipline.ended_once (valid_reaches settings (valid_idle hd) hs) hi.ended hj.ended
  · intro s hs
    obtain ⟨ann, -, hinv, -⟩ := valid_reaches settings (valid_idle hd) hs
    exact ⟨hinv.base.erased, served_unused settings hs⟩

section Decidable

variable (s : RouterStmt) (c : Choice Exn RouterEnv) (w : SetupCall) (d d' : RouterStore)

instance : Decidable (oneShot.stmt s c d) := by
  rcases s with ⟨⟩ <;> rcases c with e | v <;> try exact .isTrue trivial
  rename_i id
  exact inferInstanceAs (Decidable (true = true → ∀ t ∈ d.setup_tokens, t.id = id → _))

instance : Decidable (oneShot.spawn w d) := .isTrue trivial

noncomputable instance : Decidable (oneShot.edit d d') := Classical.propDecidable _

instance : Decidable (anyOrder.stmt s c d) := by
  rcases s with ⟨⟩ <;> rcases c with e | v <;>
    first | exact .isTrue trivial | exact .isTrue fun h => by cases h

instance : Decidable (anyOrder.spawn w d) := .isTrue trivial

noncomputable instance : Decidable (anyOrder.edit d d') := Classical.propDecidable _

end Decidable

/-- The token of the examples, of 43 characters. -/
def magicToken : String := "0123456789abcdefghijklmnopqrstuvwxyzABCDEFG"

/-- A router in a virtual machine that waits for its setup. -/
def pending : RouterStore where
  routers := [{ id := 1, tenant_id := 2, name := "Main Office", site_name := "Nairobi"
                status := .pending_setup }]
  setup_tokens := [{ id := 3, tenant_id := 2, router_id := 1, token := magicToken
                     router_wg_private_key := some "key", expires_at := 5 * minute }]

theorem sound_pending : Sound pending where
  ids := by decide
  tokens := List.nodup_singleton _
  erased t ht h := by
    rw [List.mem_singleton.mp ht] at h
    exact absurd rfl h

theorem confirmed_iff {s : SetupState} {i : ℕ} {token : String} :
    Confirmed s i token ↔ (s.procs.map confirmedBy)[i]? = some (some token) := by
  rw [Confirmed, List.getElem?_map, Option.bind_eq_some_iff, Option.map_eq_some_iff]

/-- `n` steps of request `i`. -/
def setupSteps (n i : ℕ) : List (Label Exn RouterStore RouterEnv SetupCall) :=
  List.replicate n (.step i (.run {}))

/-- A second confirmation after the first. -/
theorem one_shot_in_turn : ∃ s : SetupState, Confirmed s 0 magicToken ∧
    ∀ i, Confirmed s i magicToken → i = 0 := by
  obtain ⟨s, hs, hv⟩ := Reaches.of_moves_state (Y := setupSystem {}) (ρ := oneShot) (idle pending)
    (.spawn (.confirm magicToken "192.168.56.10") :: setupSteps 7 0 ++
      .spawn (.confirm magicToken "192.168.56.11") :: setupSteps 1 1)
    (fun s => s.procs.map confirmedBy) [some magicToken, none] (by decide +kernel)
    (by decide +kernel)
  have hfirst : Confirmed s 0 magicToken := confirmed_iff.mpr (by rw [hv]; rfl)
  exact ⟨s, hfirst, fun i hi => (one_shot {} sound_pending).1 s hs magicToken i 0 hi hfirst⟩

/-- Two confirmations read the token before the transaction of either. -/
theorem not_one_shot : ¬ ∀ (settings : SetupSettings) (d : RouterStore) (s : SetupState), Sound d →
    Reaches (setupSystem settings) anyOrder (idle d) s →
    ConfirmedOnce s ∧ Erased s.store ∧ ServedUnused settings d s := by
  intro h
  obtain ⟨s, hs, hv⟩ := Reaches.of_moves_state (Y := setupSystem {}) (ρ := anyOrder) (idle pending)
    (.spawn (.confirm magicToken "192.168.56.10") :: .spawn (.confirm magicToken "192.168.56.11") ::
      setupSteps 1 0 ++ setupSteps 1 1 ++ setupSteps 6 0 ++ setupSteps 6 1)
    (fun s => s.procs.map confirmedBy) [some magicToken, some magicToken] (by decide +kernel)
    (by decide +kernel)
  have htwice := (h {} pending s sound_pending hs).1 magicToken 0 1
    (confirmed_iff.mpr (by rw [hv]; rfl)) (confirmed_iff.mpr (by rw [hv]; rfl))
  cases htwice

end SetupTokens

end FrixelConnect
