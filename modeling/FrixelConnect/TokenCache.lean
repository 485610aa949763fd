import FrixelConnect.Daraja
import FrixelConnect.Etims
import FrixelConnect.Interleaving.LoopRule

/-!
# The tokens of the API clients

The clients of Daraja and of eTIMS keep an access token and the time until which they use it in two
attributes. All coroutines of a worker share them: while one waits for a new token, others use the
old one, or ask for a new one as well. Every request still carries a token that the server has
granted, either at that moment or with more than a minute left.

## Implementation notes

A request counts as sent where the call of the HTTP client begins, and its answer is waited for. The
password and the time in the bodies of Daraja are left out. A lifetime that leads out of the range of dates raises after
the token is stored, so that it is used until the time of the one before.
-/

namespace FrixelConnect

open Calendar Decimals Interleaving Python

namespace TokenCache

/-- What the server has answered to a request for a token: the lifetime is in seconds. -/
structure Grant where
  token : Json
  issued_at : Timestamptz
  expires_in : ℤ

/-- A request that carries a token. -/
structure Sent (Body : Type) where
  token : Json
  body : Body
  sent_at : Timestamptz

/-- The clock, the attributes of the client, and what the server has granted and received. -/
structure ClientState (Body : Type) where
  clock : ℕ
  _token : Option Json := none
  _token_expires_at : Option Timestamptz := none
  grants : List Grant := []
  sent : List (Sent Body) := []

inductive ClientStmt (Body : Type) where
  | now
  | cached
  | request_token
  | set_token (token : Json)
  | set_token_expires_at (expires_at : Timestamptz)
  | send (token : Json) (body : Body)
  | response

abbrev ClientStmt.Res {Body : Type} : ClientStmt Body → Type
  | .now => Timestamptz
  | .cached => Option Json × Option Timestamptz
  | .request_token => HttpResponse
  | .response => HttpResponse
  | _ => Unit

/-- Programs of a client. -/
abbrev TokenM (Body : Type) := Prog (ClientStmt Body) ClientStmt.Res Empty Exn

section Programs

variable {Body A : Type}

/-- One statement of a program. -/
abbrev run (s : ClientStmt Body) : TokenM Body s.Res := Prog.exec s

/-- The integer part of `c * 10 ^ e`. -/
def truncated (c e : ℤ) : ℤ := if 0 ≤ e then c * 10 ^ e.toNat else c.tdiv (10 ^ (-e).toNat)

/-- `int(x)`. -/
def toInt : Json → Except Exn ℤ
  | .int n => .ok n
  | .bool b => .ok (if b then 1 else 0)
  | .float repr =>
      match decimalOfText repr with
      | some (.finite c e) => .ok (truncated c e)
      | some (.infinity _) => .error (.exception "cannot convert float infinity to integer")
      | _ => .error (.valueError "cannot convert float NaN to integer")
  | .str s =>
      match intOfText s.toList with
      | some n => .ok n
      | none => .error (.valueError ("invalid literal for int() with base 10: '" ++ s ++ "'"))
  | _ => .error (.fault .typeError)

/-- `datetime.min` and `datetime.max`. -/
def datetime_min : Timestamptz := -62135596800 * second
def datetime_max : Timestamptz := 253402300800 * second - 1

/-- `now + timedelta(seconds=seconds)`. -/
def later (now : Timestamptz) (seconds : ℤ) : Except Exn Timestamptz :=
  if datetime_min ≤ now + seconds * second ∧ now + seconds * second ≤ datetime_max then
    .ok (now + seconds * second)
  else .error (.exception "date value out of range")

/-- The values in which the clients differ. -/
structure Client where
  mock : Option String := none
  credentials : Except Exn Unit := .ok ()
  refused : ℕ → Exn
  missing : Json → Exn

/-- The token in an answer, and its lifetime. -/
def token_result (c : Client) (response : HttpResponse) : Except Exn (Json × ℤ) := do
  check response.is_success (c.refused response.status_code)
  let data ← response.json
  let token ← (data.get "access_token").mapError .fault
  let lifetime ← (data.get "expires_in" (.int 3600)).mapError .fault
  let expires_in ← toInt lifetime
  check token.truthy (c.missing data)
  pure (token, expires_in)

/-- The token of the attributes, if there is one and it has not expired. -/
def valid (now : Timestamptz) : Option Json × Option Timestamptz → Option Json
  | (some token, some expires_at) =>
      if token.truthy && decide (now < expires_at) then some token else none
  | _ => none

def get_access_token (c : Client) : TokenM Body Json :=
  match c.mock with
  | some token => pure (.str token)
  | none => do
      let now ← run .now
      let cache ← run .cached
      match valid now cache with
      | some token => return token
      | none =>
          Prog.ofExcept c.credentials
          let response ← run .request_token
          let (token, expires_in) ← Prog.ofExcept (token_result c response)
          run (.set_token token)
          let expires_at ← Prog.ofExcept (later now (expires_in - 60))
          run (.set_token_expires_at expires_at)
          return token

/-- A request with the token of the client. -/
def authorised (c : Client) (body : Except Exn Body) (result : HttpResponse → Except Exn A) :
    TokenM Body A := do
  let token ← get_access_token c
  let body ← Prog.ofExcept body
  run (.send token body)
  let response ← run .response
  Prog.ofExcept (result response)

end Programs

/-! ## Daraja -/

def daraja : Client where
  refused status_code :=
    .darajaError ("Failed to get Daraja access token: " ++ toString status_code)
  missing data := .darajaError ("Daraja token response missing access_token: " ++ data.text)

inductive DarajaRequest where
  | stk_push (phone : String) (amount : ℤ) (account_reference description : String)
  | stk_push_query (checkout_request_id : String)
  | register_c2b_url (confirmation_url validation_url : String)

def stk_push (phone : String) (amount : ℤ) (account_reference description : String) :
    TokenM DarajaRequest Json :=
  authorised daraja
    (.ok (.stk_push phone amount (front 12 account_reference) (front 13 description))) push_result

def stk_push_query (checkout_request_id : String) : TokenM DarajaRequest Json :=
  authorised daraja (.ok (.stk_push_query checkout_request_id)) query_result

def register_c2b_url (confirmation_url validation_url : String) : TokenM DarajaRequest Json :=
  authorised daraja (.ok (.register_c2b_url confirmation_url validation_url)) fun response => do
    check response.is_success
      (.darajaError ("Daraja C2B URL registration failed: " ++ toString response.status_code))
    response.json

/-! ## eTIMS -/

structure EtimsSettings where
  KRA_ETIMS_MOCK : Bool
  KRA_ETIMS_USERNAME : Option String
  KRA_ETIMS_PASSWORD : Option String

/-- `bool(x)` of a setting. -/
def given (x : Option String) : Bool := x.getD "" != ""

def etims (settings : EtimsSettings) : Client where
  mock := if settings.KRA_ETIMS_MOCK then some "mock_etims_token" else none
  credentials := check (given settings.KRA_ETIMS_USERNAME && given settings.KRA_ETIMS_PASSWORD)
    (.exception "KRA eTIMS credentials are not configured.")
  refused status_code :=
    .exception ("Failed to get eTIMS access token: " ++ toString status_code)
  missing data := .exception ("eTIMS token response missing access_token: " ++ data.text)

/-- What `submit_invoice` makes of the response. -/
def etims_result (response : HttpResponse) : Except Exn EtimsResult := do
  check response.is_success
    (.exception ("eTIMS sales submission failed: " ++ toString response.status_code))
  let result ← response.json
  let rcptSign ← (result.get "rcptSign" (.str "")).mapError .fault
  let qrCodeUrl ← (result.get "qrCodeUrl" (.str "")).mapError .fault
  pure { rcptSign := rcptSign.text, qrCodeUrl := qrCodeUrl.text }

/-- `sign` is the random part of the answer in the mock mode. -/
def submit_invoice {F : Type} (floats : Etims.Floats F) (settings : EtimsSettings)
    (sign tin bhf_id : String) (invoice_number : ℕ) (amount : Etims.Number F)
    (package_name : String) : TokenM (Etims.Payload F) EtimsResult :=
  if settings.KRA_ETIMS_MOCK then
    pure {
      rcptSign := "MOCK-SIGN-" ++ sign
      qrCodeUrl := "https://itax.kra.go.ke/KRA-Portal/receipt?invoice=" ++
        toString invoice_number ++ "&mock=true" }
  else
    authorised (etims settings)
      ((Etims.payload floats tin bhf_id invoice_number amount package_name).mapError .fault)
      etims_result

/-! ## The coroutines of a worker -/

section Loop

variable {Body W : Type}

/-- What a statement answers at once. -/
def ClientStmt.sync : (s : ClientStmt Body) → ClientState Body →
    Option (Except Exn s.Res × ClientState Body)
  | .now, d => some (.ok d.clock, d)
  | .cached, d => some (.ok (d._token, d._token_expires_at), d)
  | .request_token, _ => none
  | .set_token token, d => some (.ok (), { d with _token := some token })
  | .set_token_expires_at expires_at, d =>
      some (.ok (), { d with _token_expires_at := some expires_at })
  | .send token body, d =>
      some (.ok (), { d with sent := d.sent ++ [⟨token, body, d.clock⟩] })
  | .response, _ => none

/-- The server grants what the client makes of its answer. -/
def ClientState.granted (c : Client) (v : Except Exn HttpResponse) (d : ClientState Body) :
    ClientState Body :=
  match v.bind (token_result c) with
  | .ok (token, expires_in) => { d with grants := d.grants ++ [⟨token, d.clock, expires_in⟩] }
  | .error _ => d

/-- The answers to the requests, or what they raise. -/
def ClientStmt.settle (c : Client) : (s : ClientStmt Body) → Except Exn HttpResponse →
    ClientState Body → Option (Except Exn s.Res × ClientState Body)
  | .request_token, v, d => some (v, d.granted c v)
  | .response, v, d => some (v, d)
  | _, _, _ => none

/-- A call of the client, or time that passes. -/
inductive ClientEvent (W : Type) where
  | call (w : W)
  | tick (microseconds : ℕ)

/-- A client whose calls are these programs. -/
def clientLoop (c : Client) (program : W → TokenM Body Unit) : Script (ClientStmt Body)
    ClientStmt.Res Empty Exn (ClientState Body) (Except Exn HttpResponse) (ClientEvent W) Unit where
  sync := ClientStmt.sync
  settle := ClientStmt.settle c
  start e d := match e with
    | .call w => some (d, program w)
    | .tick n => some ({ d with clock := d.clock + n }, pure ())

abbrev ClientMove (W : Type) := LoopMove (Except Exn HttpResponse) (ClientEvent W)

/-- The state after the moves of a worker that starts at that time. -/
def afterMoves (c : Client) (program : W → TokenM Body Unit) (clock : ℕ)
    (moves : List (ClientMove W)) : ClientState Body :=
  (after (clientLoop c program).step moves { store := { clock } }).store

/-- The lifetime ends before the last date. -/
def Grant.InRange (g : Grant) : Prop :=
  0 ≤ g.expires_in ∧ g.issued_at + g.expires_in * second ≤ datetime_max

/-- At that time the token has just been granted, or has more than a minute left. -/
def Bearer (d : ClientState Body) (token : Json) (now : Timestamptz) : Prop :=
  ∃ g ∈ d.grants, g.token = token ∧
    (now = g.issued_at ∨ (g.InRange → now + minute < g.issued_at + g.expires_in * second))

/-- Every request carries such a token. -/
def AllBearers (d : ClientState Body) : Prop := ∀ x ∈ d.sent, Bearer d x.token x.sent_at

/-- So does every request to come: the attributes stop using a token a minute before it expires. -/
structure Sound (d : ClientState Body) : Prop where
  sent : AllBearers d
  cached : ∀ token expires_at, d._token = some token → d._token_expires_at = some expires_at →
    ∃ g ∈ d.grants, g.token = token ∧
      (g.InRange → expires_at + minute ≤ g.issued_at + g.expires_in * second)

/-- What moves do to the clock and to the grants. -/
structure Later (d d' : ClientState Body) : Prop where
  clock : d.clock ≤ d'.clock
  grants : d.grants ⊆ d'.grants

variable {c : Client} {program : W → TokenM Body Unit} {d d' : ClientState Body} {token : Json}
  {now expires_at : Timestamptz}

theorem Later.refl (d : ClientState Body) : Later d d := ⟨le_rfl, fun _ hg => hg⟩

theorem Later.trans {d'' : ClientState Body} (h : Later d d') (h' : Later d' d'') : Later d d'' :=
  ⟨h.clock.trans h'.clock, fun _ hg => h'.grants (h.grants hg)⟩

theorem Bearer.mono (h : Bearer d token now) (hd : d.grants ⊆ d'.grants) : Bearer d' token now := by
  obtain ⟨g, hg, htoken, hleft⟩ := h
  exact ⟨g, hd hg, htoken, hleft⟩

/-- The attributes, the grants and the requests are the same. -/
theorem Sound.congr (h : Sound d) (hgrants : d'.grants = d.grants) (hsent : d'.sent = d.sent)
    (htoken : d'._token = d._token) (hexpires : d'._token_expires_at = d._token_expires_at) :
    Sound d' where
  sent x hx := (h.sent x (hsent ▸ hx)).mono fun _ hg => hgrants ▸ hg
  cached token expires_at ht he :=
    hgrants ▸ h.cached token expires_at (htoken ▸ ht) (hexpires ▸ he)

theorem valid_eq_some {cache : Option Json × Option Timestamptz}
    (h : valid now cache = some token) :
    ∃ expires_at, cache = (some token, some expires_at) ∧ now < expires_at := by
  obtain ⟨t, e⟩ := cache
  unfold valid at h
  split at h
  · next t e heq =>
      split at h
      · next hvalid =>
          cases h
          simp only [Bool.and_eq_true, decide_eq_true_eq] at hvalid
          exact ⟨e, heq, hvalid.2⟩
      · cases h
  · cases h

/-- A token of the attributes that has not expired has more than a minute left. -/
theorem Sound.bearer (h : Sound d)
    (hvalid : valid now (d._token, d._token_expires_at) = some token) : Bearer d token now := by
  obtain ⟨expires_at, hcache, hnow⟩ := valid_eq_some hvalid
  obtain ⟨htoken, hexpires⟩ := Prod.mk.inj hcache
  obtain ⟨g, hg, hgtoken, hleft⟩ := h.cached token expires_at htoken hexpires
  refine ⟨g, hg, hgtoken, .inr fun hrange => ?_⟩
  calc now + minute < expires_at + minute := by linarith
    _ ≤ g.issued_at + g.expires_in * second := hleft hrange

/-- A request is sent. -/
theorem Sound.send (h : Sound d) {body : Body} (hbearer : Bearer d token d.clock) :
    Sound { d with sent := d.sent ++ [⟨token, body, d.clock⟩] } where
  sent x hx := by
    rcases List.mem_append.mp hx with hx | hx
    · exact h.sent x hx
    · rw [List.mem_singleton.mp hx]
      exact hbearer
  cached := h.cached

/-- The expiry that is stored for a grant, counted from a moment before it. -/
theorem later_eq_ok {g : Grant} (hnow : now ≤ g.issued_at)
    (h : later now (g.expires_in - 60) = .ok expires_at) :
    expires_at + minute ≤ g.issued_at + g.expires_in * second := by
  unfold later at h
  split at h
  · cases h
    simp only [minute, second]
    linarith
  · cases h

/-- It raises only for a grant that is out of range. -/
theorem later_eq_error {g : Grant} {e : Exn} (hzero : 0 ≤ now) (hnow : now ≤ g.issued_at)
    (h : later now (g.expires_in - 60) = .error e) : ¬ g.InRange := by
  rintro ⟨hpositive, hmax⟩
  unfold later at h
  split at h
  · cases h
  · next hout =>
      refine hout ⟨?_, ?_⟩
      · simp only [datetime_min, second]
        linarith
      · simp only [second] at hmax ⊢
        linarith

/-- The programs that leave the state sound, and end with a result in `Q`. -/
abbrev Keeps {A : Type} (c : Client) (program : W → TokenM Body Unit)
    (Q : Except Exn A → ClientState Body → Prop) (p : TokenM Body A) (d : ClientState Body) :
    Prop :=
  p.Guarded (clientLoop c program) Sound Later Q d

/-- A result that is no program. -/
theorem keeps_ofExcept {A B : Type} {r : Except Exn A} {f : A → TokenM Body B}
    {Q : Except Exn B → ClientState Body → Prop} (hok : ∀ a, r = .ok a → Keeps c program Q (f a) d)
    (herror : ∀ e, r = .error e → Q (.error e) d) :
    Keeps c program Q (Prog.ofExcept r >>= f) d := by
  cases r with
  | ok a => exact hok a rfl
  | error e => exact herror e rfl

/-- The answer to the request for a token: the token is granted now, and `now` lies before. -/
theorem keeps_stored {response : HttpResponse} (hd : Sound d) (hnow : 0 ≤ now)
    (hclock : now ≤ d.clock) : Keeps c program
      (fun r d' => Sound d' ∧ ∀ token, r = .ok token → Bearer d' token d'.clock)
      (do let (token, expires_in) ← Prog.ofExcept (token_result c response)
          run (.set_token token)
          let expires_at ← Prog.ofExcept (later now (expires_in - 60))
          run (.set_token_expires_at expires_at)
          return token : TokenM Body Json) (d.granted c (.ok response)) := by
  have hbind : (Except.ok response : Except Exn HttpResponse).bind (token_result c) =
    token_result c response := rfl
  apply keeps_ofExcept
  · rintro ⟨token, expires_in⟩ hresult
    rw [ClientState.granted, hbind, hresult]
    dsimp only
    let g : Grant := ⟨token, d.clock, expires_in⟩
    have hmem : g ∈ d.grants ++ [g] := List.mem_append_right _ (List.mem_singleton_self g)
    have hgrants : d.grants ⊆ d.grants ++ [g] := fun _ hg => List.mem_append_left _ hg
    -- Until the expiry is stored, the new token stands beside the time of the old one.
    refine Prog.guarded_sync rfl ⟨le_rfl, fun _ hg => hg⟩ ?_
    apply keeps_ofExcept
    · intro expires_at hlater
      refine Prog.guarded_sync rfl ⟨le_rfl, fun _ hg => hg⟩ ⟨⟨?_, ?_⟩, ?_⟩
      · exact fun x hx => (hd.sent x hx).mono hgrants
      · intro token' expires_at' htoken hexpires
        cases htoken
        cases hexpires
        exact ⟨g, hmem, rfl, fun _ => later_eq_ok hclock hlater⟩
      · intro token' htoken
        cases htoken
        exact ⟨g, hmem, rfl, .inl rfl⟩
    · intro e hlater
      refine ⟨⟨fun x hx => (hd.sent x hx).mono hgrants, ?_⟩, fun _ h => by cases h⟩
      intro token' expires_at' htoken _
      cases htoken
      exact ⟨g, hmem, rfl, fun hrange => absurd hrange (later_eq_error hnow hclock hlater)⟩
  · intro e hresult
    rw [ClientState.granted, hbind, hresult]
    exact ⟨hd, fun _ h => by cases h⟩

/-- The token that a call gets, from the attributes or from the server. -/
theorem keeps_get_access_token (hmock : c.mock = none) (hd : Sound d) : Keeps c program
    (fun r d' => Sound d' ∧ ∀ token, r = .ok token → Bearer d' token d'.clock)
    (get_access_token c) d := by
  unfold get_access_token
  rw [hmock]
  refine Prog.guarded_sync rfl (Later.refl d) (Prog.guarded_sync rfl (Later.refl d) ?_)
  cases hvalid : valid d.clock (d._token, d._token_expires_at) with
  | some token =>
      refine ⟨hd, fun token' htoken => ?_⟩
      cases htoken
      exact hd.bearer hvalid
  | none =>
      refine keeps_ofExcept (fun _ _ => ?_) fun e _ => ⟨hd, fun _ h => by cases h⟩
      refine Prog.guarded_wait rfl hd (fun d' v response d'' hlater hd' hv => ?_)
        fun d' v e d'' hlater hd' hv => ?_
      · cases hv
        refine ⟨?_, keeps_stored hd' (Int.natCast_nonneg _) (Int.ofNat_le.mpr hlater.clock)⟩
        unfold ClientState.granted
        split
        · exact ⟨le_rfl, fun _ hg => List.mem_append_left _ hg⟩
        · exact Later.refl d'
      · cases hv
        exact ⟨Later.refl d', hd', fun _ h => by cases h⟩

/-- A request, from the token to its answer. -/
theorem keeps_authorised {A : Type} (hmock : c.mock = none) {body : Except Exn Body}
    {result : HttpResponse → Except Exn A} (hd : Sound d) :
    Keeps c program (fun _ => Sound) (authorised c body result) d := by
  refine (keeps_get_access_token hmock hd).bind (fun token d' h => ?_) fun e d' h => h.1
  refine keeps_ofExcept (fun body _ => ?_) fun e _ => h.1
  have hsent : Sound { d' with sent := d'.sent ++ [⟨token, body, d'.clock⟩] } :=
    h.1.send (h.2 token rfl)
  refine Prog.guarded_sync rfl ⟨le_rfl, fun _ hg => hg⟩ ?_
  refine Prog.guarded_wait rfl hsent (fun d₁ v response d₂ _ hd₁ hv => ?_)
    fun d₁ v e d₂ _ hd₁ hv => ?_
  · cases hv
    exact ⟨Later.refl d₁, hd₁⟩
  · cases hv
    exact ⟨Later.refl d₁, hd₁⟩

/-- A client whose calls keep the state sound sends such tokens only. -/
theorem allBearers_of_keeps (h : ∀ w d, Sound d → Keeps c program (fun _ => Sound) (program w) d)
    (clock : ℕ) (moves : List (ClientMove W)) : AllBearers (afterMoves c program clock moves) := by
  have hrule : LoopRule (clientLoop c program) Sound Later := by
    refine ⟨Later.refl, fun _ _ _ => Later.trans, fun e d d' p hd hstart => ?_⟩
    cases e with
    | call w =>
        cases hstart
        exact ⟨Later.refl d, h w d hd⟩
    | tick n =>
        cases hstart
        exact ⟨⟨Nat.le_add_right _ _, fun _ hg => hg⟩, hd.congr rfl rfl rfl rfl⟩
  have hinit : Sound ({ clock } : ClientState Body) :=
    ⟨fun x hx => (by cases hx), fun _ _ h => by cases h⟩
  exact (hrule.run moves ⟨hinit, by simp⟩).store.sent

end Loop

/-! ## Both clients -/

inductive DarajaCall where
  | stk_push (phone : String) (amount : ℤ) (account_reference description : String)
  | stk_push_query (checkout_request_id : String)
  | register_c2b_url (confirmation_url validation_url : String)

def DarajaCall.program : DarajaCall → TokenM DarajaRequest Unit
  | .stk_push phone amount account_reference description =>
      TokenCache.stk_push phone amount account_reference description >>= fun _ => pure ()
  | .stk_push_query checkout_request_id =>
      TokenCache.stk_push_query checkout_request_id >>= fun _ => pure ()
  | .register_c2b_url confirmation_url validation_url =>
      TokenCache.register_c2b_url confirmation_url validation_url >>= fun _ => pure ()

structure EtimsCall (F : Type) where
  sign : String
  tin : String
  bhf_id : String
  invoice_number : ℕ
  amount : Etims.Number F
  package_name : String

def EtimsCall.program {F : Type} (floats : Etims.Floats F) (settings : EtimsSettings)
    (w : EtimsCall F) : TokenM (Etims.Payload F) Unit :=
  submit_invoice floats settings w.sign w.tin w.bhf_id w.invoice_number w.amount w.package_name >>=
    fun _ => pure ()

/-- Every request that a client sends carries a token that the server has granted, either at that
moment or with more than a minute of its lifetime left, if that ends before the last date. -/
theorem bearer_tokens_current {F : Type} (floats : Etims.Floats F) (settings : EtimsSettings)
    (clock : ℕ) :
    (∀ moves, AllBearers (afterMoves daraja DarajaCall.program clock moves)) ∧
      ∀ moves, AllBearers
        (afterMoves (etims settings) (EtimsCall.program floats settings) clock moves) := by
  constructor
  · apply allBearers_of_keeps
    intro w d hd
    cases w with
    | stk_push =>
        exact (keeps_authorised rfl hd).bind (fun _ _ h => h) fun _ _ h => h
    | stk_push_query =>
        exact (keeps_authorised rfl hd).bind (fun _ _ h => h) fun _ _ h => h
    | register_c2b_url =>
        exact (keeps_authorised rfl hd).bind (fun _ _ h => h) fun _ _ h => h
  · apply allBearers_of_keeps
    intro w d hd
    unfold EtimsCall.program submit_invoice
    split
    · exact hd
    · next hmock =>
        refine (keeps_authorised ?_ hd).bind (fun _ _ h => h) fun _ _ h => h
        simp [etims, hmock]

/-- Two calls ask for a token at the same time; a third uses the second of the two. -/
example :
    let answer (token : String) (expires_in : Json) : Except Exn HttpResponse := .ok {
      is_success := true
      json := .ok (.obj [("access_token", .str token), ("expires_in", expires_in)]) }
    let query : LoopMove (Except Exn HttpResponse) (ClientEvent DarajaCall) :=
      .start (.call (.stk_push_query "ws_CO_1"))
    (afterMoves daraja DarajaCall.program 0 [query, query, .resume 1 (answer "b" (.str "3599")),
      .resume 0 (answer "a" (.int 61)), .start (.tick 999999), query,
      .start (.tick 1), query]).sent.map (fun x => (x.token.text, x.sent_at)) =
      [("b", 0), ("a", 0), ("a", 999999)] := by
  decide +kernel

end TokenCache

end FrixelConnect
