import FrixelConnect.Interleaving.Interpret
import FrixelConnect.Python.Ipaddress
import FrixelConnect.Tables.Keyed
import Mathlib.Logic.Function.Basic

/-!
# The REST client of a router

A router keeps tables of items under its own identifiers. The client sends one request at a
time, and sends it again when the network fails, whether or not the router has seen it.

## Implementation notes

A menu stands for its path. The router may refuse any request; one that it carries out acts on
its table. A fetched file is known by the URL it came from. The delay before an attempt and the
log are left out.
-/

namespace FrixelConnect.RouterOs

open Interleaving Python Keyed

inductive Menu where
  | ip_address
  | ip_pool
  | ip_dhcp_server
  | ip_dhcp_server_network
  | ip_hotspot_walled_garden_ip
  | ip_hotspot_profile
  | ip_hotspot
  | ip_hotspot_active
  | ip_hotspot_user_profile
  | radius
  | ip_firewall_nat
  | ppp_profile
  | interface_pppoe_server_server
  deriving DecidableEq

/-- Menus that have one item only. -/
inductive Setting where
  | system_identity
  | radius_incoming
  deriving DecidableEq

abbrev Attrs := String → Option String

abbrev Fields := List (String × String)

abbrev Item := Row ℕ String String

abbrev Items := KeyTable ℕ String String

structure RouterConfig where
  tables : Menu → Items
  settings : Setting → Attrs
  files : String → Option String

inductive Request where
  | get (m : Menu) (params : Fields)
  | add (m : Menu) (json : Fields)
  | patch (m : Menu) (id : ℕ) (json : Fields)
  | delete (m : Menu) (id : ℕ)
  | set (s : Setting) (json : Fields)
  | fetch (url dst_path mode : String)
  deriving DecidableEq

/-- The body of an error: an object with its `str`, or another text. -/
inductive ErrorBody where
  | object (detail message : Option String) (str : String)
  | text (text : String)

inductive Content where
  | items (items : List Item)
  | error (body : ErrorBody)
  | other

structure Response where
  status_code : ℕ
  content : Content

namespace Response

def is_success (r : Response) : Bool := 200 ≤ r.status_code && r.status_code < 300

/-- `response.json()` if it is a list, else `[]`. -/
def items (r : Response) : List Item :=
  match r.content with
  | .items items => items
  | _ => []

/-- A text of an error, which Python takes for false when it is empty. -/
def truthy (text : Option String) : Option String := text.filter fun s => s ≠ ""

def detail (r : Response) : String :=
  match r.content with
  | .error (.object detail message str) => ((truthy detail).or (truthy message)).getD str
  | .error (.text text) => (truthy (some text)).getD ("HTTP " ++ toString r.status_code)
  | _ => "HTTP " ++ toString r.status_code

end Response

namespace RouterConfig

variable (c : RouterConfig)

def setTable (m : Menu) (t : Items) : RouterConfig :=
  { c with tables := Function.update c.tables m t }

def patchSetting (s : Setting) (json : Fields) : RouterConfig :=
  { c with settings := Function.update c.settings s (patch (c.settings s) json) }

def saveFile (dst_path url : String) : RouterConfig :=
  { c with files := Function.update c.files dst_path (some url) }

variable {c} {m m' : Menu} {t : Items} {s : Setting} {json : Fields} {dst_path url : String}

@[simp] theorem tables_setTable : (c.setTable m t).tables m = t := Function.update_self ..

@[simp] theorem tables_setTable_ne (h : m' ≠ m) : (c.setTable m t).tables m' = c.tables m' :=
  Function.update_of_ne h ..

@[simp] theorem settings_setTable : (c.setTable m t).settings = c.settings := rfl

@[simp] theorem files_setTable : (c.setTable m t).files = c.files := rfl

@[simp] theorem tables_patchSetting : (c.patchSetting s json).tables = c.tables := rfl

@[simp] theorem files_patchSetting : (c.patchSetting s json).files = c.files := rfl

@[simp] theorem tables_saveFile : (c.saveFile dst_path url).tables = c.tables := rfl

@[simp] theorem settings_saveFile : (c.saveFile dst_path url).settings = c.settings := rfl

/-- The same configuration up to the identifiers of the items. -/
structure Same (c c' : RouterConfig) : Prop where
  tables : ∀ m, (c.tables m).Same (c'.tables m)
  settings : c.settings = c'.settings
  files : c.files = c'.files

/-- A setting that has the values already. -/
theorem patchSetting_eq_self (h : Holds (c.settings s) json) : c.patchSetting s json = c := by
  rw [patchSetting, patch_eq_self h, Function.update_eq_self]

theorem Same.refl (c : RouterConfig) : c.Same c := ⟨fun _ => .refl _, rfl, rfl⟩

end RouterConfig

structure Refusal where
  status_code : ℕ
  body : ErrorBody
  failure : (Response.mk status_code (.error body)).is_success = false

/-- A router: what it refuses, and the identifiers that it gives. -/
structure Device where
  refuses : RouterConfig → Request → Option Refusal
  new_id : RouterConfig → Menu → ℕ
  fresh : ∀ c m, new_id c m ∉ (c.tables m).ids

/-- Every request is carried out, as on tables. -/
def Device.AsTables (R : Device) : Prop := ∀ c r, R.refuses c r = none

def missing : Response := ⟨404, .error (.object (some "no such item") (some "Not Found") "")⟩

namespace Device

variable (R : Device)

/-- A request that is not refused. -/
def carryOut (c : RouterConfig) : Request → Response × RouterConfig
  | .get m params =>
      (⟨200, .items ((c.tables m).rows.filter fun r =>
        params.all fun p => r.attrs p.1 == some p.2)⟩, c)
  | .add m json => (⟨200, .other⟩, c.setTable m ((c.tables m).insert _ (R.fresh c m) json))
  | .patch m id json =>
      if id ∈ (c.tables m).ids then (⟨200, .other⟩, c.setTable m ((c.tables m).update id json))
      else (missing, c)
  | .delete m id =>
      if id ∈ (c.tables m).ids then (⟨204, .other⟩, c.setTable m ((c.tables m).delete id))
      else (missing, c)
  | .set s json => (⟨200, .other⟩, c.patchSetting s json)
  | .fetch url dst_path _ => (⟨200, .other⟩, c.saveFile dst_path url)

/-- What the router answers, and its configuration from then on. -/
def answer (c : RouterConfig) (r : Request) : Response × RouterConfig :=
  match R.refuses c r with
  | some x => (⟨x.status_code, .error x.body⟩, c)
  | none => R.carryOut c r

end Device

/-- An identifier larger than all of a list. -/
def nextId (ids : List ℕ) : ℕ := ids.foldr max 0 + 1

theorem nextId_not_mem (ids : List ℕ) : nextId ids ∉ ids := by
  have hle : ∀ id ∈ ids, id ≤ ids.foldr max 0 := by
    induction ids with
    | nil => simp
    | cons first rest ih =>
        intro id hid
        rw [List.foldr_cons]
        cases List.mem_cons.mp hid with
        | inl heq => omega
        | inr hrest => exact (ih id hrest).trans (Nat.le_max_right ..)
  intro hmem
  have hlast := hle _ hmem
  rw [nextId] at hlast
  omega

/-- A router that refuses nothing. -/
def Device.plain : Device where
  refuses _ _ := none
  new_id c m := nextId (c.tables m).ids
  fresh c m := nextId_not_mem (c.tables m).ids

def RouterConfig.blank : RouterConfig where
  tables _ := .empty
  settings _ _ := none
  files _ := none

/-- What the client and the code around it raise. -/
inductive ClientError where
  | mikroTikError (message : String)
  | mikroTikAuthError (message : String)
  | requestError
  | addressError (e : AddressError)
  | invalidUrl
  | indexError
  | notFound (resource identifier : String)
  | exception (message : String)
  deriving DecidableEq

/-- `isinstance(e, MikroTikError)`. -/
def ClientError.isMikroTik : ClientError → Bool
  | .mikroTikError _ => true
  | .mikroTikAuthError _ => true
  | _ => false

abbrev ClientM := Prog Request (fun _ => Response) Empty ClientError

/-- How an attempt of a request is lost: before the router sees it, or after it has answered. -/
inductive Loss where
  | before
  | after
  deriving DecidableEq

/-- The router behind a network: for each request to come, the attempts of it that are lost. -/
structure Link where
  config : RouterConfig
  losses : List (List Loss)

/-- `MikroTikClient`, without its credentials. -/
structure RestClient where
  host : String
  port : ℕ

namespace RestClient

variable (self : RestClient) (R : Device)

def authMessage : String :=
  "RouterOS authentication failed for " ++ self.host ++ ":" ++ toString self.port ++
    ". Check the API username and password."

/-- One attempt; `none` where the network fails. -/
def attempt (r : Request) (l : Link) : Option Response × Link :=
  match l.losses with
  | (.before :: ls) :: rest => (none, { l with losses := ls :: rest })
  | (.after :: ls) :: rest =>
      (none, { config := (R.answer l.config r).2, losses := ls :: rest })
  | [] :: rest =>
      (some (R.answer l.config r).1, { config := (R.answer l.config r).2, losses := rest })
  | [] => (some (R.answer l.config r).1, { l with config := (R.answer l.config r).2 })

def MAX_RETRIES : ℕ := 3

/-- The attempts that are left of `_request`. -/
def attempts (r : Request) : ℕ → Link → Except ClientError Response × Link
  | 0, l => (.error .requestError, l)
  | n + 1, l =>
      match attempt R r l with
      | (some response, l') =>
          if response.status_code = 401 then (.error (.mikroTikAuthError self.authMessage), l')
          else (.ok response, l')
      | (none, l') => attempts r n l'

/-- `_request`. -/
def request (r : Request) : Link → Except ClientError Response × Link :=
  self.attempts R r (MAX_RETRIES + 1)

def error_msg (response : Response) (context : String) : String :=
  "MikroTik error during [" ++ context ++ "] on " ++ self.host ++ ":" ++ toString self.port ++
    ": " ++ toString response.status_code ++ "-" ++ response.detail

/-- `_check_response`. -/
def check_response (response : Response) (context : String) : ClientM Unit :=
  if response.is_success then pure ()
  else throw (.mikroTikError (self.error_msg response context))

/-- `item.get(attr) == value`. -/
def named (attr value : String) : Attrs → Bool := fun attrs => attrs attr == some value

/-- `str(ipaddress.IPv4Network(f"{pool_start}/24", strict=False))`. -/
def nat_source (pool_start : String) : Except ClientError String :=
  match IPv4Network.parse (pool_start ++ "/24") with
  | .ok network => .ok network.str
  | .error e => .error (.addressError e)

/-- A request and the check of its response. -/
def send (r : Request) (context : String) : ClientM Response := do
  let response ← Prog.exec r
  self.check_response response context
  pure response

/-- The items of a menu. -/
def list (m : Menu) (context : String) : ClientM (List Item) := do
  let response ← self.send (.get m []) context
  pure response.items

/-- Add an item unless one like it is listed. -/
def add_missing (m : Menu) (listed created : String) (key : Attrs → Bool) (json : Fields) :
    ClientM Unit := do
  let items ← self.list m listed
  if items.any fun r => key r.attrs then pure ()
  else do
    let _ ← self.send (.add m json) created
    pure ()

/-- Add an item, or update the first one like it. -/
def add_or_patch (m : Menu) (listed created updated : String) (key : Attrs → Bool)
    (create change : Fields) : ClientM Unit := do
  let items ← self.list m listed
  match items.find? fun r => key r.attrs with
  | none => do
      let _ ← self.send (.add m create) created
      pure ()
  | some item => do
      let _ ← self.send (.patch m item.id change) updated
      pure ()

/-- Delete each of the listed items that satisfies `key`. -/
def delete_each (m : Menu) (context : String) (key : Attrs → Bool) (items : List Item) :
    ClientM Unit :=
  Prog.forEach items fun item =>
    if key item.attrs then do
      let _ ← self.send (.delete m item.id) context
      pure ()
    else pure ()

/-- `remove_active_hotspot_session`. -/
def remove_active_hotspot_session (username : String) : ClientM Unit := do
  let response ← self.send (.get .ip_hotspot_active [("user", username)])
    ("find active session '" ++ username ++ "'")
  self.delete_each .ip_hotspot_active ("disconnect session '" ++ username ++ "'") (fun _ => true)
    response.items

/-- A request that the network does not lose. -/
def deliver (r : Request) (c : RouterConfig) : Except ClientError Response × RouterConfig :=
  (if (R.answer c r).1.status_code = 401 then .error (.mikroTikAuthError self.authMessage)
    else .ok (R.answer c r).1, (R.answer c r).2)

/-- A run behind a network. -/
def runLink {α : Type} (p : ClientM α) (l : Link) : Except ClientError α × Link :=
  p.interpret (self.request R) l

/-- A run without any network error. -/
def run {α : Type} (p : ClientM α) (c : RouterConfig) : Except ClientError α × RouterConfig :=
  ((self.runLink R p ⟨c, []⟩).1, (self.runLink R p ⟨c, []⟩).2.config)

theorem named_patch {attr value : String} {json : Fields} (h : json.lookup attr = none)
    (attrs : Attrs) : named attr value (patch attrs json) = named attr value attrs := by
  rw [named, named, patch, h]
  rfl

section Runs

variable {self R} {α : Type} {c c' : RouterConfig}

theorem request_nil (r : Request) (c : RouterConfig) :
    self.request R r ⟨c, []⟩ = ((self.deliver R r c).1, ⟨(self.deliver R r c).2, []⟩) := by
  rw [request, MAX_RETRIES, attempts]
  simp only [attempt, deliver]
  split
  · rfl
  · rfl

theorem runLink_nil (p : ClientM α) (c : RouterConfig) : self.runLink R p ⟨c, []⟩ =
    ((p.interpret (self.deliver R) c).1, ⟨(p.interpret (self.deliver R) c).2, []⟩) := by
  unfold runLink
  induction p generalizing c with
  | ret r => rfl
  | ctl e k ih => exact ih _ c
  | stmt r k ih =>
      rw [Prog.interpret, request_nil]
      exact ih _ _

/-- A run without any network error is one in which every request is delivered. -/
theorem run_eq (p : ClientM α) (c : RouterConfig) :
    self.run R p c = p.interpret (self.deliver R) c := by
  rw [run, runLink_nil]

/-- An error of the router comes from a refusal. -/
def Refused (R : Device) (e : ClientError) : Prop :=
  e.isMikroTik = true → ∃ c r x, R.refuses c r = some x

/-- The run ends in `Q`, or with an exception. -/
abbrev Ends (self : RestClient) (R : Device) (p : ClientM α) (c : RouterConfig)
    (Q : α → RouterConfig → Prop) : Prop :=
  p.Gives (self.deliver R) c Q (Refused R)

/-- A request that would be carried out. -/
theorem send_ends {r : Request} (context : String)
    (h : (R.carryOut c r).1.is_success = true) :
    self.Ends R (self.send r context) c fun a c' => a = (R.carryOut c r).1 ∧
      c' = (R.carryOut c r).2 := by
  apply Prog.Gives.bind (Q := fun a c' => (a = (R.carryOut c r).1 ∧ c' = (R.carryOut c r).2) ∨
    a.is_success = false ∧ ∃ c r x, R.refuses c r = some x)
  · apply Prog.Gives.exec
    · intro a ha
      cases hrefuses : R.refuses c r with
      | none =>
          left
          have hanswer : R.answer c r = R.carryOut c r := by rw [Device.answer, hrefuses]
          rw [deliver, hanswer] at ha ⊢
          dsimp only at ha
          split at ha
          · cases ha
          · cases ha
            exact ⟨rfl, rfl⟩
      | some x =>
          right
          simp only [deliver, Device.answer, hrefuses] at ha
          split at ha
          · cases ha
          · cases ha
            exact ⟨x.failure, c, r, x, hrefuses⟩
    · intro e he _
      cases hrefuses : R.refuses c r with
      | some x => exact ⟨c, r, x, hrefuses⟩
      | none =>
          simp only [deliver, Device.answer, hrefuses] at he
          split at he
          · next h401 =>
              rw [Response.is_success, h401] at h
              cases h
          · cases he
  · rintro a y (⟨rfl, rfl⟩ | ⟨hfails, hrefused⟩)
    · rw [check_response, if_pos h]
      exact ⟨rfl, rfl⟩
    · rw [check_response, hfails]
      exact fun _ => hrefused

theorem add_ends (m : Menu) (json : Fields) (context : String) :
    self.Ends R (self.send (.add m json) context) c fun _ c' =>
      ∃ id h, c' = c.setTable m ((c.tables m).insert id h json) := by
  apply (send_ends context rfl).mono
  rintro _ _ ⟨-, rfl⟩
  exact ⟨_, _, rfl⟩

theorem set_ends (s : Setting) (json : Fields) (context : String) :
    self.Ends R (self.send (.set s json) context) c fun _ c' => c' = c.patchSetting s json :=
  (send_ends context rfl).mono fun _ _ h => h.2

theorem fetch_ends (url dst_path mode context : String) :
    self.Ends R (self.send (.fetch url dst_path mode) context) c fun _ c' =>
      c' = c.saveFile dst_path url :=
  (send_ends context rfl).mono fun _ _ h => h.2

theorem nat_source_ends (pool_start : String) :
    self.Ends R (Prog.ofExcept (nat_source pool_start)) c fun target_src c' =>
      nat_source pool_start = .ok target_src ∧ c' = c := by
  cases hsrc : nat_source pool_start with
  | ok target_src => exact ⟨rfl, rfl⟩
  | error e =>
      apply Prog.Gives.raise
      intro he
      rw [nat_source] at hsrc
      split at hsrc
      · cases hsrc
      · cases hsrc
        cases he

theorem list_ends (m : Menu) (context : String) :
    self.Ends R (self.list m context) c fun items c' => c' = c ∧ items = (c.tables m).rows := by
  apply Prog.Gives.bind (send_ends context rfl)
  rintro a y ⟨rfl, rfl⟩
  exact ⟨rfl, List.filter_eq_self.mpr (by simp)⟩

theorem add_missing_ends (m : Menu) (listed created : String) (key : Attrs → Bool) (json : Fields) :
    self.Ends R (self.add_missing m listed created key json) c fun _ c' =>
      ∃ t, AddsMissing key json (c.tables m) t ∧ c' = c.setTable m t := by
  apply Prog.Gives.bind (list_ends m listed)
  rintro items y ⟨rfl, rfl⟩
  split
  · next hany =>
      refine ⟨y.tables m, ?_, ?_⟩
      · rw [AddsMissing, if_pos hany]
      · rw [RouterConfig.setTable, Function.update_eq_self]
  · next hnone =>
      apply Prog.Gives.bind (add_ends m json created)
      rintro a z ⟨id, hid, rfl⟩
      refine ⟨(y.tables m).insert id hid json, ?_, rfl⟩
      rw [AddsMissing, if_neg hnone]
      exact ⟨id, hid, rfl⟩

theorem add_or_patch_ends (m : Menu) (listed created updated : String) (key : Attrs → Bool)
    (create change : Fields) :
    self.Ends R (self.add_or_patch m listed created updated key create change) c fun _ c' =>
      ∃ t, Upserts key create change (c.tables m) t ∧ c' = c.setTable m t := by
  apply Prog.Gives.bind (list_ends m listed)
  rintro items y ⟨rfl, rfl⟩
  split
  · next hnone =>
      apply Prog.Gives.bind (add_ends m create created)
      rintro a z ⟨id, hid, rfl⟩
      refine ⟨(y.tables m).insert id hid create, ?_, rfl⟩
      rw [Upserts, hnone]
      exact ⟨id, hid, rfl⟩
  · next item hitem =>
      have hid : item.id ∈ (y.tables m).ids :=
        List.mem_map_of_mem (List.mem_of_find?_eq_some hitem)
      have hcarry : R.carryOut y (.patch m item.id change) =
          (⟨200, .other⟩, y.setTable m ((y.tables m).update item.id change)) := if_pos hid
      apply Prog.Gives.bind (send_ends updated (by rw [hcarry]; rfl))
      rintro a z ⟨-, rfl⟩
      refine ⟨(y.tables m).update item.id change, ?_, by rw [hcarry]⟩
      rw [Upserts, hitem]

/-- The items of `t` that are kept, where those of `rest` are still to be looked at. -/
def kept (key : Attrs → Bool) (t : Items) (items rest : List Item) : Items :=
  t.filter fun r => !(key r.attrs && decide (r.id ∈ items.map (·.id))) ||
    decide (r.id ∈ rest.map (·.id))

section Kept

variable {key : Attrs → Bool} {t : Items} {items rest : List Item} {item : Item}

theorem kept_self (items : List Item) : kept key t items items = t := by
  apply KeyTable.ext
  apply List.filter_eq_self.mpr
  intro r _
  by_cases hid : r.id ∈ items.map (·.id)
  · simp [hid]
  · simp [hid]

theorem mem_kept (hitem : item ∈ t.rows) (hmem : item ∈ rest) :
    item.id ∈ (kept key t items rest).ids := by
  have hid : item.id ∈ rest.map (·.id) := List.mem_map_of_mem hmem
  apply List.mem_map_of_mem
  apply List.mem_filter.mpr
  constructor
  · exact hitem
  · rw [decide_eq_true hid, Bool.or_true]

/-- The next item goes if it satisfies `key`, and stays otherwise. -/
theorem kept_cons (key : Attrs → Bool) (hitem : item ∈ t.rows) (hmem : item ∈ items)
    (hrest : item.id ∉ rest.map (·.id)) :
    (if key item.attrs then (kept key t items (item :: rest)).delete item.id
      else kept key t items (item :: rest)) = kept key t items rest := by
  have hid : item.id ∈ items.map (·.id) := List.mem_map_of_mem hmem
  apply KeyTable.ext
  split
  · next hkey =>
      simp only [KeyTable.delete, kept, KeyTable.filter, List.filter_filter]
      apply List.filter_congr
      intro r hr
      by_cases heq : r.id = item.id
      · have hr : r = item := List.inj_on_of_nodup_map t.nodup hr hitem heq
        subst hr
        simp [hkey, hid, hrest]
      · simp [heq]
  · next hkey =>
      apply List.filter_congr
      intro r hr
      by_cases heq : r.id = item.id
      · have hr : r = item := List.inj_on_of_nodup_map t.nodup hr hitem heq
        subst hr
        simp [hkey]
      · simp [heq]

theorem kept_nil : kept key t t.rows [] = t.filter fun r => !key r.attrs := by
  apply KeyTable.ext
  apply List.filter_congr
  intro r hr
  have hid : r.id ∈ t.rows.map (·.id) := List.mem_map_of_mem hr
  simp [hid]

end Kept

/-- The loop deletes the listed items that satisfy `key`. -/
theorem delete_each_ends {m : Menu} {items : List Item} (context : String) (key : Attrs → Bool)
    (hsub : ∀ i ∈ items, i ∈ (c.tables m).rows) (hnodup : (items.map (·.id)).Nodup) :
    self.Ends R (self.delete_each m context key items) c fun _ c' =>
      c' = c.setTable m (kept key (c.tables m) items []) := by
  apply Prog.Gives.mono (Q := fun _ y => ∃ done, items = done ++ [] ∧
    y = c.setTable m (kept key (c.tables m) items []))
  · apply Prog.Gives.forEach (I := fun rest y => ∃ done, items = done ++ rest ∧
      y = c.setTable m (kept key (c.tables m) items rest))
    · rintro item rest y ⟨done, hsplit, rfl⟩
      have hmem : item ∈ items := by simp [hsplit]
      have hrest : item.id ∉ rest.map (·.id) := by
        rw [hsplit, List.map_append, List.map_cons] at hnodup
        exact (List.nodup_cons.mp (List.nodup_append.mp hnodup).2.1).1
      have hnext : items = (done ++ [item]) ++ rest := by simp [hsplit]
      have hkept := kept_cons key (hsub item hmem) hmem hrest
      split
      · next hkey =>
          rw [if_pos hkey] at hkept
          have hid : item.id ∈ ((c.setTable m (kept key (c.tables m) items
              (item :: rest))).tables m).ids := by
            rw [RouterConfig.tables_setTable]
            exact mem_kept (hsub item hmem) List.mem_cons_self
          apply Prog.Gives.bind (send_ends context (by rw [Device.carryOut, if_pos hid]; rfl))
          rintro a z ⟨-, rfl⟩
          refine ⟨_, hnext, ?_⟩
          rw [Device.carryOut, if_pos hid, RouterConfig.tables_setTable, hkept]
          simp [RouterConfig.setTable]
      · next hkey =>
          rw [if_neg hkey] at hkept
          exact ⟨_, hnext, by rw [hkept]⟩
    · exact ⟨[], rfl, by rw [kept_self, RouterConfig.setTable, Function.update_eq_self]⟩
  · rintro a y ⟨_, _, hy⟩
    exact hy

end Runs

end RestClient

end FrixelConnect.RouterOs
