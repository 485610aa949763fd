import FrixelConnect.SetupScripts

/-!
# The text of a setup script

The lines of the script that a router downloads, with the name of the router in three of them.
The name is chosen by a user. It is cleaned before it is put in, so that it cannot end the line,
the string or the comment that it stands in.

## Implementation notes

A line of the text is a line of the template with its values; a value may have line ends of its
own. A reader of the text may take any of the Unicode line ends for the end of a line.
-/

namespace FrixelConnect

open Calendar Interleaving Python

namespace Routers

/-- Two digits. -/
def twoDigits (n : ℤ) : String := if n < 10 then "0" ++ toString n else toString n

/-- `strftime("%Y-%m-%d %H:%M:%S UTC")`. -/
def strftime (t : Timestamptz) : String :=
  let date := dateOfDays (t / day)
  toString date.year ++ "-" ++ twoDigits date.month ++ "-" ++ twoDigits date.day ++ " " ++
    twoDigits (t % day / hour) ++ ":" ++ twoDigits (t % hour / minute) ++ ":" ++
    twoDigits (t % minute / second) ++ " UTC"

/-- The one or the other, by the mode of the script. -/
def mode (s : SetupScript) (chr physical : String) : String :=
  if s.wireguard.isNone then chr else physical

/-! ## The sections -/

def version_check : List String :=
   ["# SECTION 1: RouterOS Version Check",
    "# ------------------------------------",
    "# WireGuard is only available in RouterOS 7.1+. The REST API itself",
    "# requires 7.0+. This check catches accidental runs on legacy routers",
    "# and exits cleanly instead of failing 30 seconds into configuration.",
    ":local ros [/system resource get version]",
    ":local rosMajor [:tonum [:pick $ros 0 1]]",
    ":if ($rosMajor < 7) do=\x7b",
    "    :log error \"Frixel Connect: RouterOS v7+ required. Current version: $ros\"",
    "    :error \"Frixel Connect setup requires RouterOS 7 or newer. Please upgrade.\"",
    "\x7d",
    ":log info \"Frixel Connect: RouterOS version $ros - OK\""]

def wg_section : Option WireGuardSection → List String
  | none =>
      ["# SECTION 2: WireGuard VPN-SKIPPED (CHR mode)",
       "# ------------------------------------------------",
       "# CHR and Frixel Connect backend share the same VirtualBox machine.",
       "# They communicate via the host-only adapter (192.168.56.x) directly.",
       "# On a physical MikroTik, this section creates an encrypted VPN tunnel.",
       ":log info \"Frixel Connect: CHR mode-skipping WireGuard (same-machine networking)\""]
  | some w =>
      ["# SECTION 2: WireGuard VPN",
       "# --------------------------",
       "# Creates an encrypted tunnel between this router and Frixel Connect.",
       "# persistent-keepalive=25s keeps the tunnel alive through NAT without",
       "# requiring the router to have a static public IP address.",
       "# The private key embedded here is deleted from the Frixel Connect database",
       "# the moment this script calls /confirm in Section 8.",
       ":log info \"Frixel Connect: Configuring WireGuard VPN...\"",
       ":do \x7b",
       "    /interface wireguard add name=wg-Frixel Connect private-key=\"" ++ w.private_key ++
         "\" listen-port=13231 comment=\"Frixel Connect VPN - do not modify\"",
       "    /interface wireguard peers add interface=wg-Frixel Connect public-key=\"" ++
         w.server_public_key ++ "\" endpoint-address=\"" ++ w.server_endpoint ++
         "\" allowed-address=" ++ w.server_wg_ip ++ "/32 persistent-keepalive=25s " ++
         "comment=\"Frixel Connect Server\"",
       "    /ip address add address=" ++ w.assigned_wg_ip ++ "/24 interface=wg-Frixel Connect " ++
         "comment=\"Frixel Connect VPN address\"",
       "    :delay 3s",
       "    :log info \"Frixel Connect: WireGuard interface created. Waiting for tunnel...\"",
       "\x7d on-error=\x7b",
       "    :log error \"Frixel Connect: WireGuard setup failed. Is WireGuard supported on this " ++
         "router?\"",
       "    :error \"Frixel Connect setup failed at WireGuard configuration. See /log.\"",
       "\x7d"]

def firewall_section (s : SetupScript) : List String :=
  if s.wireguard.isNone then
   ["# SECTION 6: Firewall-allow API from VirtualBox host-only network",
    "# -------------------------------------------------------------------",
    "# CHR mode: the Frixel Connect backend runs on Ubuntu at 192.168.56.x.",
    "# The /24 rule allows any host on the VirtualBox host-only adapter.",
    ":log info \"Frixel Connect: Adding API firewall rule (CHR host-only mode)...\"",
    ":do \x7b",
    "    :local firstRule [/ip firewall filter find]",
    "    :if ([:len $firstRule] > 0) do=\x7b",
    "        /ip firewall filter add chain=input src-address=" ++ s.firewall_source ++
      " protocol=tcp dst-port=80 action=accept place-before=[:pick $firstRule 0] " ++
      "comment=\"Frixel Connect API - dev host\"",
    "    \x7d else=\x7b",
    "        /ip firewall filter add chain=input src-address=" ++ s.firewall_source ++
      " protocol=tcp dst-port=80 action=accept comment=\"Frixel Connect API - dev host\"",
    "    \x7d",
    "\x7d on-error=\x7b",
    "    :log warning \"Frixel Connect: Firewall rule add failed - API may be inaccessible\"",
    "\x7d"]
  else
   ["# SECTION 6: Firewall-allow API from WireGuard VPN only",
    "# ----------------------------------------------------------",
    "# Restricts REST API access to the Frixel Connect server VPN IP only.",
    "# Any direct internet access to port 80 will be blocked by the",
    "# existing default-deny chain, protecting the API from the internet.",
    ":log info \"Frixel Connect: Adding API firewall rule (VPN-only access)...\"",
    ":do \x7b",
    "    :local firstRule [/ip firewall filter find]",
    "    :if ([:len $firstRule] > 0) do=\x7b",
    "        /ip firewall filter add chain=input src-address=" ++ s.firewall_source ++
      " protocol=tcp dst-port=80 action=accept place-before=[:pick $firstRule 0] " ++
      "comment=\"Frixel Connect API - VPN only\"",
    "    \x7d else=\x7b",
    "        /ip firewall filter add chain=input src-address=" ++ s.firewall_source ++
      " protocol=tcp dst-port=80 action=accept comment=\"Frixel Connect API - VPN only\"",
    "    \x7d",
    "\x7d on-error=\x7b",
    "    :log warning \"Frixel Connect: Firewall rule add failed - API may be inaccessible\"",
    "\x7d"]

/-! ## The lines with the name -/

def routerLine (safe_name : String) : String := "# Router:    " ++ safe_name

def logLine (safe_name mode : String) : String :=
  ":log info \"Frixel Connect: Router=" ++ safe_name ++ " Mode=" ++ mode ++ "\""

def identityLine (safe_name : String) : String :=
  "    /system identity set name=\"Frixel Connect-" ++ safe_name ++ "\""

/-! ## The lines around them -/

def heading : List String :=
   ["# =======================================================================",
    "# Frixel Connect Auto-Configuration Script"]

def preamble (s : SetupScript) : List String :=
   ["# Generated: " ++ strftime s.timestamp,
    "# Token:     " ++ s.token_prefix ++ "... (first 8 chars only-full token in URL)",
    "# Mode:      " ++ mode s "CHR/Development (VirtualBox)" "Physical MikroTik (Production)",
    "#",
    "# WARNING: This file contains sensitive credentials.",
    "# Do NOT share, copy, or store this file.",
    "# It self-deletes after execution.",
    "# Token is single-use and expires 24 hours from generation.",
    "# =======================================================================",
    "",
    ":log info \"Frixel Connect: ====== Auto-configuration starting ======\""]

/-- The sections before the identity. -/
def configuration (s : SetupScript) : List String :=
  [""] ++ version_check ++ [""] ++ wg_section s.wireguard ++ [""] ++
   ["# SECTION 3: Create Frixel Connect API User",
    "# --------------------------------------",
    "# Creates a dedicated group and user with the minimum permissions required:",
    "#   api      - REST API access (required for /rest/* endpoints in RouterOS 7)",
    "#   read     - read router configuration",
    "#   write    - create/delete hotspot users and PPPoE secrets",
    "#   test     - ping/traceroute for diagnostics",
    "#   rest-api - explicit REST API permission (RouterOS 7 requirement)",
    "#",
    "# Uses existence checks (:if [:len [find]] = 0) so the script is",
    "# idempotent-safe to run twice without creating duplicate entries.",
    "# If Frixel Connect-api already exists (from a previous attempt), the password",
    "# is updated to the new value rather than failing.",
    ":log info \"Frixel Connect: Creating API user group and account...\"",
    ":do \x7b",
    "    :if ([:len [/user group find name=\"Frixel Connect-api-group\"]] = 0) do=\x7b",
    "        /user group add name=Frixel Connect-api-group " ++
      "policy=api,read,write,test,rest-api,ftp,sensitive comment=\"Frixel Connect API group - " ++
      "do not modify\"",
    "        :log info \"Frixel Connect: Created group Frixel Connect-api-group\"",
    "    \x7d else=\x7b",
    "        /user group set Frixel Connect-api-group " ++
      "policy=api,read,write,test,rest-api,ftp,sensitive",
    "        :log info \"Frixel Connect: Updated policy for Frixel Connect-api-group\"",
    "    \x7d",
    "    :if ([:len [/user find name=\"Frixel Connect-api\"]] = 0) do=\x7b",
    "        /user add name=Frixel Connect-api password=\"" ++ s.api_password ++
      "\" group=Frixel Connect-api-group comment=\"Frixel Connect API user - do not modify\"",
    "        :log info \"Frixel Connect: Created user Frixel Connect-api\"",
    "    \x7d else=\x7b",
    "        /user set Frixel Connect-api password=\"" ++ s.api_password ++ "\"",
    "        :log info \"Frixel Connect: Updated password for existing Frixel Connect-api\"",
    "    \x7d",
    "\x7d on-error=\x7b",
    "    :log error \"Frixel Connect: User/group creation failed.\"",
    "    :error \"Frixel Connect setup failed at Section 3 (API user). See /log.\"",
    "\x7d",
    "",
    "# SECTION 4: Enable REST API Service",
    "# ------------------------------------",
    "# The RouterOS REST API runs on the www (HTTP) service at port 80.",
    "# Section 6 (firewall) restricts which source IPs can reach it.",
    ":log info \"Frixel Connect: Enabling REST API service on port 80...\"",
    ":do \x7b",
    "    /ip service enable www",
    "    /ip service set www port=80",
    "\x7d on-error=\x7b",
    "    :log warning \"Frixel Connect: Could not set REST API service - may already be " ++
      "configured\"",
    "\x7d",
    "",
    "# SECTION 5: Create Hotspot Speed Profiles",
    "# ------------------------------------------",
    "# Defines the three bandwidth tiers Frixel Connect offers by default.",
    "# shared-users=1   -one device per voucher code (prevents sharing)",
    "# mac-cookie-timeout=1d-device stays logged in for 24h after first auth",
    "# keepalive-timeout=2m -disconnects completely idle sessions after 2 min",
    "# Additional tiers can be added from the Frixel Connect dashboard after setup.",
    ":log info \"Frixel Connect: Creating hotspot speed profiles...\"",
    ":do \x7b",
    "    :if ([:len [/ip hotspot user profile find name=\"10Mbps\"]] = 0) do=\x7b",
    "        /ip hotspot user profile add name=\"10Mbps\" rate-limit=\"10M/10M\" shared-users=1 " ++
      "mac-cookie-timeout=1d keepalive-timeout=2m",
    "    \x7d",
    "    :if ([:len [/ip hotspot user profile find name=\"20Mbps\"]] = 0) do=\x7b",
    "        /ip hotspot user profile add name=\"20Mbps\" rate-limit=\"20M/20M\" shared-users=1 " ++
      "mac-cookie-timeout=1d keepalive-timeout=2m",
    "    \x7d",
    "    :if ([:len [/ip hotspot user profile find name=\"50Mbps\"]] = 0) do=\x7b",
    "        /ip hotspot user profile add name=\"50Mbps\" rate-limit=\"50M/50M\" shared-users=1 " ++
      "mac-cookie-timeout=1d keepalive-timeout=2m",
    "    \x7d",
    "\x7d on-error=\x7b",
    "    :log warning \"Frixel Connect: Speed profile creation had errors - check /ip hotspot " ++
      "user profile\"",
    "\x7d",
    ""] ++
  firewall_section s ++ [""] ++
   ["# SECTION 7: Set Router Identity",
    "# --------------------------------",
    ":log info \"Frixel Connect: Setting router identity...\"",
    ":do \x7b"]

/-- The sections after the identity. -/
def closing (s : SetupScript) : List String :=
   ["\x7d on-error=\x7b",
    "    :log warning \"Frixel Connect: Could not set router identity - non-critical, continuing\"",
    "\x7d",
    "",
    "# SECTION 8: Confirm Setup to Frixel Connect Server",
    "# ---------------------------------------------",
    "# Sends a POST to Frixel Connect to trigger the \"Setup complete!\" on the dashboard.",
    "# This fires ONLY if all previous sections completed without :error.",
    "#",
    "# connection-timeout=30-if Frixel Connect is unreachable, fail after 30 seconds",
    "# instead of hanging indefinitely. The ISP admin sees a clear timeout error",
    "# in /log rather than a frozen terminal.",
    "#",
    "# FIX [HIGH-2]: connection-timeout=30 added (was missing in original).",
    ":log info \"Frixel Connect: Confirming setup to Frixel Connect server...\"",
    ":do \x7b",
    "    /tool fetch url=\"" ++ s.confirm_url ++ "\" mode=" ++ s.http_mode ++ " keep-result=no " ++
      "http-method=post",
    "    :log info \"Frixel Connect: Server confirmed. Dashboard will update in ~3 seconds.\"",
    "\x7d on-error=\x7b",
    "    :log error \"Frixel Connect: Could not reach Frixel Connect server for confirmation.\"",
    "    :log error \"Frixel Connect: Setup IS complete locally but dashboard may not reflect " ++
      "this.\"",
    "    :log error \"Frixel Connect: Contact support or manually mark this router online.\"",
    "    # Do NOT :error here-the router IS configured correctly.",
    "    # The only failure is the callback, not the configuration.",
    "    # The Frixel Connect reconciliation cron will detect and confirm within 5 minutes.",
    "\x7d",
    "",
    "# SECTION 9: Self-Deletion",
    "# -------------------------",
    "# Removes this script from the router filesystem after execution.",
    "# Reasons:",
    "#   1. Prevents accidental re-import (Section 3 handles idempotency but",
    "#      running twice is confusing and creates unnecessary log noise)",
    "#   2. Removes the embedded API password from the router filesystem",
    "#   3. Security hygiene-bootstrap credentials should not persist",
    ":log info \"Frixel Connect: Cleaning up setup script...\"",
    ":delay 1s",
    "/file remove Frixel Connect-setup.rsc",
    ":log info \"Frixel Connect: ====== Setup complete! Router is connected to Frixel Connect. " ++
      "======\"",
    ":log info \"Frixel Connect: You can close this terminal. The dashboard updates " ++
      "automatically.\""]

/-- The lines of the template. -/
def templateLines (s : SetupScript) : List String :=
  heading ++ routerLine s.safe_name :: preamble s ++
    logLine s.safe_name (mode s "CHR" "Production") :: configuration s ++
    identityLine s.safe_name :: closing s

/-- The text of the script; every line is ended. -/
def scriptText (s : SetupScript) : List Char :=
  (templateLines s).flatMap fun l => l.toList ++ ['\n']

/-! ## The cleaned name -/

/-- The line ends of Unicode. -/
def lineBreak (c : Char) : Bool :=
  (10 ≤ c.toNat && c.toNat ≤ 13) || (28 ≤ c.toNat && c.toNat ≤ 30) ||
    [0x85, 0x2028, 0x2029].contains c.toNat

theorem isSpace_of_lineBreak {c : Char} (h : lineBreak c = true) : isSpace c = true := by
  simp only [lineBreak, isSpace, Bool.or_eq_true, Bool.and_eq_true, decide_eq_true_eq,
    List.contains_eq_mem, List.mem_cons, List.not_mem_nil, or_false] at h ⊢
  omega

/-- The pieces of a list have the elements of the list that do not end a piece. -/
theorem mem_splitOnP {α : Type} {p : α → Bool} {xs piece : List α} {x : α}
    (hpiece : piece ∈ xs.splitOnP p) (hx : x ∈ piece) : x ∈ xs ∧ p x = false := by
  induction xs generalizing piece with
  | nil =>
      rw [List.splitOnP_nil, List.mem_singleton] at hpiece
      subst hpiece
      cases hx
  | cons y ys ih =>
      rw [List.splitOnP_cons_eq_if_modifyHead] at hpiece
      split at hpiece
      · rcases List.mem_cons.mp hpiece with rfl | hpiece
        · cases hx
        · exact (ih hpiece hx).imp_left (List.mem_cons_of_mem y)
      · next hy =>
          obtain ⟨first, rest, hsplit⟩ := List.exists_cons_of_ne_nil (List.splitOnP_ne_nil p ys)
          rw [hsplit, List.modifyHead_cons] at hpiece
          have hold {q : List α} (hq : q ∈ first :: rest) (hxq : x ∈ q) : x ∈ ys ∧ p x = false :=
            ih (hsplit ▸ hq) hxq
          rcases List.mem_cons.mp hpiece with rfl | hpiece
          · rcases List.mem_cons.mp hx with rfl | hx
            · exact ⟨List.mem_cons_self, by simpa using hy⟩
            · exact (hold List.mem_cons_self hx).imp_left (List.mem_cons_of_mem y)
          · exact (hold (List.mem_cons_of_mem _ hpiece) hx).imp_left (List.mem_cons_of_mem y)

theorem mem_intercalate {α : Type} {sep : List α} {pieces : List (List α)} {x : α}
    (h : x ∈ sep.intercalate pieces) : x ∈ sep ∨ ∃ piece ∈ pieces, x ∈ piece := by
  induction pieces with
  | nil => cases h
  | cons piece rest ih =>
      cases rest with
      | nil =>
          rw [List.intercalate_singleton] at h
          exact .inr ⟨piece, List.mem_cons_self, h⟩
      | cons next rest =>
          rw [List.intercalate_cons_cons, List.append_assoc, List.mem_append, List.mem_append] at h
          rcases h with h | h | h
          · exact .inr ⟨piece, List.mem_cons_self, h⟩
          · exact .inl h
          · rcases ih h with h | ⟨piece', hpiece', hx⟩
            · exact .inl h
            · exact .inr ⟨piece', List.mem_cons_of_mem _ hpiece', hx⟩

/-- White space becomes blanks. -/
theorem mem_collapse {s : List Char} {c : Char} (h : c ∈ collapse s) :
    c = ' ' ∨ c ∈ s ∧ isSpace c = false := by
  rcases mem_intercalate h with h | ⟨word, hword, hc⟩
  · exact .inl (List.mem_singleton.mp h)
  · exact .inr (mem_splitOnP (List.mem_of_mem_filter hword) hc)

/-- A character that ends neither a string nor a line and that starts no expression. -/
def harmless (c : Char) : Bool := !dangerous c && !lineBreak c

theorem harmless_of_mem_collapse {s : List Char} {c : Char} (hs : ∀ x ∈ s, dangerous x = false)
    (h : c ∈ collapse s) : harmless c = true := by
  rw [harmless, Bool.and_eq_true, Bool.not_eq_true', Bool.not_eq_true']
  rcases mem_collapse h with rfl | ⟨hc, hspace⟩
  · decide
  · refine ⟨hs c hc, ?_⟩
    rw [← Bool.not_eq_true] at hspace ⊢
    exact fun hbreak => hspace (isSpace_of_lineBreak hbreak)

/-- A name that can be put into a script: it is not empty, it is short, and it is harmless. -/
structure Clean (name : String) : Prop where
  nonempty : name ≠ ""
  length : name.length ≤ 64
  chars : name.toList.all harmless = true

/-- Every name is cleaned. -/
theorem sanitize_clean (name : String) : Clean (sanitize_router_name name) := by
  unfold sanitize_router_name
  dsimp only
  split
  · exact ⟨by decide, by decide, by decide +kernel⟩
  · next hne =>
      refine ⟨fun h => hne ?_, ?_, List.all_eq_true.mpr fun c hc => ?_⟩
      · have hnil := congrArg String.toList h
        rw [String.toList_ofList] at hnil
        rw [hnil]
        rfl
      · rw [String.length_ofList, List.length_take]
        exact min_le_left ..
      · rw [String.toList_ofList] at hc
        refine harmless_of_mem_collapse (fun x hx => ?_) (List.mem_of_mem_take hc)
        simpa using (List.mem_filter.mp hx).2

/-! ## The lines of a text -/

/-- The lines of a text for a reader who takes the characters `brk` for line ends. -/
def linesOf (brk : Char → Bool) (text : List Char) : List (List Char) :=
  text.splitOnP brk

/-- The lines are those of the lines of the template, and what follows the last line end. -/
theorem linesOf_flatMap {brk : Char → Bool} (h : brk '\n' = true) (lines : List String) :
    linesOf brk (lines.flatMap fun l => l.toList ++ ['\n']) =
      lines.flatMap (fun l => linesOf brk l.toList) ++ [[]] := by
  induction lines with
  | nil => rfl
  | cons l lines ih =>
      rw [List.flatMap_cons, List.append_assoc, List.singleton_append, linesOf,
        List.splitOnP_append_cons _ _ h, List.flatMap_cons, List.append_assoc, ← ih]
      rfl

theorem linesOf_singleton {brk : Char → Bool} {l : List Char} (h : ∀ c ∈ l, brk c = false) :
    linesOf brk l = [l] := List.splitOnP_eq_singleton h

/-! ## The script of a call -/

/-- The result of a program that does nothing but read the clock. -/
def atTime {α : Type} (now : Timestamptz) : RouterM α → Option (Except Exn α)
  | .ret r => some r
  | .ctl _ _ => none
  | .stmt .utc_now k => atTime now (k (.ok now))
  | .stmt _ _ => none

/-- The arguments of a call other than the name, and the time of the call. -/
structure ScriptCall where
  settings : SetupSettings
  token : String
  wg_private_key : String
  server_public_key : String
  server_endpoint : String
  assigned_wg_ip : String
  server_wg_ip : String
  api_password : String
  confirm_url : String
  is_chr : Bool
  now : Timestamptz

/-- The outcome of the call for a name. -/
def ScriptCall.outcome (a : ScriptCall) (router_name : String) : Option (Except Exn SetupScript) :=
  atTime a.now (build_setup_script a.settings a.token router_name a.wg_private_key
    a.server_public_key a.server_endpoint a.assigned_wg_ip a.server_wg_ip a.api_password
    a.confirm_url a.is_chr)

/-- The script of a call that succeeds, apart from the name. -/
def ScriptCall.script (a : ScriptCall) : SetupScript where
  safe_name := ""
  timestamp := a.now
  token_prefix := front 8 a.token
  wireguard := if a.is_chr then none else some {
    private_key := a.wg_private_key, server_public_key := a.server_public_key
    server_endpoint := a.server_endpoint, server_wg_ip := a.server_wg_ip
    assigned_wg_ip := a.assigned_wg_ip }
  api_password := a.api_password
  firewall_source := if a.is_chr then a.settings.chr_host_only_network ++ "/24"
    else a.server_wg_ip ++ "/32"
  confirm_url := a.confirm_url
  http_mode := if a.is_chr then "http" else "https"

/-- Whether a call gives a script does not depend on the name. -/
theorem ScriptCall.outcome_cases (a : ScriptCall) :
    (∃ e, ∀ name, a.outcome name = some (.error e)) ∨
      ∀ name, a.outcome name =
        some (.ok { a.script with safe_name := sanitize_router_name name }) := by
  unfold outcome build_setup_script script
  cases a.is_chr with
  | true => exact .inr fun name => rfl
  | false =>
      cases validate_wg_key a.wg_private_key "private key" with
      | error e => exact .inl ⟨e, fun name => rfl⟩
      | ok _ =>
          cases validate_wg_key a.server_public_key "server public key" with
          | error e => exact .inl ⟨e, fun name => rfl⟩
          | ok _ => exact .inr fun name => rfl

section Injection

variable {brk : Char → Bool} {name name' : String}

/-- The text has no line end. -/
def oneLine (s : String) : Bool := s.toList.all fun c => !lineBreak c

/-- A line of the template between fixed delimiters, around a clean name. -/
theorem linesOf_delimited (hbrk : ∀ c, brk c = true → lineBreak c = true) (hname : Clean name)
    {front back : String} (hfront : oneLine front = true) (hback : oneLine back = true) :
    linesOf brk (front.toList ++ name.toList ++ back.toList) =
      [front.toList ++ name.toList ++ back.toList] := by
  have hline {c : Char} {s : String} (hs : oneLine s = true) (hc : c ∈ s.toList) :
      lineBreak c = false := by
    simpa using List.all_eq_true.mp hs c hc
  have hclean {c : Char} (hc : c ∈ name.toList) : lineBreak c = false := by
    have h := List.all_eq_true.mp hname.chars c hc
    rw [harmless, Bool.and_eq_true] at h
    simpa using h.2
  apply linesOf_singleton
  intro c hc
  rw [← Bool.not_eq_true]
  intro hbreak
  have hunbroken : lineBreak c = false := by
    rw [List.mem_append, List.mem_append] at hc
    rcases hc with (hc | hc) | hc
    · exact hline hfront hc
    · exact hclean hc
    · exact hline hback hc
  rw [hbrk c hbreak] at hunbroken
  cases hunbroken

/-- The three lines with the name, at their places. -/
structure Named (lines : List (List Char)) (i j k : ℕ) (mode name : String) : Prop where
  router : lines[i]? = some (routerLine name).toList
  log : lines[j]? = some (logLine name mode).toList
  identity : lines[k]? = some (identityLine name).toList

/-- The same lines, except for the three that name the router. -/
def SameButName (lines lines' : List (List Char)) (name name' : String) : Prop :=
  lines.length = lines'.length ∧ ∃ i j k mode, i < j ∧ j < k ∧
    (∀ n, n ≠ i → n ≠ j → n ≠ k → lines[n]? = lines'[n]?) ∧
    Named lines i j k mode name ∧ Named lines' i j k mode name'

theorem linesOf_routerLine (hbrk : ∀ c, brk c = true → lineBreak c = true) (hname : Clean name) :
    linesOf brk (routerLine name).toList = [(routerLine name).toList] := by
  have hfront : oneLine "# Router:    " = true := by decide +kernel
  have hback : oneLine "" = true := rfl
  have h := linesOf_delimited hbrk hname hfront hback
  rwa [String.toList_empty, List.append_nil, ← String.toList_append] at h

theorem toList_append_five (a b c d e : String) :
    (a ++ b ++ c ++ d ++ e).toList = a.toList ++ b.toList ++ (c ++ d ++ e).toList := by
  simp only [String.toList_append, List.append_assoc]

theorem linesOf_logLine (hbrk : ∀ c, brk c = true → lineBreak c = true) (hname : Clean name)
    {mode : String} (hmode : oneLine mode = true) :
    linesOf brk (logLine name mode).toList = [(logLine name mode).toList] := by
  have hfront : oneLine ":log info \"Frixel Connect: Router=" = true := by decide +kernel
  have hback : oneLine (" Mode=" ++ mode ++ "\"") = true := by
    have hopen : oneLine " Mode=" = true := by decide +kernel
    have hclose : oneLine "\"" = true := by decide +kernel
    rw [oneLine, String.toList_append, String.toList_append, List.all_append, List.all_append,
      Bool.and_eq_true, Bool.and_eq_true]
    exact ⟨⟨hopen, hmode⟩, hclose⟩
  have h := linesOf_delimited hbrk hname hfront hback
  have hlog : (logLine name mode).toList = ":log info \"Frixel Connect: Router=".toList ++
      name.toList ++ (" Mode=" ++ mode ++ "\"").toList := toList_append_five ..
  rwa [hlog]

theorem linesOf_identityLine (hbrk : ∀ c, brk c = true → lineBreak c = true)
    (hname : Clean name) :
    linesOf brk (identityLine name).toList = [(identityLine name).toList] := by
  have hfront : oneLine "    /system identity set name=\"Frixel Connect-" = true := by
    decide +kernel
  have hback : oneLine "\"" = true := by decide +kernel
  have h := linesOf_delimited hbrk hname hfront hback
  rwa [← String.toList_append, ← String.toList_append] at h

theorem oneLine_mode (s : SetupScript) : oneLine (mode s "CHR" "Production") = true := by
  unfold mode
  split
  · decide +kernel
  · decide +kernel

/-- The lines of a text, with those around the name. -/
theorem linesOf_scriptText (hbrk : ∀ c, brk c = true → lineBreak c = true)
    (hend : brk '\n' = true) (s : SetupScript) (hname : Clean name) :
    linesOf brk (scriptText { s with safe_name := name }) =
      heading.flatMap (fun l => linesOf brk l.toList) ++ (routerLine name).toList ::
        ((preamble s).flatMap (fun l => linesOf brk l.toList) ++
          (logLine name (mode s "CHR" "Production")).toList ::
          ((configuration s).flatMap (fun l => linesOf brk l.toList) ++
            (identityLine name).toList ::
            ((closing s).flatMap (fun l => linesOf brk l.toList) ++ [[]]))) := by
  have hlines : templateLines { s with safe_name := name } =
      heading ++ routerLine name :: preamble s ++ logLine name (mode s "CHR" "Production") ::
        configuration s ++ identityLine name :: closing s := rfl
  rw [scriptText, linesOf_flatMap hend, hlines]
  simp only [List.flatMap_append, List.flatMap_cons, linesOf_routerLine hbrk hname,
    linesOf_logLine hbrk hname (oneLine_mode s), linesOf_identityLine hbrk hname, List.append_assoc,
    List.cons_append, List.nil_append]

theorem getElem?_append_cons_add {α : Type} (A X : List α) (x : α) (m : ℕ) :
    (A ++ x :: X)[A.length + 1 + m]? = X[m]? := by
  have hindex : A.length + 1 + m - A.length = m + 1 := by omega
  rw [List.getElem?_append_right (by omega), hindex, List.getElem?_cons_succ]

theorem getElem?_append_cons_self {α : Type} (A X : List α) (x : α) :
    (A ++ x :: X)[A.length]? = some x := by simp

/-- Two lists that differ at one place, and behind it where the rests differ. -/
theorem getElem?_append_cons {α : Type} {A X X' : List α} {x x' : α} {n : ℕ} (hn : n ≠ A.length)
    (h : ∀ m, n = A.length + 1 + m → X[m]? = X'[m]?) :
    (A ++ x :: X)[n]? = (A ++ x' :: X')[n]? := by
  rcases Nat.lt_or_ge n A.length with hlt | hge
  · rw [List.getElem?_append_left hlt, List.getElem?_append_left hlt]
  · obtain ⟨m, rfl⟩ : ∃ m, n = A.length + 1 + m := ⟨n - A.length - 1, by omega⟩
    rw [getElem?_append_cons_add, getElem?_append_cons_add, h m rfl]

theorem sameButName (hbrk : ∀ c, brk c = true → lineBreak c = true) (hend : brk '\n' = true)
    (s : SetupScript) (hname : Clean name) (hname' : Clean name') :
    SameButName (linesOf brk (scriptText { s with safe_name := name }))
      (linesOf brk (scriptText { s with safe_name := name' })) name name' := by
  rw [linesOf_scriptText hbrk hend s hname, linesOf_scriptText hbrk hend s hname']
  generalize heading.flatMap (fun l => linesOf brk l.toList) = A
  generalize (preamble s).flatMap (fun l => linesOf brk l.toList) = B
  generalize (configuration s).flatMap (fun l => linesOf brk l.toList) = C
  generalize (closing s).flatMap (fun l => linesOf brk l.toList) ++ [[]] = D
  have hnamed (name mode : String) : Named (A ++ (routerLine name).toList :: (B ++
      (logLine name mode).toList :: (C ++ (identityLine name).toList :: D))) A.length
      (A.length + 1 + B.length) (A.length + 1 + (B.length + 1 + C.length)) mode name := by
    constructor
    · rw [getElem?_append_cons_self]
    · rw [getElem?_append_cons_add, getElem?_append_cons_self]
    · rw [getElem?_append_cons_add, getElem?_append_cons_add, getElem?_append_cons_self]
  refine ⟨by simp, A.length, A.length + 1 + B.length, A.length + 1 + (B.length + 1 + C.length),
    mode s "CHR" "Production", by omega, by omega, fun n hi hj hk => ?_, hnamed name _,
    hnamed name' _⟩
  apply getElem?_append_cons hi
  rintro m rfl
  apply getElem?_append_cons (by omega)
  rintro m rfl
  apply getElem?_append_cons (by omega)
  intros
  rfl

end Injection

/-- No name of a router can inject commands: every name is cleaned, and whatever two names are
given to the same call, both calls raise the same exception, or the two scripts have the same lines
except for the three that the clean names stand in, between the same delimiters. A reader may take
any of the line ends of Unicode for the end of a line. -/
theorem no_script_injection (a : ScriptCall) (name name' : String) (brk : Char → Bool)
    (hbrk : ∀ c, brk c = true → lineBreak c = true) (hend : brk '\n' = true) :
    Clean (sanitize_router_name name) ∧
      ((∃ e, a.outcome name = some (.error e) ∧ a.outcome name' = some (.error e)) ∨
        ∃ s s', a.outcome name = some (.ok s) ∧ a.outcome name' = some (.ok s') ∧
          SameButName (linesOf brk (scriptText s)) (linesOf brk (scriptText s'))
            (sanitize_router_name name) (sanitize_router_name name')) := by
  refine ⟨sanitize_clean name, ?_⟩
  rcases a.outcome_cases with ⟨e, he⟩ | hs
  · exact .inl ⟨e, he name, he name'⟩
  · exact .inr ⟨_, _, hs name, hs name',
      sameButName hbrk hend a.script (sanitize_clean name) (sanitize_clean name')⟩

/-- A call for a router on the same machine. -/
def chrCall : ScriptCall where
  settings := {}
  token := "0123456789abcdef"
  wg_private_key := ""
  server_public_key := ""
  server_endpoint := "102.219.208.5:51820"
  assigned_wg_ip := "10.8.0.2"
  server_wg_ip := "10.8.0.1"
  api_password := "secret"
  confirm_url := "http://192.168.56.1:8000/confirm"
  is_chr := true
  now := 0

/-- A name that closes the string and starts a command, next to another name. -/
theorem no_script_injection_quote :
    ∃ s s', chrCall.outcome "Site A\"; /user set admin password=\"hacked" = some (.ok s) ∧
      chrCall.outcome "Site B" = some (.ok s') ∧
        SameButName (linesOf lineBreak (scriptText s)) (linesOf lineBreak (scriptText s'))
          (sanitize_router_name "Site A\"; /user set admin password=\"hacked")
          (sanitize_router_name "Site B") := by
  have h := no_script_injection chrCall "Site A\"; /user set admin password=\"hacked" "Site B"
    lineBreak (fun _ hc => hc) (by decide)
  rcases h.2 with ⟨e, he, -⟩ | hs
  · cases he
  · exact hs

end Routers

end FrixelConnect
