import FrixelConnect.Routers
import FrixelConnect.Python.Text

/-!
# Setup scripts

The script that a new router downloads with its setup token, and the endpoint that serves it.

## Implementation notes

A script is given by the values that stand in its text; the commands around them are the same
in every script of its mode. The private key stands in the WireGuard section only.
-/

namespace FrixelConnect

open Calendar Interleaving Python

/-- The settings that the scripts depend on. -/
structure SetupSettings where
  wireguard_server_public_key : Option String :=
    some "Frixel ConnectServerPublicKeyWgPlaceholderBase64="
  wireguard_endpoint : String := "102.219.208.5:51820"
  api_base_url : String := "https://api.Frixel Connect.dev"
  chr_host_ip : String := "192.168.56.1"
  chr_backend_port : ℕ := 8000
  chr_host_only_network : String := "192.168.56.0"

/-- Section 2 of a script for a physical router. -/
structure WireGuardSection where
  private_key : String
  server_public_key : String
  server_endpoint : String
  server_wg_ip : String
  assigned_wg_ip : String
  deriving DecidableEq

structure SetupScript where
  safe_name : String
  timestamp : Timestamptz
  token_prefix : String
  wireguard : Option WireGuardSection
  api_password : String
  firewall_source : String
  confirm_url : String
  http_mode : String
  deriving DecidableEq

/-- The answer to a download. -/
inductive ScriptResponse where
  | error (status_code : ℕ) (content : String)
  | script (content : SetupScript)
  deriving DecidableEq

namespace Routers

/-- The characters with a meaning in RouterOS scripts: quotes, backslashes, line ends, dollar signs,
brackets, braces and semicolons. -/
def dangerous (c : Char) : Bool := [34, 92, 10, 13, 36, 91, 93, 123, 125, 59].contains c.toNat

/-- `" ".join(s.split())`. -/
def collapse (s : List Char) : List Char :=
  [' '].intercalate ((s.splitOnP isSpace).filter fun word => !word.isEmpty)

def sanitize_router_name (name : String) : String :=
  let sanitized := (collapse (name.toList.filter fun c => !dangerous c)).take 64
  if sanitized.isEmpty then "Frixel Connect-router" else String.ofList sanitized

/-- 43 characters of base64 and the padding; a line end may follow, which `$` passes over. -/
def wgKey (key : String) : Bool :=
  let chars := key.toList
  let chars := if chars.getLast? = some (Char.ofNat 10) then chars.dropLast else chars
  chars.length = 44 && chars.getLast? = some '=' && (chars.take 43).all fun c =>
    c.isAlphanum || c = '+' || c = '/'

def validate_wg_key (key label : String) : Except Exn Unit :=
  check (wgKey key) (.valueError ("Invalid WireGuard " ++ label ++ ": expected 44-char base64, got '" ++
    front 8 key ++ "...' (len=" ++ toString key.length ++ ")"))

def build_setup_script (settings : SetupSettings) (token router_name wg_private_key
    server_public_key server_endpoint assigned_wg_ip server_wg_ip api_password confirm_url : String)
    (is_chr : Bool) : RouterM SetupScript := do
  if !is_chr then
    .ofExcept (validate_wg_key wg_private_key "private key")
    .ofExcept (validate_wg_key server_public_key "server public key")
  let timestamp ← run .utc_now
  return {
    safe_name := sanitize_router_name router_name, timestamp, token_prefix := front 8 token
    wireguard := if is_chr then none else some {
      private_key := wg_private_key, server_public_key, server_endpoint, server_wg_ip
      assigned_wg_ip }
    api_password
    firewall_source := if is_chr then settings.chr_host_only_network ++ "/24"
      else server_wg_ip ++ "/32"
    confirm_url, http_mode := if is_chr then "http" else "https" }

def confirmUrl (settings : SetupSettings) (token : String) (is_chr : Bool) : String :=
  if is_chr then "http://" ++ settings.chr_host_ip ++ ":" ++ toString settings.chr_backend_port ++
    "/api/v1/setup/" ++ token ++ "/confirm"
  else settings.api_base_url ++ "/api/v1/setup/" ++ token ++ "/confirm"

/-- The entry of the audit log; a failure is only logged. -/
def log_download (tenant_id router_id : UUID) (token : String) (is_chr : Bool)
    (client_ip : String) : RouterM Unit :=
  (do
    let actor_row ← run (.select_admin tenant_id)
    match actor_row with
    | none => return ()
    | some actor_user_id =>
        run (.insert_audit_log tenant_id actor_user_id router_id (front 8 token) is_chr client_ip)
    : RouterM Unit).tryCatch fun _ => pure ()

/-- The script for a token that has been read. -/
def serve_script (settings : SetupSettings) (token client_ip : String) (token_row : SetupToken) :
    RouterM ScriptResponse := do
  let router_row ← run (.select_router token_row.router_id token_row.tenant_id)
  match router_row with
  | none => return .error 404 ("# Error: Router configuration not found.\n" ++
      "# Please contact Frixel Connect support.")
  | some router_row =>
      let is_chr := router_row.wireguard_peer_public_key.isNone
      let api_password ← run (.decrypt_secret token_row.api_password)
      let confirm_url := confirmUrl settings token is_chr
      let assigned_wg_ip := router_row.wireguard_assigned_ip.getD "10.8.0.2"
      let script_content ← build_setup_script settings token router_row.name
        (token_row.router_wg_private_key.getD "")
        (settings.wireguard_server_public_key.getD "") settings.wireguard_endpoint assigned_wg_ip
        "10.8.0.1" api_password confirm_url is_chr
      log_download token_row.tenant_id token_row.router_id token is_chr client_ip
      return .script script_content

def download_setup_script (settings : SetupSettings) (token client_ip : String) :
    RouterM ScriptResponse := do
  if token.length < 43 then
    return .error 400 ("# Error: Invalid setup token.\n" ++
      "# Tokens must be at least 43 characters.")
  let token_row ← run (.select_setup_token token)
  match token_row with
  | none => return .error 404 ("# Error: Setup token is invalid, expired, or already used.\n" ++
      "# Please generate a new setup command in the Frixel Connect admin portal.")
  | some token_row => serve_script settings token client_ip token_row

end Routers

end FrixelConnect
