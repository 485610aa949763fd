import FrixelConnect.Statements

/-!
# The Daraja client

Programs of the application are programs over its statements. Fetching an
access token and building the request are part of the HTTP call: they fail with
it and change nothing else.
-/

namespace FrixelConnect

open Python Interleaving

/-- The blocks of a process that other parts of a run refer to. -/
inductive Frame where
  | generate_voucher (payment_id tenant_id : UUID)
  | initiating (t : PaymentTable) (id : UUID)
  deriving DecidableEq

/-- Programs of the application. -/
abbrev M := Prog Stmt Stmt.Res Frame Exn

/-- One statement of a program. -/
abbrev exec (s : Stmt) : M s.Res := Prog.exec s

/-- The first characters of a text. -/
def front (n : ℕ) (s : String) : String := String.ofList (s.toList.take n)

/-- `s[-n:]`. -/
def back (n : ℕ) (s : String) : String := String.ofList (s.toList.drop (s.toList.length - n))

/-- `str(id)`. -/
def str (id : UUID) : String := String.ofList id.str

/-- `id.hex`. -/
def hex (id : UUID) : String := String.ofList (id.str.filter fun c => c ≠ '-')

/-- `x.get(key, default)` in a program. -/
def get (x : Json) (key : String) (default : Json := .null) : M Json :=
  .ofExcept ((x.get key default).mapError .fault)

/-- `x[key]`. -/
def getItem (x : Json) (key : String) : M Json :=
  match x with
  | .obj fields => .ofExcept ((fields.lookup key).elim (.error (.keyError key)) .ok)
  | _ => throw (.fault .typeError)

/-- What `stk_push` makes of the response. -/
def push_result (response : HttpResponse) : Except Exn Json := do
  check response.is_success
    (.darajaError ("Daraja STK push failed: " ++ toString response.status_code))
  let result ← response.json
  let code ← (result.get "ResponseCode").mapError .fault
  if code.eqText "0" then
    pure result
  else
    let reason ← (result.get "ResponseDescription" result).mapError .fault
    throw (.darajaError ("Daraja STK push rejected: " ++ reason.text))

def stk_push (payment_id : Option UUID) (phone : String) (amount : ℤ)
    (account_reference description : String) : M Json := do
  let reply ← exec (.post_stk_push payment_id phone amount
    (front 12 account_reference) (front 13 description))
  Prog.ofExcept (reply.bind push_result)

/-- The answer that stands for a transaction still in progress. -/
def processing : Json :=
  .obj [("ResponseCode", .str "pending"), ("ResultDesc", .str "The transaction is being processed")]

/-- The error body says that the transaction is being processed. -/
def HttpResponse.isProcessing (response : HttpResponse) : Bool :=
  match response.json with
  | .ok err_data =>
      match err_data.get "errorCode" with
      | .ok code => code.eqText "500.001.1001"
      | .error _ => false
  | .error _ => false

/-- What `stk_push_query` makes of the response. -/
def query_result (response : HttpResponse) : Except Exn Json :=
  if response.is_success then response.json
  else if response.isProcessing then .ok processing
  else .error (.darajaError ("Daraja STK query failed: " ++ toString response.status_code))

def stk_push_query (checkout_request_id : String) : M Json := do
  let reply ← exec (.post_stk_query checkout_request_id)
  Prog.ofExcept (reply.bind query_result)

/-- Run `p` and say whether it went through; a unique violation is absorbed. -/
def absorbUnique (p : M Unit) : M Bool :=
  (p.bind fun _ => pure true).tryCatch fun e => match e with
    | .uniqueViolation _ => pure false
    | e => throw e

end FrixelConnect
