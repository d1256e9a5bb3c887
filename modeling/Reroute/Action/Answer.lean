import Reroute.Value.Basic
import Reroute.Walk.Env

/-!
# Answers

Actions that answer the request instead of passing it on: a redirect, or a fixed response.  The answer is queued
only where side effects are; its flow control is the same in every mode.
-/

namespace Reroute

/-- The outcome that ends everything. -/
def Outcome.terminate : Outcome := ⟨true, true⟩

/-! ### Redirects -/

/-- The status of a redirect. -/
structure RedirectCode where
  status : Nat
deriving DecidableEq, Repr

namespace RedirectCode

/-- The status that a name or number stands for. -/
def parse (text : String) : Except BuildError RedirectCode :=
  let key := Text.spelling (Text.trim text)
  match key with
  | "permanent" => .ok ⟨301⟩
  | "found" => .ok ⟨302⟩
  | "seeother" => .ok ⟨303⟩
  | "temporary" => .ok ⟨307⟩
  | _ =>
    match Text.readNat? 16 key with
    | some n => if 300 ≤ n ∧ n < 400 then .ok ⟨n⟩ else .error (.unknownRedirectType text)
    | none => .error (.unknownRedirectType text)

/-- The status where none is configured. -/
def permanent : RedirectCode := ⟨301⟩

end RedirectCode

/-- A redirect, to a value or to the URL as it is. -/
structure Redirect where
  location : Option Value
  code : RedirectCode
  outcome : Outcome

namespace Redirect

/-- A redirect that ends everything. -/
def make (location : Option Value) (code : RedirectCode) : Redirect := ⟨location, code, .terminate⟩

/-- The action that the host is to take. -/
def deferred (redirect : Redirect) (request : Request) (scratch : Scratch) : Deferred :=
  let location := match redirect.location with
    | some value => value.read request scratch
    | none => request.url
  .redirect location redirect.code.status

/-- A redirect in words. -/
def describe (redirect : Redirect) : String :=
  "redirect " ++ toString redirect.code.status ++ " -> " ++
    match redirect.location with
    | some value => value.describe
    | none => "url"

end Redirect

/-! ### Responses -/

/-- A fixed response. -/
structure FixedResponse where
  status : Nat
  reason : String
  body : Option Value
  outcome : Outcome

namespace FixedResponse

/-- A response that ends everything. -/
def make (status : Nat) (reason : String) (body : Option Value) : FixedResponse := ⟨status, reason, body, .terminate⟩

/-- The action that the host is to take. -/
def deferred (response : FixedResponse) (request : Request) (scratch : Scratch) : Deferred :=
  .respond response.status response.reason (response.body.map fun body => body.read request scratch)

/-- A response in words. -/
def describe (response : FixedResponse) : String :=
  "respond " ++ toString response.status ++ " " ++ Text.quoted response.reason ++
    match response.body with
    | some body => " body=" ++ body.describe
    | none => ""

end FixedResponse

/-- Queues an action where side effects are queued. -/
def Env.schedule (env : Env) (request : Request) (action : Deferred) : Request :=
  if env.mode.executes then request.defer action else request

end Reroute
