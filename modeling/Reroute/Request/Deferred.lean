import Reroute.Request.Status
import Reroute.Text.Utf8

/-!
# Deferred actions

What the walk decided to answer instead of passing the request on.  A deferred action becomes a response only
when the host asks for it.
-/

namespace Reroute

/-- A side effect left to the host. -/
inductive Deferred where
  | redirect (location : String) (status : Nat)
  | respond (status : Nat) (reason : String) (body : Option String)
deriving DecidableEq, Repr

/-- What the host sends. -/
structure Response where
  status : Nat
  location : Option String
  body : String
deriving DecidableEq, Repr

namespace Deferred

/-- The status that a deferred action carries. -/
def status : Deferred → Nat
  | redirect _ status => status
  | respond status _ _ => status

/-- Whether a text may stand in a header: every byte shows, or is a tab. -/
def isHeaderText (text : String) : Bool :=
  (Text.encodeUtf8 text.toList).all fun b => (32 ≤ b && b != 127) || b == 9

/-- The response, unless the location cannot stand in a header.  A number that is no status code is replaced. -/
def response? : Deferred → Option Response
  | redirect location status =>
    if isHeaderText location then some ⟨if Status.isCode status then status else 302, some location, ""⟩ else none
  | respond status _ body => some ⟨if Status.isCode status then status else 200, none, body.getD ""⟩

/-- A one-line description. -/
def describe : Deferred → String
  | redirect location status => "redirect " ++ toString status ++ " -> " ++ location
  | respond status reason _ => "respond " ++ toString status ++ " " ++ reason

end Deferred

end Reroute
