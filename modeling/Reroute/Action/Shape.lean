import Reroute.BuildError
import Reroute.Request.State
import Reroute.Text.Numeral

/-!
# Shaping the path, the parameters and the headers

Keeping what a list allows, adding or removing the slashes at the ends of the path, and cutting the path at a
depth.  What changes nothing leaves the request as it was.
-/

namespace Reroute

/-! ### Keeping what a list allows -/

/-- What is kept. -/
inductive AllowList where
  | elements (indices : List Int)
  | parameters (names : List String)
  | headers (names : List String)
deriving DecidableEq, Repr

namespace AllowList

/-- The items of a list in text form. -/
def listed (list : Option String) : List String :=
  ((Text.split ',' (list.getD "")).map Text.trim).filter (· != "")

/-- The element index that an item of a list is. -/
def elementIndex (scope : Scope) (item : String) : Except BuildError Int :=
  match Text.readInt? 32 item with
  | some index => .ok index
  | none => .error (.invalidIndex scope item)

/-- The allow-list of a scope. -/
def make (scope : Scope) (list : Option String) : Except BuildError AllowList :=
  let listed := listed list
  match scope with
  | .path | .pathElement =>
    (listed.mapM (elementIndex scope)).map elements
  | .parameter | .queryText => .ok (parameters (listed.map Text.lowerAscii))
  | .header => .ok (headers (listed.map Text.lowerAscii))
  | scope => .error (if scope.isReceived then .readOnlyScope "keep" scope else .unsupportedScope "keep" scope)

/-- The list in words. -/
def describe : AllowList → String
  | elements indices => "keep pathElement[" ++ Text.join "," (indices.map toString) ++ "]"
  | parameters names => "keep parameter[" ++ Text.join "," names ++ "]"
  | headers names => "keep header[" ++ Text.join "," names ++ "]"

end AllowList

namespace Request

/-- Gives the path new segments, unless they are the ones it has. -/
def setSegments (request : Request) (segments : List String) : Request :=
  if segments = request.path then request else request.modifyPath fun _ => segments

/-- Keeps what a list allows. -/
def keep (request : Request) (list : AllowList) : Request :=
  match list with
  | .elements indices =>
    let positions := Path.keepPositions request.path indices
    request.setSegments (Path.ensureRoot (Path.select positions 0 request.path))
  | .parameters names =>
    if request.query.all fun entry => names.contains entry.1 then request
    else request.modifyQuery fun query => query.filter fun entry => names.contains entry.1
  | .headers names =>
    if request.headers.live.all fun entry => names.contains entry.1 then request
    else request.modifyHeaders (·.retain names.contains)

end Request

/-! ### Slashes at the ends -/

/-- What is done with the slash at one end of the path. -/
inductive SlashPolicy where
  | leave
  | add
  | remove
deriving DecidableEq, Repr

namespace SlashPolicy

/-- The policy that a name stands for. -/
def parse (text : String) : Except BuildError SlashPolicy :=
  match Text.lowerAscii (Text.trim text) with
  | "" | "none" | "leave" | "keep" => .ok leave
  | "add" | "ensure" => .ok add
  | "remove" | "strip" => .ok remove
  | _ => .error (.unknownSeparatorPolicy text)

/-- The name of a policy. -/
def name : SlashPolicy → String
  | leave => "leave"
  | add => "add"
  | remove => "remove"

end SlashPolicy

namespace Path

/-- Drops empty segments at the front while another segment is left. -/
def dropLeading : List String → List String
  | "" :: segment :: segments => dropLeading (segment :: segments)
  | segments => segments

/-- Applies a policy to the front of a path. -/
def normalizeLeading (policy : SlashPolicy) (segments : List String) : List String :=
  match policy with
  | .leave => segments
  | .add => if segments.length < 2 ∨ segments.head? ≠ some "" then "" :: segments else segments
  | .remove => dropLeading segments

/-- Applies a policy to the end of a path. -/
def normalizeTrailing (policy : SlashPolicy) (segments : List String) : List String :=
  match policy with
  | .leave => segments
  | .add => if segments.length < 2 ∨ segments.getLast? ≠ some "" then segments ++ [""] else segments
  | .remove => (dropLeading segments.reverse).reverse

/-- Applies a policy to each end, the front first. -/
def normalize (leading trailing : SlashPolicy) (segments : List String) : List String :=
  normalizeTrailing trailing (normalizeLeading leading segments)

/-- The number of segments that a depth leaves.  Depths are 64-bit words; the mark of the leading slash is added to
the word. -/
def keptCount (depth : UInt64) (segments : List String) : Nat :=
  (if isRooted segments then depth + 1 else depth).toNat

/-- The path cut at a depth, if it is longer. -/
def truncate? (depth : UInt64) (segments : List String) : Option (List String) :=
  if segments.length ≤ keptCount depth segments then none
  else some (ensureRoot (segments.take (keptCount depth segments)))

end Path

namespace Request

/-- Applies a policy to each end of the path. -/
def normalize (request : Request) (leading trailing : SlashPolicy) : Request :=
  request.setSegments (Path.normalize leading trailing request.path)

/-- Cuts the path at a depth. -/
def truncate (request : Request) (depth : UInt64) : Request :=
  match Path.truncate? depth request.path with
  | some segments => request.modifyPath fun _ => segments
  | none => request

end Request

end Reroute
