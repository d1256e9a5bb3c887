import Reroute.Request.State
import Reroute.Text.Utf8

/-!
# Request heads

Reads the target of a request, which is a path, an authority, `*` or a whole URI, and its header lines, and puts
a request together.  Lines of one header are joined; bytes that are no text become replacement characters.
-/

namespace Reroute

/-- The path and the query of a request's target. -/
structure UriTarget where
  path : String
  query : Option String
deriving DecidableEq, Repr

namespace UriTarget

/-! ### Characters -/

/-- Characters that may stand in a scheme. -/
def isSchemeChar (c : Char) : Bool := c.isAlphanum || c == '+' || c == '-' || c == '.'

/-- Characters that may stand in an authority, brackets and separators included. -/
def isAuthorityChar (c : Char) : Bool := c.isAlphanum || "!$&'()*+,-.:;=@[]_~%".toList.contains c

/-- Characters that may stand in a path; other than ASCII ones are taken as they are. -/
def isPathChar (c : Char) : Bool :=
  let n := c.toNat
  n == 0x21 || n == 0x22 || (0x24 ≤ n && n ≤ 0x3B) || n == 0x3D || (0x40 ≤ n && n ≤ 0x5F)
    || (0x61 ≤ n && n ≤ 0x7E) || 0x7F ≤ n

/-- Characters that may stand in a query. -/
def isQueryChar (c : Char) : Bool :=
  let n := c.toNat
  n == 0x21 || (0x24 ≤ n && n ≤ 0x3B) || n == 0x3D || 0x3F ≤ n

/-! ### Parts -/

/-- What stands behind the scheme of a URI; `none` if there is no scheme. -/
def afterScheme? (cs : List Char) : Option (Nat × List Char) :=
  match cs.dropWhile isSchemeChar with
  | ':' :: '/' :: '/' :: rest => some ((cs.takeWhile isSchemeChar).length, rest)
  | _ => none

/-- What was seen of an authority: colons, brackets and percent signs since the user's part, and the last
character. -/
structure AuthorityScan where
  colons : Nat
  opened : Bool
  closed : Bool
  percent : Bool
  endsWithAt : Bool

/-- Takes one more character of an authority. -/
def AuthorityScan.step? (s : AuthorityScan) (c : Char) : Option AuthorityScan :=
  let s := { s with endsWithAt := c == '@' }
  match c with
  | ':' => if 8 ≤ s.colons then none else some { s with colons := s.colons + 1 }
  | '[' => if s.percent || s.opened then none else some { s with opened := true }
  | ']' => if !s.opened || s.closed then none else some { s with closed := true, colons := 0, percent := false }
  | '@' => some { s with colons := 0, percent := false }
  | '%' => some { s with percent := true }
  | c => if isAuthorityChar c then some s else none

/-- Whether the whole text is an authority. -/
def isAuthority (cs : List Char) : Bool :=
  let start : AuthorityScan := ⟨0, false, false, false, false⟩
  match cs.foldlM AuthorityScan.step? start with
  | some s => s.opened == s.closed && s.colons ≤ 1 && !s.endsWithAt && !s.percent
  | none => false

/-- Whether a character ends an authority. -/
def endsAuthority (c : Char) : Bool := c == '/' || c == '?' || c == '#'

/-- Reads a path with its query; a fragment is checked no further and dropped. -/
def readPath? (cs : List Char) : Option UriTarget :=
  let path := cs.takeWhile fun c => c != '?' && c != '#'
  let named : String := if path.isEmpty then "/" else String.ofList path
  if !path.all isPathChar then none
  else match cs.dropWhile fun c => c != '?' && c != '#' with
    | '?' :: rest =>
      let query := rest.takeWhile (· != '#')
      if query.all isQueryChar then some ⟨named, some (String.ofList query)⟩ else none
    | _ => some ⟨named, none⟩

/-- Reads a target. -/
def parse? (text : String) : Option UriTarget :=
  let cs := text.toList
  if 65534 < (Text.encodeUtf8 cs).length then none
  else match cs with
    | [] => none
    | ['*'] => some ⟨"*", none⟩
    | '/' :: _ => readPath? cs
    | _ =>
      match if 3 < cs.length then afterScheme? cs else none with
      | none => if isAuthority cs then some ⟨"", none⟩ else none
      | some (length, rest) =>
        let authority := rest.takeWhile fun c => !endsAuthority c
        if 64 < length || authority.isEmpty || !isAuthority authority then none
        else readPath? (rest.dropWhile fun c => !endsAuthority c)

end UriTarget

/-! ### Header lines -/

/-- A header's name and the bytes of its value. -/
structure HeaderLine where
  name : String
  value : List UInt8
deriving DecidableEq, Repr

namespace HeaderLine

/-- Whether a name is a token and the value can be sent. -/
def isValid (line : HeaderLine) : Bool :=
  line.name != "" && line.name.toList.all (fun c => c.isAlphanum || "!#$%&'*+-.^_|~".toList.contains c || c.toNat == 96)
    && line.value.all fun b => (32 ≤ b && b != 127) || b == 9

/-- The text of the value. -/
def text (line : HeaderLine) : String := String.ofList (Text.decodeUtf8 line.value)

end HeaderLine

/-- Why a head is refused. -/
inductive HeadError where
  | invalidUri
  | invalidHeader
deriving DecidableEq, Repr

namespace Request

/-- Adds a header line; it is joined to an earlier line of the same name. -/
def withLine (request : Request) (line : HeaderLine) : Request :=
  match request.headers.get? line.name with
  | some text => request.withHeader line.name (text ++ ", " ++ line.text)
  | none => request.withHeader line.name line.text

/-- The request for a target and header lines. -/
def ofHead (target : UriTarget) (lines : List HeaderLine) : Request :=
  let url := match target.query with
    | some query => target.path ++ "?" ++ query
    | none => target.path
  lines.foldl withLine (ofUrl url)

/-- The request for the text of a target and header lines. -/
def ofHead? (target : String) (lines : List HeaderLine) : Except HeadError Request :=
  match UriTarget.parse? target with
  | none => .error .invalidUri
  | some target => if lines.all (·.isValid) then .ok (ofHead target lines) else .error .invalidHeader

end Request

end Reroute
