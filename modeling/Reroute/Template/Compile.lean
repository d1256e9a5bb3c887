import Reroute.Extension
import Reroute.Template.Span
import Reroute.Value.Basic

/-!
# Templates as values

The content of braces names a value: a group of the match or of the conditions by number, an operation applied
to a further template, a request header, or a server variable.  `Names.compile` turns a template into a value;
operations are looked up among the built-in ones, then the lookup tables, then the extensions.
-/

namespace Reroute

open Template (Span BraceError tokenize maxNesting)

/-- What can be wrong with a template. -/
inductive TemplateError where
  | braces (fault : BraceError)
  | invalidCapture (reference : String)
  | unknownOperation (name : String)
  | customOperation (name reason : String)
deriving DecidableEq, Repr

/-- The wording of a fault. -/
def TemplateError.message : TemplateError → String
  | braces (.unbalanced offset) => "unbalanced '\x7b' at offset " ++ toString offset
  | braces .tooDeep => "macros nested deeper than " ++ toString maxNesting ++ " levels"
  | invalidCapture reference => "capture reference '" ++ reference ++ "' needs a numeric index"
  | unknownOperation name => "unknown operation '" ++ name ++ "'"
  | customOperation name reason => "custom operation '" ++ name ++ "' failed to build: " ++ reason

/-- The names that templates may use besides the built-in ones: lookup tables by lower-case name, and
extensions. -/
structure Names where
  tables : List (String × LookupTable)
  registry : Registry

namespace Template

/-- Drops white space at both ends. -/
def trimChars (cs : List Char) : List Char := Text.dropEndWhile Text.isBlank (cs.dropWhile Text.isBlank)

/-- The name before the first colon and the text behind it, unless a brace stands before the colon. -/
def splitHead? (content : List Char) : Option (List Char × List Char) :=
  match Text.cutChars? ':' content with
  | some (head, rest) => if head.contains '\x7b' then none else some (trimChars head, rest)
  | none => none

/-- The group that a reference names. -/
def captureValue (key : CaptureKey) (index : List Char) : Except TemplateError Value :=
  match Text.readNat? 64 (String.ofList (trimChars index)) with
  | some group => .ok (.getter (.capture key group))
  | none => .error (.invalidCapture (key.name ++ ":" ++ String.ofList index))

/-- What stands behind `HTTP_`, in any case of letters. -/
def headerName? : List Char → Option (List Char)
  | h :: t :: t' :: p :: '_' :: rest =>
    if [h, t, t', p].map Char.toUpper = ['H', 'T', 'T', 'P'] then some rest else none
  | _ => none

/-- The header or server variable that a name without operation stands for. -/
def plainGetter (name : List Char) : Getter :=
  match headerName? name with
  | some rest => .header (String.ofList ((rest.map fun c => if c = '_' then '-' else c).map Char.toLower))
  | none => .serverVariable (String.ofList name)

end Template

namespace Names

open Template

/-- The operation of a name. -/
def operation (names : Names) (name : String) : Except TemplateError Operation :=
  match Operation.builtin? name with
  | some operation => .ok operation
  | none =>
    match names.tables.find? fun entry => entry.1 == Text.lowerAscii name with
    | some entry => .ok (.table entry.2)
    | none =>
      match names.registry.operations.find? name with
      | none => .error (.unknownOperation name)
      | some build =>
        match build [] with
        | .ok operation => .ok (.custom operation)
        | .error reason => .error (.customOperation name reason)

/-- Several values as one. -/
def joinParts : List Value → Value
  | [] => .literal ""
  | [value] => value
  | values => .concat values none none

/-- The value of what stands between outermost braces; `compile` compiles the templates inside. -/
def compileContent (names : Names) (compile : List Char → Except TemplateError Value) (content : List Char) :
    Except TemplateError Value :=
  match splitHead? content with
  | some (head, rest) =>
    let name := String.ofList head
    match String.ofList (head.map Char.toUpper) with
    | "R" => captureValue .fromMatch rest
    | "C" => captureValue .fromConditions rest
    | _ => do
      let operation ← names.operation name
      let value ← compile rest
      .ok (value.withOperation operation)
  | none =>
    let name := trimChars content
    if name.contains '\x7b' then compile name else .ok (.getter (plainGetter name))

/-- Compiles a template that may nest through so many levels. -/
def compileWith (names : Names) : Nat → List Char → Except TemplateError Value
  | 0, _ => .error (.braces .tooDeep)
  | levels + 1, text =>
    match tokenize text with
    | .error fault => .error (.braces fault)
    | .ok spans => do
      let parts ← spans.mapM fun span =>
        match span with
        | .literal text => .ok (Value.literal (String.ofList text))
        | .braced content => names.compileContent (names.compileWith levels) content
      .ok (joinParts parts)

/-- Compiles a template.  The tokenizer keeps the nesting below the limit, so that the levels suffice. -/
def compile (names : Names) (text : String) : Except TemplateError Value :=
  names.compileWith (maxNesting + 1) text.toList

end Names

end Reroute
