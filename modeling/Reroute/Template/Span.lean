/-!
# Spans of a template

A template is text with parts in braces.  `tokenize` cuts it into literal runs and the contents of outermost
braces; a closing brace that closes nothing is literal.  Braces nest up to a limit.
-/

namespace Reroute.Template

/-- What can be wrong with the braces of a template. -/
inductive BraceError where
  | unbalanced (offset : Nat)
  | tooDeep
deriving DecidableEq, Repr

/-- A literal run, or what stands between outermost braces. -/
inductive Span where
  | literal (text : List Char)
  | braced (content : List Char)
deriving DecidableEq, Repr

/-- The deepest nesting of braces. -/
def maxNesting : Nat := 32

/-- The span of a finished literal run, last character first; an empty run makes none. -/
def literalSpan (buffer : List Char) : List Span := if buffer = [] then [] else [.literal buffer.reverse]

/-- Cuts the rest of a template.  `offset` counts the bytes before it, `depth` the open braces, of which the
outermost stands at `start`; `buffer` is the run that is being read, last character first. -/
def spansFrom (offset depth start : Nat) (buffer : List Char) : List Char → Except BraceError (List Span)
  | [] => if depth = 0 then .ok (literalSpan buffer) else .error (.unbalanced start)
  | c :: rest =>
    if c = '\x7b' then
      if maxNesting ≤ depth then .error .tooDeep
      else if depth = 0 then (spansFrom (offset + 1) 1 offset [] rest).map (literalSpan buffer ++ ·)
      else spansFrom (offset + 1) (depth + 1) start (c :: buffer) rest
    else if c = '\x7d' ∧ depth ≠ 0 then
      if depth = 1 then (spansFrom (offset + 1) 0 0 [] rest).map (.braced buffer.reverse :: ·)
      else spansFrom (offset + 1) (depth - 1) start (c :: buffer) rest
    else spansFrom (offset + c.utf8Size) depth start (c :: buffer) rest

/-- Cuts a template into spans. -/
def tokenize (text : List Char) : Except BraceError (List Span) := spansFrom 0 0 0 [] text

end Reroute.Template
