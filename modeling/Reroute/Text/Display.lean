import Reroute.Text.Character

/-!
# Text for display

A text between double quotes in which the quote, the backslash and everything that does not show as itself is
escaped, so that the written form stays on one line.  Truth values in words, and texts in the styles of a terminal.
-/

namespace Reroute

/-! ### Quoted text -/

namespace Text

/-- The digits of a code point in base sixteen, small letters, at least one. -/
def hexDigits (n : Nat) : List Char := Nat.toDigits 16 n

/-- One character as it stands inside the quotes. -/
def quotedChar (c : Char) : List Char :=
  if c = '"' then ['\\', '"']
  else if c = '\\' then ['\\', '\\']
  else if c = '\n' then ['\\', 'n']
  else if c = '\t' then ['\\', 't']
  else if c = '\r' then ['\\', 'r']
  else if c.toNat = 0 then ['\\', '0']
  else if isPrintable c && !isGraphemeExtend c then [c]
  else ['\\', 'u', '\x7b'] ++ hexDigits c.toNat ++ ['\x7d']

/-- The text in double quotes with escapes. -/
def quoted (text : String) : String :=
  String.ofList ('"' :: text.toList.flatMap quotedChar ++ ['"'])

end Text

/-! ### Styled text -/

namespace Style

/-- A truth value in words. -/
def truth (b : Bool) : String := if b then "true" else "false"

/-- A text between a style and its end. -/
def styled (style reset : String) (text : String) : String :=
  "\x1b[" ++ style ++ "m" ++ text ++ "\x1b[" ++ reset ++ "m"

/-- Bold text. -/
def bold (text : String) : String := styled "1" "0" text

/-- Dimmed text. -/
def dimmed (text : String) : String := styled "2" "0" text

/-- Red text. -/
def red (text : String) : String := styled "31" "39" text

/-- Green text. -/
def green (text : String) : String := styled "32" "39" text

/-- Yellow text. -/
def yellow (text : String) : String := styled "33" "39" text

end Style

end Reroute
