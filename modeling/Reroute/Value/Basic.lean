import Reroute.Value.Getter

/-!
# Values

A value is one getter, or several values joined by a separator with an operation on the joined text.
-/

namespace Reroute

/-- A source of text. -/
inductive Value where
  | getter (getter : Getter)
  | concat (parts : List Value) (separator : Option String) (operation : Option Operation)

namespace Value

/-- A constant text. -/
def literal (text : String) : Value := getter (.literal text)

/-- Applies an operation to the whole value. -/
def withOperation : Value → Operation → Value
  | getter g, operation => getter (g.withOperation operation)
  | concat parts separator none, operation => concat parts separator (some operation)
  | concat parts separator (some inner), operation =>
    concat [concat parts separator (some inner)] none (some operation)

/-- The getter of a value that is not joined from parts. -/
def getter? : Value → Option Getter
  | getter g => some g
  | concat _ _ _ => none

/-! ### Reading -/

/-- Applies an operation, if there is one. -/
def applyTo (text : String) : Option Operation → String
  | none => text
  | some operation => operation.apply text

mutual

/-- The text of a value. -/
def read : Value → Request → Scratch → String
  | getter g, request, scratch => g.read request scratch
  | concat parts separator operation, request, scratch =>
    applyTo (Text.join (separator.getD "") (readAll parts request scratch)) operation

/-- The texts of values in a row. -/
def readAll : List Value → Request → Scratch → List String
  | [], _, _ => []
  | value :: values, request, scratch => value.read request scratch :: readAll values request scratch

end

/-- The text of a value as a number, or the default where it is none. -/
def readNumber (value : Value) (request : Request) (scratch : Scratch) (fallback : Int) : Int :=
  (Text.readInt? 64 (Text.trim (value.read request scratch))).getD fallback

mutual

/-- A value in words. -/
def describe : Value → String
  | getter g => g.describe
  | concat parts separator operation =>
    let between := match separator with
      | some text => " " ++ Text.quoted text ++ " "
      | none => " + "
    let joined := Text.join between (describeAll parts)
    match operation with
    | some operation => operation.name ++ "(" ++ joined ++ ")"
    | none => "(" ++ joined ++ ")"

/-- Values in words. -/
def describeAll : List Value → List String
  | [] => []
  | value :: values => value.describe :: describeAll values

end

end Value

end Reroute
