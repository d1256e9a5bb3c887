import Reroute.Text.Display

/-!
# Scratch of a rule

What one rule keeps while it is evaluated: its flags and named properties, among them the groups of regular
expressions.  A property that is not there is looked up in the scratches of the enclosing rules, nearest first;
those are never changed.
-/

namespace Reroute

/-! ### Properties -/

/-- The value of a property. -/
inductive Property where
  | text (value : String)
  | number (value : Int)
  | groups (value : List String)
deriving DecidableEq, Repr

/-- Properties by name. -/
abbrev Properties := List (String × Property)

namespace Properties

/-- The property under a name. -/
def find? (name : String) (properties : Properties) : Option Property :=
  (List.find? (fun entry => entry.1 == name) properties).map (·.2)

/-- Sets the property under a name. -/
def set (name : String) (value : Property) : Properties → Properties
  | [] => [(name, value)]
  | (key, old) :: rest => if key = name then (key, value) :: rest else (key, old) :: set name value rest

/-- The names in increasing order. -/
def sortedNames (properties : Properties) : List String :=
  (properties.map (·.1)).mergeSort fun a b => decide (a ≤ b)

end Properties

/-- The properties of a rule, and those of the rules around it, nearest first. -/
structure Bag where
  own : Properties
  outer : List Properties
deriving DecidableEq, Repr

namespace Bag

/-- No properties, with nothing around. -/
def empty : Bag := ⟨[], []⟩

/-- No properties yet, inside the rule that has a bag. -/
def inside (bag : Bag) : Bag := ⟨[], bag.own :: bag.outer⟩

/-- Sets an own property. -/
def set (bag : Bag) (name : String) (value : Property) : Bag := { bag with own := bag.own.set name value }

/-- The nearest value under a name that `pick` accepts. -/
def get? {α : Type} (bag : Bag) (pick : Property → Option α) (name : String) : Option α :=
  (bag.own :: bag.outer).findSome? fun properties => (properties.find? name).bind pick

/-- Whether there is a property under a name, own or outer. -/
def contains (bag : Bag) (name : String) : Bool :=
  (bag.own :: bag.outer).any fun properties => (properties.find? name).isSome

/-- A one-line description: the own names in order, and whether there are properties around. -/
def describe (bag : Bag) : String :=
  "PropertyBag \x7b keys: [" ++ ", ".intercalate (bag.own.sortedNames.map Text.quoted) ++ "], has_parent: "
    ++ (if bag.outer.isEmpty then "false" else "true") ++ " \x7d"

end Bag

namespace Property

/-- The value of a text. -/
def text? : Property → Option String
  | text value => some value
  | _ => none

/-- The value of a number. -/
def number? : Property → Option Int
  | number value => some value
  | _ => none

/-- The value of groups. -/
def groups? : Property → Option (List String)
  | groups value => some value
  | _ => none

end Property

/-! ### Captures and flags -/

/-- Whose groups are meant: those of the rule's match, or those of its conditions. -/
inductive CaptureKey where
  | fromMatch
  | fromConditions
deriving DecidableEq, Repr

/-- The name under which groups are kept. -/
def CaptureKey.name : CaptureKey → String
  | fromMatch => "R"
  | fromConditions => "C"

/-- What an action asks for: that its walk stops, that the request ends. -/
structure Outcome where
  stop : Bool
  endRequest : Bool
deriving DecidableEq, Repr

/-- The outcome that asks for nothing. -/
def Outcome.proceed : Outcome := ⟨false, false⟩

/-- The flags, capture setting and properties of a rule under evaluation. -/
structure Scratch where
  matched : Bool
  stop : Bool
  endRequest : Bool
  dynamic : Bool
  tracking : Bool
  bag : Bag
deriving DecidableEq, Repr

namespace Scratch

/-- A fresh scratch with a bag. -/
def ofBag (bag : Bag) : Scratch := ⟨false, false, false, false, false, bag⟩

/-- A fresh scratch with nothing around. -/
def start : Scratch := ofBag .empty

/-- A fresh scratch inside a rule. -/
def inside (outer : Scratch) : Scratch := ofBag outer.bag.inside

/-- The visible groups under a key. -/
def captures? (scratch : Scratch) (key : CaptureKey) : Option (List String) :=
  scratch.bag.get? Property.groups? key.name

/-- One group, empty where there is none. -/
def capture (scratch : Scratch) (key : CaptureKey) (index : Nat) : String :=
  ((scratch.captures? key).getD []).getD index ""

/-- The groups of the rule itself under a key. -/
def ownCaptures? (scratch : Scratch) (key : CaptureKey) : Option (List String) :=
  (scratch.bag.own.find? key.name).bind Property.groups?

/-- Stores groups: behind the own ones while all are tracked, in their place otherwise. -/
def storeCaptures (scratch : Scratch) (key : CaptureKey) (groups : List String) : Scratch :=
  let kept := if scratch.tracking then (scratch.ownCaptures? key).getD [] else []
  { scratch with bag := scratch.bag.set key.name (.groups (kept ++ groups)) }

/-- Turns tracking on where `track` asks for it. -/
def pushTracking (scratch : Scratch) (track : Bool) : Scratch :=
  { scratch with tracking := scratch.tracking || track }

/-- Sets tracking back to an earlier setting. -/
def restoreTracking (scratch : Scratch) (before : Bool) : Scratch := { scratch with tracking := before }

/-- Takes over what an outcome asks for. -/
def absorb (scratch : Scratch) (outcome : Outcome) : Scratch :=
  { scratch with stop := scratch.stop || outcome.stop, endRequest := scratch.endRequest || outcome.endRequest }

end Scratch

end Reroute
