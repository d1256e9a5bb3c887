import Reroute.Condition.Basic

/-!
# Testing conditions

Every condition other than a list reports its result; a list reports its beginning and its end, and looks at its
conditions only as far as they can change the result.
-/

namespace Reroute

/-- What a test leaves: its result, the scratch, and the notes. -/
structure Tested where
  holds : Bool
  scratch : Scratch
  notes : List Note
deriving DecidableEq, Repr

namespace Condition

/-- Reports the result of a single condition. -/
def reportResult (env : Env) (condition : Condition) (holds : Bool) (scratch : Scratch) (notes : List Note) :
    Tested :=
  ⟨holds, scratch, notes ++ env.report (.condition condition.describe holds)⟩

mutual

/-- Tests a condition. -/
def test (env : Env) (request : Request) : Condition → Scratch → Tested
  | text m, scratch =>
    let (holds, scratch) := m.test request scratch
    reportResult env (text m) holds scratch []
  | number m, scratch => reportResult env (number m) (m.test request scratch) scratch []
  | file m, scratch =>
    let (holds, notes) := m.test env request scratch
    reportResult env (file m) holds scratch notes
  | custom condition negate, scratch =>
    let (holds, scratch) := condition.test request scratch
    reportResult env (custom condition negate) (holds != negate) scratch []
  | list logic track items, scratch =>
    let tested := meets env request logic.decisive items (scratch.pushTracking track)
    let holds := logic.conclude tested.holds
    ⟨holds, tested.scratch.restoreTracking scratch.tracking,
      env.report (.conditionListBegin logic.name) ++ tested.notes ++ env.report (.conditionListEnd logic.name holds)⟩

/-- Tests conditions in order up to the first with a given result, and says whether there is one. -/
def meets (env : Env) (request : Request) (result : Bool) : List Condition → Scratch → Tested
  | [], scratch => ⟨false, scratch, []⟩
  | condition :: conditions, scratch =>
    let tested := condition.test env request scratch
    if tested.holds = result then ⟨true, tested.scratch, tested.notes⟩
    else
      let rest := meets env request result conditions tested.scratch
      ⟨rest.holds, rest.scratch, tested.notes ++ rest.notes⟩

end

end Condition

end Reroute
