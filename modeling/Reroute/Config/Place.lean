import Reroute.Config.Document
import Reroute.Text.Basic

/-!
# Places of blocks

The place of a block is the way to it from the top of a rules file.  `Document.blocks` lists the blocks that have a
place of their own, each with its place, and `Document.find?` follows a place back to the block.
-/

namespace Reroute

/-- One step into a document. -/
inductive Step where
  | map (index : Nat)
  | rule (index : Nat)
  | action (index : Nat)
  | pattern
  | conditions
  | item (index : Nat)
  | group
deriving DecidableEq, Repr

namespace Step

/-- A step with a position among its like. -/
def numbered (name : String) (index : Nat) : String := name ++ "[" ++ toString index ++ "]"

/-- A step in words. -/
def describe : Step → String
  | map index => numbered "rewrite_maps" index
  | rule index => numbered "rules" index
  | action index => numbered "actions" index
  | pattern => "match"
  | conditions => "conditions"
  | item index => numbered "items" index
  | group => "group"

end Step

/-- The place of a block: a file, and the steps from its top. -/
structure Place where
  file : String
  steps : List Step
deriving DecidableEq, Repr

namespace Place

/-- A place one step further inside. -/
def inside (place : Place) (step : Step) : Place := { place with steps := place.steps ++ [step] }

/-- The steps in words. -/
def path (place : Place) : String := Text.join "." (place.steps.map Step.describe)

/-- A place in words. -/
def describe (place : Place) : String := place.file ++ ": " ++ place.path ++ " block"

end Place

/-- A block with a place of its own. -/
inductive Block where
  | map (block : MapBlock)
  | rule (block : RuleBlock)
  | condition (block : ConditionBlock)
  | action (block : ActionBlock)

/-! ### All blocks with their places -/

mutual

/-- The conditions of a group at a place. -/
def GroupBlock.blocks (place : Place) : GroupBlock → List (Place × Block)
  | ⟨_, _, items⟩ => ConditionBlock.blocksFrom place 0 items

/-- A condition and those in its group. -/
def ConditionBlock.blocks (place : Place) : ConditionBlock → List (Place × Block)
  | ⟨test, none⟩ => [(place, .condition ⟨test, none⟩)]
  | ⟨test, some group⟩ => (place, .condition ⟨test, some group⟩) :: group.blocks (place.inside .group)

/-- Conditions counted from an index. -/
def ConditionBlock.blocksFrom (place : Place) (index : Nat) : List ConditionBlock → List (Place × Block)
  | [] => []
  | block :: blocks => block.blocks (place.inside (.item index)) ++ ConditionBlock.blocksFrom place (index + 1) blocks

end

/-- Actions counted from an index. -/
def ActionBlock.blocksFrom (place : Place) (index : Nat) : List ActionBlock → List (Place × Block)
  | [] => []
  | block :: blocks => (place.inside (.action index), .action block) :: ActionBlock.blocksFrom place (index + 1) blocks

mutual

/-- A rule, its conditions, its actions and its nested rules. -/
def RuleBlock.blocks (place : Place) : RuleBlock → List (Place × Block)
  | ⟨name, stop, dynamic, enabled, matcher, conditions, actions, rules⟩ =>
    (place, .rule ⟨name, stop, dynamic, enabled, matcher, conditions, actions, rules⟩)
      :: (match conditions with
        | some group => group.blocks (place.inside .conditions)
        | none => [])
      ++ ActionBlock.blocksFrom place 0 actions ++ RuleBlock.blocksFrom place 0 rules

/-- Rules counted from an index. -/
def RuleBlock.blocksFrom (place : Place) (index : Nat) : List RuleBlock → List (Place × Block)
  | [] => []
  | block :: blocks => block.blocks (place.inside (.rule index)) ++ RuleBlock.blocksFrom place (index + 1) blocks

end

/-- Lookup tables counted from an index. -/
def MapBlock.blocksFrom (place : Place) (index : Nat) : List MapBlock → List (Place × Block)
  | [] => []
  | block :: blocks => (place.inside (.map index), .map block) :: MapBlock.blocksFrom place (index + 1) blocks

/-- The blocks of a document: the lookup tables, then the rules. -/
def Document.blocks (document : Document) (file : String) : List (Place × Block) :=
  MapBlock.blocksFrom ⟨file, []⟩ 0 document.maps ++ RuleBlock.blocksFrom ⟨file, []⟩ 0 (document.rules.getD [])

/-! ### Following steps -/

/-- The block at the end of steps inside a condition. -/
def ConditionBlock.find? : ConditionBlock → List Step → Option Block
  | block, [] => some (.condition block)
  | ⟨_, some group⟩, .group :: .item index :: steps => (group.items[index]?).bind (find? · steps)
  | _, _ => none

/-- The block at the end of steps inside a rule. -/
def RuleBlock.find? : RuleBlock → List Step → Option Block
  | block, [] => some (.rule block)
  | block, .conditions :: .item index :: steps =>
    (block.conditions.bind (·.items[index]?)).bind (·.find? steps)
  | block, [.action index] => (block.actions[index]?).map .action
  | block, .rule index :: steps => (block.rules[index]?).bind (find? · steps)
  | _, _ => none

/-- The block at the end of steps from the top. -/
def Document.find? (document : Document) : List Step → Option Block
  | [.map index] => (document.maps[index]?).map .map
  | .rule index :: steps => ((document.rules.getD [])[index]?).bind (·.find? steps)
  | _ => none

end Reroute
