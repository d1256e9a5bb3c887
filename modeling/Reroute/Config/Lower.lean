import Reroute.Config.Error
import Reroute.Rule.Basic

/-!
# Conditions and actions of a rules file

How the blocks of conditions and actions become conditions and actions, under the names that a file may use.  Every
fault carries the place of the block that holds it; the pattern of a rule has a place of its own.
-/

namespace Reroute

namespace Names

/-! ### Values -/

/-- A template at a place. -/
def value (names : Names) (place : Place) (text : String) : Except ConfigError Value :=
  (names.compile text).mapError (.template place text)

end Names

namespace Place

/-- The scope of a name. -/
def scope (place : Place) (name : String) : Except ConfigError Scope :=
  match Scope.parse? name with
  | some scope => .ok scope
  | none => .error (.part place (.unknownScope name))

/-- What a scope reads. -/
def getter (place : Place) (scope : Scope) (index : Option Scalar) : Except ConfigError Value :=
  ((Getter.make scope (index.map Scalar.toText)).map Value.getter).mapError (.part place)

/-- What the scope of a name reads. -/
def scopeValue (place : Place) (name : String) (index : Option Scalar) : Except ConfigError Value := do
  let scope ← place.scope name
  place.getter scope index

/-- The content of a field that has to be there. -/
def required {α : Type} (place : Place) (field : String) : Option α → Except ConfigError α
  | some content => .ok content
  | none => .error (.missingField place field)

/-- The content of a field read in its own way, or what stands for a missing one. -/
def parsed {α : Type} (place : Place) (parse : String → Except BuildError α) (fallback : α) :
    Option String → Except ConfigError α
  | some text => (parse text).mapError (.part place)
  | none => .ok fallback

end Place

namespace Names

/-! ### Conditions -/

/-- The condition that the pattern of a rule stands for; its groups are those of the match. -/
def pattern (names : Names) (place : Place) (block : MatchBlock) : Except ConfigError Condition := do
  let input ← match block.input with
    | some text => names.value place text
    | none => place.getter .matchPath none
  let kind ← place.parsed MatchKind.parse .regex block.kind
  let matching ← (TextMatch.make input kind block.url block.ignoreCase).mapError (.part place)
  .ok (.text ((matching.withNegate block.negate).withKey .fromMatch))

/-- What a condition looks at: a template, a scope, or the path. -/
def testInput (names : Names) (place : Place) (block : TestBlock) : Except ConfigError Value :=
  match block.input, block.scope with
  | some text, _ => names.value place text
  | none, some scope => place.scopeValue scope block.index
  | none, none => place.getter .matchPath none

/-- A condition of the host. -/
def customCondition (names : Names) (place : Place) (name : String) (block : TestBlock) :
    Except ConfigError Condition :=
  match names.registry.conditions.find? name with
  | none => .error (.unknownMatch place name)
  | some build =>
    match build block.params with
    | .ok condition => .ok (.custom condition block.negate)
    | .error reason => .error (.custom place "condition" name reason)

/-- A single condition. -/
def test (names : Names) (place : Place) (block : TestBlock) : Except ConfigError Condition := do
  let input ← names.testInput place block
  let matchType := block.matchType.getD "pattern"
  match Text.spelling matchType with
  | "number" =>
    let comparison ← place.parsed Comparison.parse .equals block.operator
    let operand ← place.required "value" block.operand
    .ok (.number ⟨input, comparison, operand, block.fallback.getD 0, block.negate⟩)
  | "isfile" | "file" => .ok (.file ⟨input, .isFile, block.negate⟩)
  | "isdirectory" | "directory" => .ok (.file ⟨input, .isDirectory, block.negate⟩)
  | "exists" => .ok (.file ⟨input, .isThere, block.negate⟩)
  | _ =>
    match MatchKind.parse matchType with
    | .ok kind =>
      let pattern ← place.required "pattern" block.pattern
      let matching ← (TextMatch.make input kind pattern block.ignoreCase).mapError (.part place)
      .ok (.text (matching.withNegate block.negate))
    | .error _ => names.customCondition place matchType block

mutual

/-- The conditions of a group in the block at `holder`, which the group's step leads out of. -/
def group (names : Names) (holder : Place) (step : Step) : GroupBlock → Except ConfigError ConditionList
  | ⟨logic, trackCaptures, items⟩ => do
    let logic ← holder.parsed Logic.parse .matchAll logic
    names.groupItems (holder.inside step) 0 (.empty logic trackCaptures) items

/-- Adds the conditions of a group, counted from an index. -/
def groupItems (names : Names) (place : Place) (index : Nat) (list : ConditionList) :
    List ConditionBlock → Except ConfigError ConditionList
  | [] => .ok list
  | block :: blocks => do
    let condition ← names.condition (place.inside (.item index)) block
    names.groupItems place (index + 1) (list.push condition) blocks

/-- A condition; a group stays a list. -/
def condition (names : Names) (place : Place) : ConditionBlock → Except ConfigError Condition
  | ⟨block, none⟩ => names.test place block
  | ⟨_, some block⟩ => do
    let list ← names.group place .group block
    .ok (.list list.logic list.trackCaptures list.items)

end

/-! ### Actions -/

/-- What an action writes: a template, a constant text, or another scope. -/
def source? (names : Names) (place : Place) (block : ActionBlock) : Except ConfigError (Option Value) :=
  match block.value, block.literal, block.fromScope with
  | some text, _, _ => (names.value place text).map some
  | none, some text, _ => .ok (some (.literal text))
  | none, none, some scope => (place.scopeValue scope block.fromIndex).map some
  | none, none, none => .ok none

/-- What an action has to write. -/
def source (names : Names) (place : Place) (block : ActionBlock) : Except ConfigError Value := do
  let value ← names.source? place block
  place.required "value" value

end Names

namespace ActionBlock

/-- The scope that an action writes. -/
def targetScope (block : ActionBlock) (place : Place) : Except ConfigError Scope :=
  match block.scope with
  | some name => place.scope name
  | none => .ok .path

/-- The index that an action writes. -/
def targetIndex (block : ActionBlock) : Option String := block.index.map Scalar.toText

/-- An outcome with the flags that are configured. -/
def overridden (block : ActionBlock) (outcome : Outcome) : Outcome :=
  ⟨block.stop.getD outcome.stop, block.endRequest.getD outcome.endRequest⟩

end ActionBlock

/-- Whether an action has an outcome of its own that flags may change. -/
def Action.carriesFlags : Action → Bool
  | .redirect _ | .respond _ | .doNothing _ | .abort => true
  | _ => false

namespace Names

/-- The action that replaces the URL; `value` counts before `url`. -/
def replaceUrl (names : Names) (place : Place) (block : ActionBlock) : Except ConfigError Action := do
  let value ← match block.value with
    | some _ => names.source place block
    | none => do
      let url ← place.required "url" block.url
      names.value place url
  let target ← (Target.make "replace" .url none).mapError (.part place)
  .ok (.replace target value)

/-- The redirect of a block. -/
def redirect (names : Names) (place : Place) (block : ActionBlock) : Except ConfigError Action := do
  let code ← place.parsed RedirectCode.parse .permanent (block.redirectType.map Scalar.toText)
  let url ← match block.url with
    | some text => (names.value place text).map some
    | none => names.source? place block
  let made := Redirect.make url code
  .ok (.redirect { made with outcome := block.overridden made.outcome })

/-- The response of a block; a registered reason stands for a missing one. -/
def respond (names : Names) (place : Place) (block : ActionBlock) : Except ConfigError Action := do
  let code := block.statusCode.getD 200
  if Status.isCode code then
    let reason := block.statusReason.getD ((Status.reason? code).getD "")
    let body ← match block.body with
      | some text => (names.value place text).map some
      | none => .ok none
    let made := FixedResponse.make code reason body
    .ok (.respond { made with outcome := block.overridden made.outcome })
  else .error (.invalidStatus place code)

/-- An action of the host. -/
def customAction (names : Names) (place : Place) (block : ActionBlock) : Except ConfigError Action :=
  match names.registry.actions.find? block.kind with
  | none => .error (.unknownAction place block.kind)
  | some build =>
    match build block.params with
    | .ok action => .ok (.custom action)
    | .error reason => .error (.custom place "action" block.kind reason)

/-- An action without the flags that follow it. -/
def bareAction (names : Names) (place : Place) (block : ActionBlock) : Except ConfigError Action :=
  let target (name : String) (scope : Scope) : Except ConfigError Target :=
    (Target.make name scope block.targetIndex).mapError (.part place)
  match Text.spelling block.kind with
  | "rewrite" => names.replaceUrl place block
  | "replace" => do
    let scope ← block.targetScope place
    let value ← names.source place block
    .ok (.replace (← target "replace" scope) value)
  | "append" => do
    let scope ← block.targetScope place
    let value ← names.source place block
    .ok (.append (← target "append" scope) value)
  | "insert" => do
    let scope ← block.targetScope place
    let value ← names.source place block
    let index ← (insertIndex scope block.targetIndex).mapError (.part place)
    .ok (.insert index value)
  | "delete" => do
    let scope ← block.targetScope place
    .ok (.delete (← target "delete" scope))
  | "keep" => do
    let scope ← block.targetScope place
    let list ← (AllowList.make scope block.targetIndex).mapError (.part place)
    .ok (.keep list)
  | "normalize" => do
    let leading ← place.parsed SlashPolicy.parse .leave block.leading
    let trailing ← place.parsed SlashPolicy.parse .leave block.trailing
    .ok (.normalize leading trailing)
  | "truncate" => do
    let depth ← place.required "max_depth" block.maxDepth
    .ok (.truncate depth)
  | "redirect" => names.redirect place block
  | "customresponse" | "respond" => names.respond place block
  | "abort" => .ok .abort
  | "none" | "donothing" => .ok (.doNothing (block.overridden .proceed))
  | _ => names.customAction place block

end Names

/-- An action followed by the flags of its block, where it has no outcome of its own. -/
def Action.withFlags (action : Action) (block : ActionBlock) : Action :=
  let flags := block.overridden .proceed
  if action.carriesFlags || flags == .proceed then action
  else ((ActionList.empty.push action).push (.doNothing flags)).toAction

namespace Names

/-- An action with its flags. -/
def action (names : Names) (place : Place) (block : ActionBlock) : Except ConfigError Action :=
  (names.bareAction place block).map (·.withFlags block)

/-- Adds actions, counted from an index. -/
def addActions (names : Names) (place : Place) (index : Nat) (list : ActionList) :
    List ActionBlock → Except ConfigError ActionList
  | [] => .ok list
  | block :: blocks => do
    let action ← names.action (place.inside (.action index)) block
    names.addActions place (index + 1) (list.push action) blocks

/-- What a rule asks: its pattern, then its conditions, all of which have to hold. -/
def ruleConditions (names : Names) (place : Place) (matcher : Option MatchBlock) (conditions : Option GroupBlock) :
    Except ConfigError ConditionList := do
  let list := ConditionList.empty .matchAll false
  let list ← match matcher with
    | some block => (names.pattern (place.inside .pattern) block).map list.push
    | none => .ok list
  match conditions with
  | some block => do
    let group ← names.group place .conditions block
    .ok (list.push (.list group.logic group.trackCaptures group.items))
  | none => .ok list

end Names

end Reroute
