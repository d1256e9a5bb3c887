import Reroute.Config.Lower
import Reroute.Proofs.Rule.Sequence
import Reroute.Proofs.Walk.Result

/-!
# Compiled actions

The block of an action may ask for two flags: that processing stops, and that the request ends.  An action that has an
outcome of its own takes the flags into it, and any other is followed by a step that does nothing but ask for them.
That step is not reached where the action in front of it stops, so the flags of a block take effect, but for one case:
an action of the host that stops and does not end the request keeps its block from ending it
(`Names.flags_take_effect_iff`).
-/

namespace Reroute

/-! ### What a block makes -/

/-- A single action, with the flags of a block in its outcome if it has one of its own. -/
def Action.Configured (block : ActionBlock) : Action → Prop
  | .redirect answer => answer.outcome = block.overridden .terminate
  | .respond answer => answer.outcome = block.overridden .terminate
  | .doNothing outcome => outcome = block.overridden .proceed
  | .sequence _ | .rules _ => False
  | .replace _ _ | .append _ _ | .insert _ _ | .delete _ | .keep _ | .normalize _ _ | .truncate _ | .abort
  | .custom _ => True

namespace Names

variable (names : Names) (place : Place) (block : ActionBlock)

private theorem configured_replaceUrl : (names.replaceUrl place block).Yields (Action.Configured block) := by
  unfold replaceUrl
  dsimp only
  split
  · exact .bind fun value => .bind fun target => .ok trivial
  · exact .bind fun url => .bind fun value => .bind fun target => .ok trivial

private theorem configured_redirect : (names.redirect place block).Yields (Action.Configured block) := by
  refine .bind fun code => ?_
  dsimp only
  split <;> exact .bind fun url => .ok rfl

private theorem configured_respond : (names.respond place block).Yields (Action.Configured block) := by
  unfold respond
  dsimp only
  split
  · split <;> exact .bind fun body => .ok rfl
  · exact .error _

private theorem configured_customAction : (names.customAction place block).Yields (Action.Configured block) := by
  unfold customAction
  split
  · exact .error _
  · split
    · exact .ok trivial
    · exact .error _

/-- Every kind of block makes a single action that is configured by it. -/
theorem configured_bareAction : (names.bareAction place block).Yields (Action.Configured block) := by
  unfold bareAction
  dsimp only
  split
  case h_1 => exact configured_replaceUrl names place block
  case h_2 | h_3 | h_4 => exact .bind fun scope => .bind fun value => .bind fun made => .ok trivial
  case h_5 | h_6 => exact .bind fun scope => .bind fun target => .ok trivial
  case h_7 => exact .bind fun leading => .bind fun trailing => .ok trivial
  case h_8 => exact .bind fun depth => .ok trivial
  case h_9 => exact configured_redirect names place block
  case h_10 | h_11 => exact configured_respond names place block
  case h_12 => exact .ok trivial
  case h_13 | h_14 => exact .ok rfl
  case h_15 => exact configured_customAction names place block

end Names

/-! ### Outcomes -/

/-- What two steps in a row ask for; the second is reached if the first does not stop. -/
def Outcome.andThen (first second : Outcome) : Outcome :=
  if first.stop then first else ⟨second.stop, first.endRequest || second.endRequest⟩

private theorem Outcome.andThen_proceed (outcome : Outcome) : outcome.andThen .proceed = outcome := by
  obtain ⟨stop, endRequest⟩ := outcome
  cases stop <;> simp [andThen, proceed]

/-- The flags of a block after an outcome: a flag that is set is asked for, but for the end of the request where the
outcome in front stops without it. -/
private theorem ActionBlock.andThen_overridden (block : ActionBlock) (own : Outcome) :
    let outcome := own.andThen (block.overridden .proceed)
    (block.stop = some true → outcome.stop = true) ∧
      (block.endRequest = some true → (outcome.endRequest = true ↔ own ≠ ⟨true, false⟩)) := by
  obtain ⟨stop, endRequest⟩ := own
  intro outcome
  constructor
  · intro hflag
    cases stop <;> simp [outcome, Outcome.andThen, overridden, hflag]
  · intro hflag
    cases stop <;> cases endRequest <;> simp [outcome, Outcome.andThen, overridden, hflag]

private theorem Performed.outcome_andThen (first : Performed) (rest : Request → Scratch → Performed) :
    (first.andThen rest).outcome = first.outcome.andThen (rest first.request first.scratch).outcome := by
  unfold andThen Outcome.andThen
  split <;> rfl

namespace Action

variable {action : Action} {block : ActionBlock} (env : Env) (request : Request) (scratch : Scratch)

/-- An action without an outcome of its own is followed by the flags of its block. -/
private theorem outcome_withFlags (action : Action) (block : ActionBlock) :
    ((action.withFlags block).perform env request scratch).outcome =
      if action.carriesFlags then (action.perform env request scratch).outcome
      else (action.perform env request scratch).outcome.andThen (block.overridden .proceed) := by
  unfold withFlags
  by_cases hcarries : action.carriesFlags = true
  · simp only [hcarries, Bool.true_or, if_true]
  · simp only [hcarries, Bool.false_or, beq_iff_eq, Bool.false_eq_true, if_false]
    split
    · rename_i hflags
      rw [hflags, Outcome.andThen_proceed]
    · rw [ActionList.perform_toAction, ActionList.push_eq, performAll_append, Performed.outcome_andThen,
        ActionList.push_eq, ActionList.empty, List.nil_append, performAll_spliced, performAll_spliced]
      rfl

/-- A flag that is set stands in the outcome of an action that has one of its own. -/
private theorem Configured.outcome_of_carriesFlags (h : action.Configured block)
    (hcarries : action.carriesFlags = true) :
    let outcome := (action.perform env request scratch).outcome
    (block.stop = some true → outcome.stop = true) ∧ (block.endRequest = some true → outcome.endRequest = true) := by
  have hset : ∀ fallback, (block.stop = some true → (block.overridden fallback).stop = true) ∧
      (block.endRequest = some true → (block.overridden fallback).endRequest = true) := by
    intro fallback
    constructor <;> intro hflag <;> simp [ActionBlock.overridden, hflag]
  intro outcome
  cases action with
  | redirect answer | respond answer =>
    have houtcome : outcome = block.overridden .terminate := h
    rw [houtcome]
    exact hset .terminate
  | doNothing own =>
    have houtcome : outcome = block.overridden .proceed := h
    rw [houtcome]
    exact hset .proceed
  | abort => exact ⟨fun _ => rfl, fun _ => rfl⟩
  | replace | append | insert | delete | keep | normalize | truncate | custom | sequence | rules => cases hcarries

/-- Of the actions without an outcome of their own, one of the host alone may stop without ending the request. -/
private theorem Configured.outcome_eq_halt_iff (h : action.Configured block) (hcarries : action.carriesFlags = false) :
    (action.perform env request scratch).outcome = ⟨true, false⟩ ↔
      ∃ custom, action = .custom custom ∧ (custom.perform request scratch).1 = ⟨true, false⟩ := by
  cases action with
  | custom custom =>
    constructor
    · exact fun hreported => ⟨custom, rfl, hreported⟩
    · rintro ⟨_, ⟨rfl⟩, hreported⟩
      exact hreported
  | replace | append | insert | delete | keep | normalize | truncate =>
    refine iff_of_false ?_ ?_
    · intro hreported
      cases hreported
    · rintro ⟨custom, hcustom, -⟩
      cases hcustom
  | redirect | respond | doNothing | abort => cases hcarries
  | sequence | rules => exact h.elim

end Action

/-! ### Flags that are set -/

namespace Names

/-- An action compiled from a block asks for the flags that the block sets, whatever it asks for without them, but for
the end of the request where it is an action of the host that stops and does not end it. -/
theorem flags_take_effect_iff {names : Names} {place : Place} {block : ActionBlock} {action : Action}
    (h : names.action place block = .ok action) :
    ∃ bare, names.bareAction place block = .ok bare ∧ ∀ (env : Env) (request : Request) (scratch : Scratch),
      let own := (bare.perform env request scratch).outcome
      let outcome := (action.perform env request scratch).outcome
      outcome = (if bare.carriesFlags then own else own.andThen (block.overridden .proceed)) ∧
        (block.stop = some true → outcome.stop = true) ∧
        (block.endRequest = some true →
          (outcome.endRequest = true ↔ ¬∃ custom, bare = .custom custom ∧
            (custom.perform request scratch).1 = ⟨true, false⟩)) := by
  obtain ⟨bare, hbare, rfl⟩ := Except.map_eq_ok.mp h
  have hconfigured := configured_bareAction names place block bare hbare
  refine ⟨bare, hbare, fun env request scratch => ?_⟩
  intro own outcome
  have houtcome : outcome = if bare.carriesFlags then own else own.andThen (block.overridden .proceed) :=
    Action.outcome_withFlags env request scratch bare block
  refine ⟨houtcome, ?_⟩
  by_cases hcarries : bare.carriesFlags = true
  · rw [if_pos hcarries] at houtcome
    obtain ⟨hstop, hend⟩ := hconfigured.outcome_of_carriesFlags env request scratch hcarries
    rw [houtcome]
    refine ⟨hstop, fun hflag => iff_of_true (hend hflag) ?_⟩
    rintro ⟨custom, rfl, -⟩
    cases hcarries
  · rw [if_neg hcarries] at houtcome
    obtain ⟨hstop, hend⟩ := block.andThen_overridden own
    rw [houtcome]
    refine ⟨hstop, fun hflag => (hend hflag).trans (not_congr ?_)⟩
    exact hconfigured.outcome_eq_halt_iff env request scratch (by simpa using hcarries)

/-- Names with an action of the host that stops and does not end the request. -/
def halting : Names :=
  ⟨[], .registerAction .empty "halt" fun _ => .ok ⟨"halt", fun request scratch => (⟨true, false⟩, request, scratch)⟩⟩

/-- A block of a kind, with a text to write and both flags set. -/
def flagged (kind : String) : ActionBlock :=
  { ActionBlock.empty with kind, literal := some "x", stop := some true, endRequest := some true }

theorem flags_take_effect_iff_appending :
    ∃ action, halting.action ⟨"rules.hcl", []⟩ (flagged "append") = .ok action ∧
      ∀ (env : Env) (request : Request) (scratch : Scratch),
        (action.perform env request scratch).outcome.stop = true ∧
          (action.perform env request scratch).outcome.endRequest = true := by
  obtain ⟨action, h⟩ : ∃ action, halting.action ⟨"rules.hcl", []⟩ (flagged "append") = .ok action := ⟨_, rfl⟩
  refine ⟨action, h, fun env request scratch => ?_⟩
  obtain ⟨bare, hbare, hflags⟩ := flags_take_effect_iff h
  obtain ⟨-, hstop, hend⟩ := hflags env request scratch
  cases hbare
  refine ⟨hstop rfl, (hend rfl).mpr ?_⟩
  rintro ⟨custom, hcustom, -⟩
  cases hcustom

/-- The action of the host stops, so the step that would end the request is not reached. -/
theorem end_of_request_lost :
    ∃ action, halting.action ⟨"rules.hcl", []⟩ (flagged "halt") = .ok action ∧
      (flagged "halt").endRequest = some true ∧
      ∀ (env : Env) (request : Request) (scratch : Scratch),
        (action.perform env request scratch).outcome = ⟨true, false⟩ :=
  ⟨_, rfl, rfl, fun _ _ _ => rfl⟩

end Names

end Reroute
