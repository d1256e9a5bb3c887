import Mathlib.Logic.Relation
import Reroute.Proofs.Request.Queue
import Reroute.Proofs.Rule.Moments

/-!
# Changes of a request

Whatever a single action does to a request is one of a few changes (`Action.change_perform`): nothing, an answer in
the queue, or the path, the parameters, the query text, the URL, the headers or the variables written anew.  Single
actions in a row reach requests, and what a walk over rules leaves is reached in this way (`RuleList.reaches_walk`).
-/

namespace Reroute

namespace Request

/-- What a single action can make of a request. -/
inductive Change (request : Request) : Request → Prop
  | none : Change request request
  | queued (queue : List Deferred) : Change request (request.withQueue queue)
  | path (segments : List String) : Change request (request.modifyPath fun _ => segments)
  | parameters (query : Query) : Change request (request.modifyQuery fun _ => query)
  | queryText (text : String) : Change request (request.setQueryText text)
  | url (text : String) : Change request (request.setUrl text)
  | headers (f : Entries → Entries) : Change request (request.modifyHeaders (·.write f))
  | serverVariables (f : Entries → Entries) : Change request (request.modifyVariables (·.write f))

variable (request : Request)

theorem change_replace (target : Target) (text : String) : request.Change (request.replace target text) := by
  cases target with
  | url => exact .url text
  | path => exact .path (Path.split text)
  | queryText => exact .queryText text
  | pathElement index =>
    simp only [replace]
    split
    · exact .path _
    · exact .none
  | parameter name => exact .parameters _
  | header name => exact .headers _
  | serverVariable name => exact .serverVariables _

private theorem change_append (target : Target) (text : String) : request.Change (request.append target text) := by
  cases target with
  | url => exact .url _
  | path => exact .path (Path.split _)
  | queryText =>
    simp only [append]
    split
    · exact .queryText _
    · exact .none
  | pathElement index =>
    simp only [append]
    split
    · exact .path _
    · exact .none
  | parameter name => exact .parameters _
  | header name => exact .headers _
  | serverVariable name => exact .serverVariables _

private theorem change_insertSegment (index : Int) (text : String) :
    request.Change (request.insertSegment index text) := by
  unfold insertSegment
  split
  · exact .path _
  · exact .none

private theorem change_delete (target : Target) : request.Change (request.delete target) := by
  cases target with
  | url => exact .url "/"
  | path => exact .path Path.root
  | queryText => exact .queryText ""
  | pathElement index =>
    simp only [delete]
    split
    · exact .path _
    · exact .none
  | parameter name =>
    simp only [delete]
    split
    · exact .parameters _
    · exact .none
  | header name =>
    simp only [delete]
    split
    · exact .headers _
    · exact .none
  | serverVariable name =>
    simp only [delete]
    split
    · exact .serverVariables _
    · exact .none

private theorem change_setSegments (segments : List String) : request.Change (request.setSegments segments) := by
  unfold setSegments
  split
  · exact .none
  · exact .path segments

private theorem change_keep (list : AllowList) : request.Change (request.keep list) := by
  cases list with
  | elements indices => exact change_setSegments request _
  | parameters names =>
    simp only [keep]
    split
    · exact .none
    · exact .parameters _
  | headers names =>
    simp only [keep]
    split
    · exact .none
    · exact .headers _

private theorem change_truncate (depth : UInt64) : request.Change (request.truncate depth) := by
  unfold truncate
  split
  · exact .path _
  · exact .none

private theorem change_schedule (env : Env) (answer : Deferred) : request.Change (env.schedule request answer) := by
  unfold Env.schedule
  split
  · exact .queued _
  · exact .none

end Request

/-! ### Single actions -/

/-- The actions that are neither of the host nor made of other actions. -/
def Action.IsSingle : Action → Prop
  | .custom _ | .sequence _ | .rules _ => False
  | _ => True

theorem Action.change_perform (env : Env) {action : Action} (h : action.IsSingle) (request : Request)
    (scratch : Scratch) : request.Change (action.perform env request scratch).request := by
  cases action with
  | replace target value => exact request.change_replace target _
  | append target value => exact request.change_append target _
  | insert index value => exact request.change_insertSegment index _
  | delete target => exact request.change_delete target
  | keep list => exact request.change_keep list
  | normalize leading trailing => exact request.change_setSegments _
  | truncate depth => exact request.change_truncate depth
  | redirect answer => exact request.change_schedule env _
  | respond answer => exact request.change_schedule env _
  | abort => exact .none
  | doNothing outcome => exact .none
  | custom action => exact h.elim
  | sequence steps => exact h.elim
  | rules list => exact h.elim

/-! ### Actions in a row -/

namespace Request

/-- One single action that is allowed on a request, performed in any surroundings and with any scratch. -/
inductive Step (allowed : Action → Request → Scratch → Prop) (request : Request) : Request → Prop
  | perform (env : Env) (action : Action) (scratch : Scratch) (hsingle : action.IsSingle)
      (hallowed : allowed action request scratch) : Step allowed request (action.perform env request scratch).request

/-- Every action is allowed. -/
def anyAction : Action → Request → Scratch → Prop := fun _ _ _ => True

/-- The requests that allowed single actions lead to, one performed after the other. -/
abbrev Reaches (allowed : Action → Request → Scratch → Prop) : Request → Request → Prop :=
  Relation.ReflTransGen (Step allowed)

variable {allowed : Action → Request → Scratch → Prop}

private theorem Step.change {request changed : Request} (h : request.Step allowed changed) :
    request.Change changed := by
  obtain ⟨env, action, scratch, hsingle, -⟩ := h
  exact Action.change_perform env hsingle request scratch

/-- A relation between requests that holds for every change and can be chained holds wherever actions lead. -/
theorem Reaches.related {related : Request → Request → Prop} (hrefl : ∀ a, related a a)
    (htrans : ∀ {a b c}, related a b → related b c → related a c) (hchange : ∀ {a b}, a.Change b → related a b)
    {start reached : Request} (h : start.Reaches allowed reached) : related start reached := by
  induction h with
  | refl => exact hrefl start
  | tail _ hstep ih => exact htrans ih (hchange hstep.change)

end Request

/-! ### Walks -/

/-- No action of the host. -/
def ExtensionLaw.ownActions : ExtensionLaw where
  condition _ := True
  action _ := False

open Request (anyAction)

theorem Action.isSingle_of_leaf {action : Action} (hleaf : action.IsLeaf) (hlaw : action.Obeys .ownActions) :
    action.IsSingle := by
  cases action with
  | custom action => exact hlaw.elim
  | sequence steps => exact hleaf.elim
  | rules list => exact hleaf.elim
  | _ => trivial

theorem Action.reaches_perform_single (env : Env) (action : Action) (h : action.IsSingle) (request : Request)
    (scratch : Scratch) : request.Reaches anyAction (action.perform env request scratch).request :=
  .single (.perform env action scratch h trivial)

/-- What actions lead to is reached by them. -/
private theorem Moment.Lead.reaches {env : Env} {start reached : Request} {moments : List Moment}
    (h : Lead env .ownActions start moments reached) : start.Reaches anyAction reached := by
  induction h with
  | nil request => exact .refl
  | matched depth rule _ ih => exact ih
  | @performed action start reached moments scratch hleaf hlaw _ ih =>
    have hsingle := Action.isSingle_of_leaf hleaf hlaw
    exact (Action.reaches_perform_single env action hsingle start scratch).trans ih

/-- An action among moments is single, and what it is performed on is reached by those before it. -/
theorem Moment.Lead.reaches_of_mem {env : Env} {start reached : Request} {moments : List Moment}
    (h : Lead env .ownActions start moments reached) {action : Action} {request : Request} {scratch : Scratch}
    (hmem : .performed action request scratch ∈ moments) : start.Reaches anyAction request ∧ action.IsSingle := by
  induction h with
  | nil _ => exact absurd hmem List.not_mem_nil
  | matched depth rule _ ih =>
    obtain heq | hmem := List.mem_cons.mp hmem
    · cases heq
    · exact ih hmem
  | @performed first start reached moments scratch' hleaf hlaw _ ih =>
    have hsingle := Action.isSingle_of_leaf hleaf hlaw
    obtain heq | hmem := List.mem_cons.mp hmem
    · cases heq
      exact ⟨.refl, hsingle⟩
    · obtain ⟨hreached, hmoment⟩ := ih hmem
      exact ⟨(Action.reaches_perform_single env first hsingle start scratch').trans hreached, hmoment⟩

theorem RuleList.reaches_walk (env : Env) (outer : Option Bag) (list : RuleList) (request : Request)
    (h : list.Obeys .ownActions) : request.Reaches anyAction (list.walk env outer request).request :=
  (RuleList.lead_walk env outer list request h).reaches

end Reroute
