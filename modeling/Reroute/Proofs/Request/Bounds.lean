import Reroute.Proofs.Request.Memory
import Reroute.Proofs.Request.SegmentBounds
import Reroute.Proofs.Request.WorkingUrl

/-!
# Requests in bounds

Each read of a value and each action is written once more so that it comes to nothing as soon as a segment is asked for,
written, inserted or removed at a position that is out of bounds (`…InBounds?`).  No action leaves a path without
segments, so that never happens: whatever is read and done, one after the other, is done within the bounds
(`Fresh.always_in_bounds`).
-/

namespace Reroute

/-! ### Values -/

/-- The text at the getter's place. -/
def Getter.resolveInBounds? (getter : Getter) (request : Request) (scratch : Scratch) : Option String :=
  match getter.scope, getter.argument with
  | .receivedPathElement, .element index => Path.elementInBounds? request.receivedPath index
  | .pathElement, .element index => Path.elementInBounds? request.path index
  | _, _ => some (getter.resolve request scratch)

/-- The text at the getter's place after all operations. -/
def Getter.readInBounds? (getter : Getter) (request : Request) (scratch : Scratch) : Option String :=
  (getter.resolveInBounds? request scratch).map fun text =>
    getter.operations.foldl (fun text operation => operation.apply text) text

private theorem Getter.readInBounds?_eq (getter : Getter) (request : Request) (scratch : Scratch) :
    getter.readInBounds? request scratch = some (getter.read request scratch) := by
  have hresolve : getter.resolveInBounds? request scratch = some (getter.resolve request scratch) := by
    unfold resolveInBounds?
    split
    · rename_i index hscope hargument
      rw [Path.elementInBounds?_eq, resolve, hscope, hargument]
    · rename_i index hscope hargument
      rw [Path.elementInBounds?_eq, resolve, hscope, hargument]
    · rfl
  rw [readInBounds?, hresolve, Option.map_some, read]

namespace Value

mutual

/-- The text of a value. -/
def readInBounds? : Value → Request → Scratch → Option String
  | getter g, request, scratch => g.readInBounds? request scratch
  | concat parts separator operation, request, scratch =>
    (readAllInBounds? parts request scratch).map fun texts => applyTo (Text.join (separator.getD "") texts) operation

/-- The texts of values in a row. -/
def readAllInBounds? : List Value → Request → Scratch → Option (List String)
  | [], _, _ => some []
  | value :: values, request, scratch => do
    let text ← value.readInBounds? request scratch
    let texts ← readAllInBounds? values request scratch
    some (text :: texts)

end

mutual

private theorem readInBounds?_eq : ∀ (value : Value) (request : Request) (scratch : Scratch),
    value.readInBounds? request scratch = some (value.read request scratch)
  | getter g, request, scratch => g.readInBounds?_eq request scratch
  | concat parts separator operation, request, scratch => by
    rw [readInBounds?, readAllInBounds?_eq parts, Option.map_some, read]

private theorem readAllInBounds?_eq : ∀ (values : List Value) (request : Request) (scratch : Scratch),
    readAllInBounds? values request scratch = some (readAll values request scratch)
  | [], _, _ => rfl
  | value :: values, request, scratch => by
    rw [readAllInBounds?, readInBounds?_eq value, readAllInBounds?_eq values, readAll]
    rfl

end

end Value

/-- The redirect that the host is to send. -/
def Redirect.deferredInBounds? (redirect : Redirect) (request : Request) (scratch : Scratch) : Option Deferred := do
  let location ← match redirect.location with
    | some value => value.readInBounds? request scratch
    | none => some request.url
  some (.redirect location redirect.code.status)

/-- The response that the host is to send. -/
def FixedResponse.deferredInBounds? (response : FixedResponse) (request : Request) (scratch : Scratch) :
    Option Deferred := do
  let body ← match response.body with
    | some body => (body.readInBounds? request scratch).map some
    | none => some none
  some (.respond response.status response.reason body)

private theorem Redirect.deferredInBounds?_eq (redirect : Redirect) (request : Request) (scratch : Scratch) :
    redirect.deferredInBounds? request scratch = some (redirect.deferred request scratch) := by
  unfold deferredInBounds? deferred
  cases redirect.location with
  | none => rfl
  | some value =>
    simp only [Value.readInBounds?_eq]
    rfl

private theorem FixedResponse.deferredInBounds?_eq (response : FixedResponse) (request : Request) (scratch : Scratch) :
    response.deferredInBounds? request scratch = some (response.deferred request scratch) := by
  unfold deferredInBounds? deferred
  cases response.body with
  | none => rfl
  | some body =>
    simp only [Value.readInBounds?_eq]
    rfl

/-! ### Actions -/

namespace Request

/-- Gives a target a new text. -/
def replaceInBounds? (request : Request) (target : Target) (text : String) : Option Request :=
  match target with
  | .pathElement index =>
    match Path.resolve? request.path index with
    | some position => do
      let segments ← Path.setInBounds? request.path position text
      some (request.modifyPath fun _ => segments)
    | none => some request
  | other => some (request.replace other text)

/-- Puts a text behind the one at a target; that of an element is read before it is overwritten. -/
def appendInBounds? (request : Request) (target : Target) (text : String) : Option Request :=
  match target with
  | .pathElement index =>
    match Path.resolve? request.path index with
    | some position => do
      let old ← request.path[position]?
      let segments ← Path.setInBounds? request.path position (old ++ text)
      some (request.modifyPath fun _ => segments)
    | none => some request
  | other => some (request.append other text)

/-- Inserts a segment in front of an element. -/
def insertSegmentInBounds? (request : Request) (index : Int) (text : String) : Option Request :=
  match Path.resolveInsert? request.path index with
  | some position => do
    let segments ← Path.insertInBounds? request.path position text
    some (request.modifyPath fun _ => segments)
  | none => some request

/-- Deletes a target. -/
def deleteInBounds? (request : Request) (target : Target) : Option Request :=
  match target with
  | .pathElement index =>
    match Path.resolve? request.path index with
    | some position => do
      let rest ← Path.removeInBounds? request.path position
      let segments ← Path.ensureRootInBounds? rest
      some (request.modifyPath fun _ => segments)
    | none => some request
  | other => some (request.delete other)

/-- Keeps what a list allows. -/
def keepInBounds? (request : Request) (list : AllowList) : Option Request :=
  match list with
  | .elements indices => do
    let segments ← Path.keepInBounds? request.path indices
    some (request.setSegments segments)
  | other => some (request.keep other)

/-- Applies a policy to each end of the path. -/
def normalizeInBounds? (request : Request) (leading trailing : SlashPolicy) : Option Request := do
  let segments ← Path.normalizeInBounds? leading trailing request.path
  some (request.setSegments segments)

/-- Cuts the path at a depth. -/
def truncateInBounds? (request : Request) (depth : UInt64) : Option Request :=
  if request.path.length ≤ Path.keptCount depth request.path then some request
  else do
    let segments ← Path.ensureRootInBounds? (request.path.take (Path.keptCount depth request.path))
    some (request.modifyPath fun _ => segments)

end Request

/-- Performs a single action, as far as the request goes. -/
def Action.performInBounds? (env : Env) (action : Action) (request : Request) (scratch : Scratch) : Option Request :=
  match action with
  | .replace target value => do request.replaceInBounds? target (← value.readInBounds? request scratch)
  | .append target value => do request.appendInBounds? target (← value.readInBounds? request scratch)
  | .insert index value => do request.insertSegmentInBounds? index (← value.readInBounds? request scratch)
  | .delete target => request.deleteInBounds? target
  | .keep list => request.keepInBounds? list
  | .normalize leading trailing => request.normalizeInBounds? leading trailing
  | .truncate depth => request.truncateInBounds? depth
  | .redirect answer => do some (env.schedule request (← answer.deferredInBounds? request scratch))
  | .respond answer => do some (env.schedule request (← answer.deferredInBounds? request scratch))
  | .abort | .doNothing _ => some request
  | .custom _ | .sequence _ | .rules _ => none

namespace Request

variable {request : Request}

private theorem replaceInBounds?_eq (request : Request) (target : Target) (text : String) :
    request.replaceInBounds? target text = some (request.replace target text) := by
  cases target with
  | pathElement index =>
    simp only [replaceInBounds?, replace]
    cases hposition : Path.resolve? request.path index with
    | some position =>
      simp only [Path.setInBounds?_eq (Path.lt_length_of_resolve? hposition)]
      rfl
    | none => rfl
  | _ => rfl

private theorem appendInBounds?_eq (request : Request) (target : Target) (text : String) :
    request.appendInBounds? target text = some (request.append target text) := by
  cases target with
  | pathElement index =>
    simp only [appendInBounds?, append]
    cases hposition : Path.resolve? request.path index with
    | some position =>
      have hbounds := Path.lt_length_of_resolve? hposition
      simp only [List.getElem?_eq_getElem hbounds, Option.bind_eq_bind, Option.bind_some, Path.setInBounds?_eq hbounds,
        modifyPath, editPath, List.modify_eq_set, Option.getD_some]
    | none => rfl
  | _ => rfl

private theorem insertSegmentInBounds?_eq (request : Request) (index : Int) (text : String) :
    request.insertSegmentInBounds? index text = some (request.insertSegment index text) := by
  unfold insertSegmentInBounds? insertSegment
  cases hposition : Path.resolveInsert? request.path index with
  | some position =>
    simp only [Path.insertInBounds?_eq (Path.le_length_of_resolveInsert? hposition)]
    rfl
  | none => rfl

private theorem deleteInBounds?_eq (request : Request) (target : Target) :
    request.deleteInBounds? target = some (request.delete target) := by
  cases target with
  | pathElement index =>
    simp only [deleteInBounds?, delete]
    cases hposition : Path.resolve? request.path index with
    | some position =>
      simp only [Path.removeInBounds?_eq (Path.lt_length_of_resolve? hposition), Option.bind_eq_bind, Option.bind_some,
        Path.ensureRootInBounds?_eq]
      rfl
    | none => rfl
  | _ => rfl

private theorem keepInBounds?_eq (h : request.path ≠ []) (list : AllowList) :
    request.keepInBounds? list = some (request.keep list) := by
  cases list with
  | elements indices =>
    rw [keepInBounds?, Path.keepInBounds?_eq h]
    rfl
  | _ => rfl

private theorem normalizeInBounds?_eq (request : Request) (leading trailing : SlashPolicy) :
    request.normalizeInBounds? leading trailing = some (request.normalize leading trailing) := by
  rw [normalizeInBounds?, Path.normalizeInBounds?_eq]
  rfl

private theorem truncateInBounds?_eq (request : Request) (depth : UInt64) :
    request.truncateInBounds? depth = some (request.truncate depth) := by
  unfold truncateInBounds? truncate Path.truncate?
  split
  · rfl
  · rw [Path.ensureRootInBounds?_eq]
    rfl

/-! ### Paths are never empty -/

private theorem path_setPathText_ne_nil (request : Request) (text : String) : (request.setPathText text).path ≠ [] :=
  Text.split_ne_nil '/' text

private theorem path_setUrl_ne_nil (request : Request) (url : String) : (request.setUrl url).path ≠ [] :=
  Text.split_ne_nil '/' (splitUrl url).1

private theorem path_replace_ne_nil (h : request.path ≠ []) (target : Target) (text : String) :
    (request.replace target text).path ≠ [] := by
  cases target with
  | url =>
    rw [replace]
    exact request.path_setUrl_ne_nil _
  | path =>
    rw [replace]
    exact request.path_setPathText_ne_nil _
  | pathElement index =>
    simp only [replace]
    split
    · exact mt (List.set_eq_nil_iff _ _).mp h
    · exact h
  | _ => exact h

private theorem path_append_ne_nil (h : request.path ≠ []) (target : Target) (text : String) :
    (request.append target text).path ≠ [] := by
  cases target with
  | url =>
    rw [append]
    exact request.path_setUrl_ne_nil _
  | path =>
    rw [append]
    exact request.path_setPathText_ne_nil _
  | queryText =>
    simp only [append]
    split <;> exact h
  | pathElement index =>
    simp only [append]
    split
    · exact mt List.modify_eq_nil_iff.mp h
    · exact h
  | _ => exact h

private theorem path_insertSegment_ne_nil (h : request.path ≠ []) (index : Int) (text : String) :
    (request.insertSegment index text).path ≠ [] := by
  unfold insertSegment
  split
  · rename_i position hposition
    apply List.length_pos_iff.mp
    rw [show (request.modifyPath (·.insertIdx position text)).path = request.path.insertIdx position text from rfl,
      List.length_insertIdx_of_le_length (Path.le_length_of_resolveInsert? hposition)]
    exact Nat.succ_pos _
  · exact h

private theorem path_delete_ne_nil (h : request.path ≠ []) (target : Target) : (request.delete target).path ≠ [] := by
  cases target with
  | url =>
    rw [delete]
    exact request.path_setUrl_ne_nil _
  | path => exact List.cons_ne_nil _ _
  | queryText => exact h
  | pathElement index =>
    simp only [delete]
    split
    · exact Path.ensureRoot_ne_nil _
    · exact h
  | _ =>
    simp only [delete]
    split <;> exact h

private theorem path_keep_ne_nil (h : request.path ≠ []) (list : AllowList) : (request.keep list).path ≠ [] := by
  cases list with
  | elements indices => exact (request.path_setSegments _).trans_ne (Path.ensureRoot_ne_nil _)
  | _ =>
    simp only [keep]
    split <;> exact h

private theorem path_truncate_ne_nil (h : request.path ≠ []) (depth : UInt64) : (request.truncate depth).path ≠ [] := by
  unfold truncate Path.truncate?
  split
  · rename_i segments hsegments
    split at hsegments
    · cases hsegments
    · cases hsegments
      exact Path.ensureRoot_ne_nil _
  · exact h

private theorem path_schedule (env : Env) (answer : Deferred) : (env.schedule request answer).path = request.path := by
  unfold Env.schedule
  split <;> rfl

private theorem path_perform_ne_nil (h : request.path ≠ []) (env : Env) {action : Action} (hsingle : action.IsSingle)
    (scratch : Scratch) : (action.perform env request scratch).request.path ≠ [] := by
  cases action with
  | replace target value => exact path_replace_ne_nil h target _
  | append target value => exact path_append_ne_nil h target _
  | insert index value => exact path_insertSegment_ne_nil h index _
  | delete target => exact path_delete_ne_nil h target
  | keep list => exact path_keep_ne_nil h list
  | normalize leading trailing => exact (request.path_setSegments _).trans_ne (Path.normalize_ne_nil h leading trailing)
  | truncate depth => exact path_truncate_ne_nil h depth
  | redirect answer => exact (path_schedule env _).trans_ne h
  | respond answer => exact (path_schedule env _).trans_ne h
  | abort => exact h
  | doNothing outcome => exact h
  | custom action => exact hsingle.elim
  | sequence steps => exact hsingle.elim
  | rules list => exact hsingle.elim

private theorem Fresh.path_ne_nil (h : request.Fresh) : request.path ≠ [] := by
  rw [h.untouched.path_eq]
  exact h.received_canonical.1.ne_nil

end Request

/-! ### Whatever is performed and read -/

private theorem Action.performInBounds?_eq {request : Request} (h : request.path ≠ []) (env : Env) {action : Action}
    (hsingle : action.IsSingle) (scratch : Scratch) :
    action.performInBounds? env request scratch = some (action.perform env request scratch).request := by
  cases action with
  | replace target value =>
    simp only [performInBounds?, Value.readInBounds?_eq]
    exact request.replaceInBounds?_eq target _
  | append target value =>
    simp only [performInBounds?, Value.readInBounds?_eq]
    exact request.appendInBounds?_eq target _
  | insert index value =>
    simp only [performInBounds?, Value.readInBounds?_eq]
    exact request.insertSegmentInBounds?_eq index _
  | delete target => exact request.deleteInBounds?_eq target
  | keep list => exact Request.keepInBounds?_eq h list
  | normalize leading trailing => exact request.normalizeInBounds?_eq leading trailing
  | truncate depth => exact request.truncateInBounds?_eq depth
  | redirect answer =>
    simp only [performInBounds?, Redirect.deferredInBounds?_eq]
    rfl
  | respond answer =>
    simp only [performInBounds?, FixedResponse.deferredInBounds?_eq]
    rfl
  | abort => rfl
  | doNothing outcome => rfl
  | custom action => exact hsingle.elim
  | sequence steps => exact hsingle.elim
  | rules list => exact hsingle.elim

namespace Request

/-- A request with one segment at least, of which every value is read, and on which every single action is performed,
without leaving the bounds. -/
structure InBounds (request : Request) : Prop where
  path_ne_nil : request.path ≠ []
  read (value : Value) (scratch : Scratch) : value.readInBounds? request scratch = some (value.read request scratch)
  perform (env : Env) (action : Action) (hsingle : action.IsSingle) (scratch : Scratch) :
    action.performInBounds? env request scratch = some (action.perform env request scratch).request

private theorem InBounds.of_path_ne_nil {request : Request} (h : request.path ≠ []) : request.InBounds where
  path_ne_nil := h
  read value scratch := value.readInBounds?_eq request scratch
  perform env _ hsingle scratch := Action.performInBounds?_eq h env hsingle scratch

/-- A single action is performed, or something is read of the path or the query and remembered. -/
inductive Turn (request : Request) : Request → Prop
  | act {changed : Request} (h : request.Step anyAction changed) : Turn request changed
  | look (what : Read) : Turn request (request.read what).2

private theorem path_read (request : Request) (what : Read) : (request.read what).2.path = request.path := by
  cases what <;> rfl

private theorem InBounds.turn {request changed : Request} (h : request.InBounds) (hturn : request.Turn changed) :
    changed.InBounds := by
  refine .of_path_ne_nil ?_
  cases hturn with
  | act hstep =>
    obtain ⟨env, action, scratch, hsingle, -⟩ := hstep
    exact path_perform_ne_nil h.path_ne_nil env hsingle scratch
  | look what => exact (request.path_read what).trans_ne h.path_ne_nil

/-- The request stays in bounds however often single actions are performed and places are read, and so does every
action of a walk over rules. -/
theorem Fresh.always_in_bounds {start : Request} (hfresh : start.Fresh) :
    (∀ reached, Relation.ReflTransGen Turn start reached → reached.InBounds) ∧
      ∀ env outer (list : RuleList), list.Obeys .ownActions → ∀ action on scratch,
        .performed action on scratch ∈ list.moments env outer start →
          on.InBounds ∧ action.performInBounds? env on scratch = some (action.perform env on scratch).request := by
  have hturns : ∀ reached, Relation.ReflTransGen Turn start reached → reached.InBounds := by
    intro reached hreached
    induction hreached with
    | refl => exact .of_path_ne_nil hfresh.path_ne_nil
    | tail _ hturn ih => exact ih.turn hturn
  refine ⟨hturns, ?_⟩
  intro env outer list hlist action on scratch hmoment
  obtain ⟨hreached, hsingle⟩ := (RuleList.lead_walk env outer list start hlist).reaches_of_mem hmoment
  have hbounds := hturns on (Relation.ReflTransGen.mono (fun _ _ => Turn.act) _ _ hreached)
  exact ⟨hbounds, hbounds.perform env action hsingle scratch⟩

/-- Rules that take away what can be taken away of a path, and then read and insert where nothing is left. -/
def clearing : RuleList :=
  ⟨"root", false, [⟨"clear", false, false, none,
    some (.sequence [.delete (.pathElement (-1)), .keep (.elements [7]), .normalize .remove .remove,
      .insert 0 (.getter ⟨.pathElement, .element 1, []⟩)])⟩]⟩

/-- A request of which only the first segment is kept. -/
def kept : Request := ((ofUrl "/a/b/").delete (.pathElement (-1))).keep (.elements [7])

/-- The same without slashes, after its path was read. -/
def bare : Request := kept.readPathText.2.normalize .remove .remove

theorem always_in_bounds_clearing :
    let env : Env := ⟨.execute, "/www", .discard, fun _ => .ok .file⟩
    (ofUrl "/a/b/").Fresh ∧ clearing.Obeys .ownActions ∧ Relation.ReflTransGen Turn (ofUrl "/a/b/") bare ∧
      bare.path = [""] ∧ bare.InBounds ∧
      Action.performInBounds? env (.insert 0 (.literal "c")) bare .start = some bare ∧
      ∀ action on scratch, .performed action on scratch ∈ clearing.moments env none (ofUrl "/a/b/") → on.InBounds := by
  intro env
  have hfresh : (ofUrl "/a/b/").Fresh := .ofUrl _
  have hlist : clearing.Obeys .ownActions := by
    simp only [clearing, RuleList.Obeys, Rule.AllObey, Rule.Obeys, Action.Obeys, Action.AllObey, and_self]
  have hdeleted : Turn (ofUrl "/a/b/") ((ofUrl "/a/b/").delete (.pathElement (-1))) :=
    .act (.perform env (.delete (.pathElement (-1))) .start (by trivial) trivial)
  have hkept : Turn ((ofUrl "/a/b/").delete (.pathElement (-1))) kept :=
    .act (.perform env (.keep (.elements [7])) .start (by trivial) trivial)
  have hbare : Turn kept.readPathText.2 bare :=
    .act (.perform env (.normalize .remove .remove) .start (by trivial) trivial)
  have hreached : Relation.ReflTransGen Turn (ofUrl "/a/b/") bare :=
    .tail (.tail (.tail (.tail .refl hdeleted) hkept) (.look .pathText)) hbare
  obtain ⟨hturns, hwalk⟩ := Fresh.always_in_bounds hfresh
  have hbounds := hturns bare hreached
  have hinsert : (Action.perform env (.insert 0 (.literal "c")) bare .start).request = bare := by
    rw [Action.perform]
    show bare.insertSegment 0 "c" = bare
    decide
  refine ⟨hfresh, hlist, hreached, by decide, hbounds, ?_, ?_⟩
  · rw [hbounds.perform env (.insert 0 (.literal "c")) (by trivial) .start, hinsert]
  · exact fun action on scratch hmoment => (hwalk env none clearing hlist action on scratch hmoment).1

end Request

end Reroute
