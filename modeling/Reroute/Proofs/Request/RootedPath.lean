import Mathlib.Data.List.DropRight
import Reroute.Proofs.Request.FirstSegment
import Reroute.Proofs.Rule.Changes

/-!
# Rooted paths

An action keeps the kind of a path's first segment (`Request.Begins.perform`), unless it writes the whole path or URL,
removes the slash in front, or puts a segment in front of the first one, which it does only where that one is not the
mark of a slash.  So a path with the mark in front stays rooted as long as whole paths and URLs are written rooted and
no slash is removed; a path whose first segment has the slash itself can lose it to a segment that is put in front
(`Request.rooted_stays`).
-/

namespace Reroute

/-! ### What may be written -/

/-- A value that is written as the whole path or URL begins with a slash, and no slash is removed from an end. -/
def Action.WritesRooted (action : Action) (request : Request) (scratch : Scratch) : Prop :=
  match action with
  | .replace .url value | .replace .path value => Path.IsRootedText (value.read request scratch)
  | .normalize leading trailing => leading ≠ .remove ∧ trailing ≠ .remove
  | _ => True

/-- A segment that is put in front of a first one that is not empty is of a kind. -/
def Action.FrontsWith (p : String → Prop) (action : Action) (request : Request) (scratch : Scratch) : Prop :=
  match action with
  | .insert index value => index = 0 → request.path.head? ≠ some "" → p (value.read request scratch)
  | _ => True

namespace Request

open Reroute.Path (IsRootedText IsRootSegment)

/-! ### Single actions -/

/-- The path begins with a segment of a kind, and its text is what is remembered of it. -/
structure Begins (p : String → Prop) (request : Request) : Prop where
  path : Path.Begins p request.path
  text : request.pathText = Path.join request.path

/-- A kind of segments with which paths are rooted. -/
structure RootKind (p : String → Prop) : Prop where
  empty : p ""
  isRootSegment : ∀ text, p text → IsRootSegment text

private theorem rootKind_empty : RootKind (· = "") := ⟨rfl, fun _ => .inl⟩

private theorem rootKind_isRootSegment : RootKind IsRootSegment := ⟨.inl rfl, fun _ => id⟩

private theorem isRootedText_splitUrl {url : String} (h : IsRootedText url) : IsRootedText (splitUrl url).1 := by
  unfold splitUrl
  cases hcut : Text.cut? '?' url with
  | none => exact h
  | some cut =>
    obtain ⟨hurl, -⟩ := Text.cut?_eq_some.mp hcut
    rw [IsRootedText, hurl] at h
    cases hpath : cut.1.toList with
    | nil => simp [hpath] at h
    | cons c cs => simpa [IsRootedText, hpath] using h

private theorem isRootedText_append {path text : String} (h : IsRootedText path) : IsRootedText (path ++ text) := by
  obtain ⟨cs, hpath⟩ := List.head?_eq_some_iff.mp h
  simp [IsRootedText, hpath]

private theorem isRootedText_appendPath {path : String} (h : IsRootedText path) (text : String) :
    IsRootedText (appendPath path text) := by
  have hfront : Text.dropEndWhile (· == '/') path.toList <+: path.toList :=
    List.rdropWhile_prefix (· == '/') path.toList
  simp only [IsRootedText, appendPath, Text.trimEndBy, String.toList_append, String.toList_ofList]
  cases hcs : Text.dropEndWhile (· == '/') path.toList with
  | nil => rfl
  | cons c cs =>
    obtain ⟨rest, hrest⟩ := hfront
    rw [hcs] at hrest
    rw [IsRootedText, ← hrest] at h
    exact h

namespace Begins

variable {p : String → Prop} {request : Request}

private theorem isRootedText (hp : RootKind p) (h : request.Begins p) : IsRootedText request.pathText := by
  have hsegment : Path.Begins IsRootSegment request.path := h.path.imp hp.isRootSegment
  rw [h.text]
  exact Path.begins_iff.mp hsegment

private theorem modifyPath {f : List String → List String} (h : Path.Begins p (f request.path)) :
    (request.modifyPath f).Begins p := ⟨h, rfl⟩

private theorem setPathText (hp : RootKind p) (request : Request) {text : String} (h : IsRootedText text) :
    (request.setPathText text).Begins p := ⟨Path.begins_split hp.empty h, rfl⟩

private theorem setQueryText (h : request.Begins p) (text : String) :
    (request.setQueryText text).Begins p := ⟨h.path, h.text⟩

private theorem setUrl (hp : RootKind p) (request : Request) {url : String} (h : IsRootedText url) :
    (request.setUrl url).Begins p := (setPathText hp request (isRootedText_splitUrl h)).setQueryText _

private theorem modifyQuery (h : request.Begins p) (f : Query → Query) :
    (request.modifyQuery f).Begins p := ⟨h.path, h.text⟩

private theorem modifyHeaders (h : request.Begins p) (f : Fields → Fields) : (request.modifyHeaders f).Begins p :=
  ⟨h.path, h.text⟩

private theorem modifyVariables (h : request.Begins p) (f : Fields → Fields) : (request.modifyVariables f).Begins p :=
  ⟨h.path, h.text⟩

private theorem setSegments (h : request.Begins p) {segments : List String} (hsegments : Path.Begins p segments) :
    (request.setSegments segments).Begins p := by
  unfold Request.setSegments
  split
  · exact h
  · exact modifyPath hsegments

private theorem replace (hp : RootKind p) (h : request.Begins p) {target : Target} {text : String}
    (htext : target = .url ∨ target = .path → IsRootedText text) : (request.replace target text).Begins p := by
  cases target with
  | url => exact setUrl hp request (htext (.inl rfl))
  | path => exact setPathText hp request (htext (.inr rfl))
  | queryText => exact h.setQueryText text
  | pathElement index =>
    simp only [Request.replace]
    split
    · rename_i position hposition
      exact modifyPath (h.path.set (Path.pos_of_resolve? hposition) text)
    · exact h
  | parameter name => exact h.modifyQuery _
  | header name => exact h.modifyHeaders (·.set name text)
  | serverVariable name => exact h.modifyVariables (·.set name text)

private theorem append (hp : RootKind p) (h : request.Begins p) (target : Target) (text : String) :
    (request.append target text).Begins p := by
  have hrooted : IsRootedText request.pathText := h.isRootedText hp
  cases target with
  | url =>
    have hurl : IsRootedText request.url := by
      unfold url composeUrl
      split
      · exact hrooted
      · rw [String.append_assoc]
        exact isRootedText_append hrooted
    exact setUrl hp request (isRootedText_append hurl)
  | path => exact setPathText hp request (isRootedText_appendPath hrooted text)
  | queryText =>
    simp only [Request.append]
    split
    · exact h.setQueryText _
    · exact h
  | pathElement index =>
    simp only [Request.append]
    split
    · rename_i position hposition
      exact modifyPath (h.path.modify (Path.pos_of_resolve? hposition) _)
    · exact h
  | parameter name => exact h.modifyQuery _
  | header name => exact h.modifyHeaders (·.append name text)
  | serverVariable name => exact h.modifyVariables (·.append name text)

private theorem insertSegment (h : request.Begins p) {index : Int} {text : String}
    (hfront : index = 0 → request.path.head? ≠ some "" → p text) : (request.insertSegment index text).Begins p := by
  unfold Request.insertSegment
  split
  · rename_i position hposition
    exact modifyPath (h.path.insertAt hposition hfront)
  · exact h

private theorem delete (hp : RootKind p) (h : request.Begins p) (target : Target) :
    (request.delete target).Begins p := by
  cases target with
  | url =>
    simp only [Request.delete]
    exact setUrl hp request rfl
  | path =>
    simp only [Request.delete]
    exact modifyPath (Path.begins_root hp.empty)
  | queryText =>
    simp only [Request.delete]
    exact h.setQueryText ""
  | pathElement index =>
    simp only [Request.delete]
    split
    · rename_i position hposition
      exact modifyPath (h.path.eraseIdx hp.empty (Path.pos_of_resolve? hposition))
    · exact h
  | parameter name =>
    simp only [Request.delete]
    split
    · exact h.modifyQuery _
    · exact h
  | header name =>
    simp only [Request.delete]
    split
    · exact h.modifyHeaders _
    · exact h
  | serverVariable name =>
    simp only [Request.delete]
    split
    · exact h.modifyVariables _
    · exact h

private theorem keep (hp : RootKind p) (h : request.Begins p) (list : AllowList) : (request.keep list).Begins p := by
  cases list with
  | elements indices => exact h.setSegments (h.path.select hp.empty (Path.zero_mem_keepPositions request.path indices))
  | parameters names =>
    simp only [Request.keep]
    split
    · exact h
    · exact h.modifyQuery _
  | headers names =>
    simp only [Request.keep]
    split
    · exact h
    · exact h.modifyHeaders _

private theorem truncate (hp : RootKind p) (h : request.Begins p) (depth : UInt64) :
    (request.truncate depth).Begins p := by
  unfold Request.truncate Path.truncate?
  split
  · rename_i segments hsegments
    obtain ⟨-, hsegments⟩ := Option.ite_none_left_eq_some.mp hsegments
    cases hsegments
    exact modifyPath (h.path.take hp.empty _)
  · exact h

private theorem schedule (h : request.Begins p) (env : Env) (answer : Deferred) :
    (env.schedule request answer).Begins p := by
  unfold Env.schedule
  split
  · exact ⟨h.path, h.text⟩
  · exact h

/-- An action keeps the kind of the first segment. -/
theorem perform (hp : RootKind p) (h : request.Begins p) (env : Env) {action : Action} (hsingle : action.IsSingle)
    {scratch : Scratch} (hrooted : action.WritesRooted request scratch) (hfront : action.FrontsWith p request scratch) :
    (action.perform env request scratch).request.Begins p := by
  cases action with
  | replace target value =>
    refine h.replace hp ?_
    rintro (rfl | rfl)
    · exact hrooted
    · exact hrooted
  | append target value => exact h.append hp target _
  | insert index value => exact h.insertSegment hfront
  | delete target => exact h.delete hp target
  | keep list => exact h.keep hp list
  | normalize leading trailing => exact h.setSegments (h.path.normalize hp.empty hrooted.1 hrooted.2)
  | truncate depth => exact h.truncate hp depth
  | redirect answer => exact h.schedule env _
  | respond answer => exact h.schedule env _
  | abort => exact h
  | doNothing outcome => exact h
  | custom action => exact hsingle.elim
  | sequence steps => exact hsingle.elim
  | rules list => exact hsingle.elim

/-- Actions in a row keep the kind of the first segment. -/
private theorem reaches (hp : RootKind p) {allowed : Action → Request → Scratch → Prop}
    (hallowed : ∀ {action request scratch}, request.Begins p → allowed action request scratch →
      action.WritesRooted request scratch ∧ action.FrontsWith p request scratch)
    {start reached : Request} (h : start.Begins p) (hreached : start.Reaches allowed reached) : reached.Begins p := by
  induction hreached with
  | refl => exact h
  | tail _ hstep ih =>
    obtain ⟨env, action, scratch, hsingle, hstep⟩ := hstep
    obtain ⟨hrooted, hfront⟩ := hallowed ih hstep
    exact ih.perform hp env hsingle hrooted hfront

end Begins

/-! ### Wherever actions lead -/

/-- Where the first segment is the mark of a slash, the path stays rooted under all actions that write whole paths and
URLs rooted and remove no slash.  Where it is a segment that has the slash itself, it stays so as long as what is put
in front of that segment is rooted or empty too. -/
theorem rooted_stays {start : Request} (htext : start.pathText = Path.join start.path)
    (hrooted : IsRootedText start.pathText) :
    (start.path.head? = some "" → ∀ reached, start.Reaches Action.WritesRooted reached →
        IsRootedText reached.pathText) ∧
      ∀ reached, start.Reaches (fun action request scratch =>
        action.WritesRooted request scratch ∧ action.FrontsWith IsRootSegment request scratch) reached →
          IsRootedText reached.pathText := by
  have hsegments : Path.Begins IsRootSegment start.path := Path.begins_iff.mpr (htext ▸ hrooted)
  constructor
  · intro hhead reached hreached
    have hmark : start.Begins (· = "") := ⟨hsegments.of_head hhead, htext⟩
    -- The mark in front is kept, so nothing is ever put in front of it.
    have hfront : ∀ {action : Action} {request scratch}, request.Begins (· = "") →
        action.WritesRooted request scratch →
        action.WritesRooted request scratch ∧ action.FrontsWith (· = "") request scratch := by
      intro action request scratch h hwrites
      refine ⟨hwrites, ?_⟩
      cases action with
      | insert index value =>
        intro _ hother
        obtain ⟨first, hfirst, rfl⟩ := h.path.head
        exact absurd hfirst hother
      | _ => trivial
    exact (hmark.reaches rootKind_empty hfront hreached).isRootedText rootKind_empty
  · intro reached hreached
    have hkind : start.Begins IsRootSegment := ⟨hsegments, htext⟩
    exact (hkind.reaches rootKind_isRootSegment (fun _ hallowed => hallowed) hreached).isRootedText
      rootKind_isRootSegment

/-- A relative path in front of which a segment with a slash was put. -/
def slashed : Request := (ofUrl "b").insertSegment 0 "/x"

/-- The path's text begins with a slash, and no longer so behind an element that is inserted at the front. -/
theorem unrooted_inserted :
    let env : Env := ⟨.execute, "/www", .discard, fun _ => .ok .file⟩
    let action : Action := .insert 0 (.literal "v")
    (ofUrl "b").Reaches Action.WritesRooted slashed ∧ slashed.Step Action.WritesRooted
        (action.perform env slashed .start).request ∧
      slashed.pathText = "/x/b" ∧ (action.perform env slashed .start).request.pathText = "v//x/b" := by
  intro env action
  refine ⟨.single ?_, ?_, by decide, by decide⟩
  · exact .perform env (.insert 0 (.literal "/x")) .start trivial trivial
  · exact .perform env action .start trivial trivial

/-- A request of whose path the only element was deleted. -/
def emptied : Request := (ofUrl "/a?x=1").delete (.pathElement (-1))

/-- The same request with elements added at the end and at the front of the path. -/
def rebuilt : Request := (emptied.append .path "b").insertSegment 0 "c/d"

theorem rooted_stays_rebuilt :
    ((ofUrl "/a?x=1").pathText = Path.join (ofUrl "/a?x=1").path ∧ IsRootedText (ofUrl "/a?x=1").pathText ∧
        (ofUrl "/a?x=1").path.head? = some "" ∧ (ofUrl "/a?x=1").Reaches Action.WritesRooted rebuilt) ∧
      rebuilt.path = ["", "c/d", "b"] ∧ IsRootedText rebuilt.pathText ∧
      (slashed.pathText = Path.join slashed.path ∧ IsRootedText slashed.pathText) ∧
      (slashed.insertSegment 0 "/y").path = ["/y", "/x", "b"] ∧
      IsRootedText (slashed.insertSegment 0 "/y").pathText := by
  let env : Env := ⟨.execute, "/www", .discard, fun _ => .ok .file⟩
  have htext : (ofUrl "/a?x=1").pathText = Path.join (ofUrl "/a?x=1").path := by decide
  have hrooted : IsRootedText (ofUrl "/a?x=1").pathText := by decide
  have hhead : (ofUrl "/a?x=1").path.head? = some "" := by decide
  have hemptied : (ofUrl "/a?x=1").Step Action.WritesRooted emptied :=
    .perform env (.delete (.pathElement (-1))) .start trivial trivial
  have hextended : emptied.Step Action.WritesRooted (emptied.append .path "b") :=
    .perform env (.append .path (.literal "b")) .start trivial trivial
  have hrebuilt : (emptied.append .path "b").Step Action.WritesRooted rebuilt :=
    .perform env (.insert 0 (.literal "c/d")) .start trivial trivial
  have hreached : (ofUrl "/a?x=1").Reaches Action.WritesRooted rebuilt :=
    .tail (.tail (.single hemptied) hextended) hrebuilt
  have hslashed : slashed.pathText = Path.join slashed.path ∧ IsRootedText slashed.pathText := by decide
  have hfronted : Path.IsRootSegment "/y" := .inr rfl
  refine ⟨⟨htext, hrooted, hhead, hreached⟩, by decide, ?_, hslashed, by decide, ?_⟩
  · exact (rooted_stays htext hrooted).1 hhead rebuilt hreached
  · refine (rooted_stays hslashed.1 hslashed.2).2 _ (.single ?_)
    exact .perform env (.insert 0 (.literal "/y")) .start trivial ⟨trivial, fun _ _ => hfronted⟩

end Request

end Reroute
