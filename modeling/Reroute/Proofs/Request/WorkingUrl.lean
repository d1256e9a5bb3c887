import Reroute.Proofs.Request.PathText
import Reroute.Proofs.Request.QueryText
import Reroute.Proofs.Request.Received

/-!
# The working URL

A request carries its path and its query twice, as segments and parameters and as texts, and either may be the one
that was written last.  As long as what is written can stand where it is written (`Action.Plain`), both say the same
(`Coherent`), and the URL that the host is handed is read back as the request it was written from
(`Fresh.url_read_back`).
-/

namespace Reroute

/-! ### What may be written -/

/-- A target as an action is given it. -/
def Target.Made (target : Target) : Prop := ∃ action scope index, Target.make action scope index = .ok target

theorem Target.Made.parameter {name : String} (h : (Target.parameter name).Made) :
    name ≠ "" ∧ Text.lowerAscii name = name := by
  obtain ⟨action, scope, index, hmake⟩ := h
  cases scope <;>
    simp only [make, Scope.isReceived, Bool.false_eq_true, if_false, if_true, Except.ok.injEq, reduceCtorEq] at hmake
  case pathElement =>
    split at hmake
    · rw [Except.ok.injEq] at hmake
      split at hmake <;> cases hmake
    · cases hmake
  case header | serverVariable => split at hmake <;> cases hmake
  case parameter =>
    split at hmake
    · rename_i trimmed hindex
      obtain ⟨-, hne⟩ := Option.filter_eq_some_iff.mp hindex
      cases hmake
      exact ⟨by simpa [Text.lowerAscii_eq_empty] using hne, Text.lowerAscii_lowerAscii trimmed⟩
    · cases hmake

namespace Request

/-- The text can stand at the target, if it is written there at all: no slash or question mark in an element, no
question mark in a path, no separator in a parameter. -/
def Takes (request : Request) : Target → String → Prop
  | .path, text => '?' ∉ text.toList
  | .pathElement index, text => (Path.resolve? request.path index).isSome → Path.IsSegment text
  | .parameter name, text => '&' ∉ name.toList ∧ '=' ∉ name.toList ∧ '&' ∉ text.toList
  | _, _ => True

/-- The query text that is set as a whole where a target gets a new text. -/
def replacedQuery? : Target → String → Option String
  | .url, text => some (splitUrl text).2
  | .queryText, text => some text
  | _, _ => none

/-- The query text that is set as a whole where a text is put behind the one at a target. -/
def appendedQuery? (request : Request) : Target → String → Option String
  | .url, text => some (splitUrl (request.url ++ text)).2
  | .queryText, text => appendQuery? request.queryText text
  | _, _ => none

/-- A text that may be written to a target, where `whole` is the query text that this sets as a whole. -/
structure MayWrite (request : Request) (target : Target) (text : String) (whole : Option String) : Prop where
  made : target.Made
  takes : request.Takes target text
  noBareMark : ∀ query, whole = some query → Query.NoBareMark query

end Request

/-- What the action writes may be written where it is written. -/
def Action.Plain (action : Action) (request : Request) (scratch : Scratch) : Prop :=
  match action with
  | .replace target value =>
    let text := value.read request scratch
    request.MayWrite target text (Request.replacedQuery? target text)
  | .append target value =>
    let text := value.read request scratch
    request.MayWrite target text (request.appendedQuery? target text)
  | .insert index value =>
    (Path.resolveInsert? request.path index).isSome → Path.IsSegment (value.read request scratch)
  | _ => True

namespace Request

/-! ### What is written -/

private theorem Takes.isParameter {request : Request} {name text : String} (hmade : (Target.parameter name).Made)
    (htakes : request.Takes (.parameter name) text) {values : List String} (hne : values ≠ [])
    (hvalues : ∀ value ∈ values, '&' ∉ value.toList) : Query.IsParameter name values where
  isName := ⟨hmade.parameter.2, htakes.1, htakes.2.1⟩
  isValue value hvalue := ⟨hvalues value hvalue, fun hname => absurd hname hmade.parameter.1⟩
  ne_nil := hne

private theorem not_mem_appendPath {path text : String} (hpath : '?' ∉ path.toList) (htext : '?' ∉ text.toList) :
    '?' ∉ (appendPath path text).toList := by
  have hfront : '?' ∉ (Text.trimEndBy (· == '/') path).toList := fun h => hpath (Text.mem_of_mem_trimEndBy h)
  have hback : '?' ∉ (Text.trimStartBy (· == '/') text).toList := fun h => htext (Text.mem_of_mem_trimStartBy h)
  simp [appendPath, hfront, hback]

private theorem appendValue_ne_nil (text : String) (values : List String) : appendValue text values ≠ [] := by
  fun_cases appendValue text values <;> simp

private theorem not_mem_appendValue {c : Char} {text : String} (htext : c ∉ text.toList) {values : List String}
    (hvalues : ∀ value ∈ values, c ∉ value.toList) : ∀ value ∈ appendValue text values, c ∉ value.toList := by
  fun_induction appendValue text values with
  | case1 => simpa using htext
  | case2 value => simpa [htext] using hvalues
  | case3 value values hmore ih =>
    obtain ⟨hvalue, hvalues⟩ := List.forall_mem_cons.mp hvalues
    exact List.forall_mem_cons.mpr ⟨hvalue, ih hvalues⟩

/-! ### Both forms say the same -/

/-- Path and query as they can be written, and texts that say the same. -/
structure Coherent (request : Request) : Prop where
  path : Path.Canonical request.path
  pathText : request.pathText = Path.join request.path
  query : request.query.Canonical
  queryText : Query.parse request.queryText = request.query

private theorem splitUrl_composeUrl {path : String} (h : '?' ∉ path.toList) (query : String) :
    splitUrl (composeUrl path query) = (path, query) := by
  unfold composeUrl
  split
  · rename_i hquery
    rw [splitUrl, Text.cut?_eq_none.mpr h, hquery]
    rfl
  · have hcut : Text.cut? '?' (path ++ "?" ++ query) = some (path, query) := Text.cut?_eq_some.mpr ⟨by simp, h⟩
    rw [splitUrl, hcut]
    rfl

private theorem not_mem_splitUrl (url : String) : '?' ∉ (splitUrl url).1.toList := by
  unfold splitUrl
  cases hcut : Text.cut? '?' url with
  | none => exact Text.cut?_eq_none.mp hcut
  | some cut => exact (Text.cut?_eq_some.mp hcut).2

namespace Coherent

variable {request : Request}

private theorem not_mem_pathText (h : request.Coherent) : '?' ∉ request.pathText.toList := by
  rw [h.pathText]
  exact h.path.not_mem_join

/-- The URL of a coherent request is read back as what it was written from; an empty path cannot be told from
`/`. -/
private theorem read_back (h : request.Coherent) (hpath : request.pathText ≠ "") :
    (ofUrl request.url).path = request.path ∧ (ofUrl request.url).query = request.query := by
  have hsplit : splitUrl request.url = (request.pathText, request.queryText) :=
    splitUrl_composeUrl h.not_mem_pathText _
  constructor
  · simp only [ofUrl, hsplit, if_neg hpath]
    rw [h.pathText, h.path.split_join]
    rfl
  · simp only [ofUrl, hsplit]
    exact h.queryText

/-! ### Changes -/

private theorem modifyPath (h : request.Coherent) {f : List String → List String}
    (hpath : Path.Canonical (f request.path)) :
    (request.modifyPath f).Coherent := ⟨hpath, rfl, h.query, h.queryText⟩

private theorem setPathText (h : request.Coherent) {text : String} (hmark : '?' ∉ text.toList) :
    (request.setPathText text).Coherent := ⟨Path.canonical_split hmark, rfl, h.query, h.queryText⟩

private theorem modifyQuery (h : request.Coherent) {f : Query → Query} (hquery : (f request.query).Canonical) :
    (request.modifyQuery f).Coherent := ⟨h.path, h.pathText, hquery, Query.parse_serialize hquery⟩

private theorem setQueryText (h : request.Coherent) {text : String} (hmark : Query.NoBareMark text) :
    (request.setQueryText text).Coherent := ⟨h.path, h.pathText, Query.canonical_parse hmark, rfl⟩

private theorem setUrl (h : request.Coherent) {url : String} (hmark : Query.NoBareMark (splitUrl url).2) :
    (request.setUrl url).Coherent := (h.setPathText (not_mem_splitUrl url)).setQueryText hmark

private theorem modifyHeaders (h : request.Coherent) (f : Fields → Fields) : (request.modifyHeaders f).Coherent :=
  ⟨h.path, h.pathText, h.query, h.queryText⟩

private theorem modifyVariables (h : request.Coherent) (f : Fields → Fields) : (request.modifyVariables f).Coherent :=
  ⟨h.path, h.pathText, h.query, h.queryText⟩

private theorem withQueue (h : request.Coherent) (queue : List Deferred) : (request.withQueue queue).Coherent :=
  ⟨h.path, h.pathText, h.query, h.queryText⟩

private theorem setSegments (h : request.Coherent) {segments : List String} (hsegments : Path.Canonical segments) :
    (request.setSegments segments).Coherent := by
  unfold Request.setSegments
  split
  · exact h
  · exact h.modifyPath hsegments

/-! ### Actions -/

private theorem replace (h : request.Coherent) {target : Target} {text : String}
    (hwrite : request.MayWrite target text (replacedQuery? target text)) : (request.replace target text).Coherent := by
  obtain ⟨hmade, htakes, hmark⟩ := hwrite
  cases target with
  | url => exact h.setUrl (hmark _ rfl)
  | path => exact h.setPathText htakes
  | queryText => exact h.setQueryText (hmark _ rfl)
  | pathElement index =>
    simp only [Request.replace]
    split
    · rename_i position hposition
      exact h.modifyPath (h.path.set position (htakes (by simp [hposition])))
    · exact h
  | parameter name =>
    have hparameter := Takes.isParameter hmade htakes (List.cons_ne_nil text []) (by simpa using htakes.2.2)
    exact h.modifyQuery (h.query.set hparameter)
  | header name => exact h.modifyHeaders (·.set name text)
  | serverVariable name => exact h.modifyVariables (·.set name text)

private theorem append (h : request.Coherent) {target : Target} {text : String}
    (hwrite : request.MayWrite target text (request.appendedQuery? target text)) :
    (request.append target text).Coherent := by
  obtain ⟨hmade, htakes, hmark⟩ := hwrite
  cases target with
  | url => exact h.setUrl (hmark _ rfl)
  | path => exact h.setPathText (not_mem_appendPath h.not_mem_pathText htakes)
  | queryText =>
    simp only [Request.append]
    split
    · rename_i query hquery
      exact h.setQueryText (hmark query hquery)
    · exact h
  | pathElement index =>
    simp only [Request.append]
    split
    · rename_i position hposition
      exact h.modifyPath (h.path.modify position (htakes (by simp [hposition])))
    · exact h
  | parameter name =>
    have hold : ∀ value ∈ (request.query.find? name).getD [], '&' ∉ value.toList :=
      fun value hvalue => (h.query.isValue_of_mem hvalue).ampersand
    have hparameter := Takes.isParameter hmade htakes (appendValue_ne_nil text _) (not_mem_appendValue htakes.2.2 hold)
    exact h.modifyQuery (h.query.set hparameter)
  | header name => exact h.modifyHeaders (·.append name text)
  | serverVariable name => exact h.modifyVariables (·.append name text)

private theorem insertSegment (h : request.Coherent) {index : Int} {text : String}
    (htext : (Path.resolveInsert? request.path index).isSome → Path.IsSegment text) :
    (request.insertSegment index text).Coherent := by
  unfold Request.insertSegment
  split
  · rename_i position hposition
    exact h.modifyPath (h.path.insertIdx position (htext (by simp [hposition])))
  · exact h

private theorem delete (h : request.Coherent) (target : Target) : (request.delete target).Coherent := by
  have hempty : Query.NoBareMark "" := by decide
  have hroot : splitUrl "/" = ("/", "") := by decide
  cases target with
  | url =>
    simp only [Request.delete]
    exact h.setUrl (hroot ▸ hempty)
  | path =>
    simp only [Request.delete]
    exact h.modifyPath Path.canonical_root
  | queryText =>
    simp only [Request.delete]
    exact h.setQueryText hempty
  | pathElement index =>
    simp only [Request.delete]
    split
    · exact h.modifyPath (h.path.ensureRoot fun _ hsegment => List.mem_of_mem_eraseIdx hsegment)
    · exact h
  | parameter name =>
    simp only [Request.delete]
    split
    · exact h.modifyQuery (h.query.filter _)
    · exact h
  | header name =>
    simp only [Request.delete]
    split
    · exact h.modifyHeaders _
    · exact h
  | serverVariable name =>
    simp only [Request.delete]
    split
    · exact h.modifyVariables _
    · exact h

private theorem keep (h : request.Coherent) (list : AllowList) : (request.keep list).Coherent := by
  cases list with
  | elements indices => exact h.setSegments (h.path.ensureRoot fun _ => Path.mem_of_mem_select)
  | parameters names =>
    simp only [Request.keep]
    split
    · exact h
    · exact h.modifyQuery (h.query.filter _)
  | headers names =>
    simp only [Request.keep]
    split
    · exact h
    · exact h.modifyHeaders _

private theorem truncate (h : request.Coherent) (depth : UInt64) : (request.truncate depth).Coherent := by
  unfold Request.truncate
  split
  · rename_i segments hsegments
    exact h.modifyPath (h.path.truncate? hsegments)
  · exact h

private theorem schedule (h : request.Coherent) (env : Env) (answer : Deferred) :
    (env.schedule request answer).Coherent := by
  unfold Env.schedule
  split
  · exact h.withQueue _
  · exact h

private theorem perform (h : request.Coherent) (env : Env) {action : Action} (hsingle : action.IsSingle)
    {scratch : Scratch}
    (hplain : action.Plain request scratch) : (action.perform env request scratch).request.Coherent := by
  cases action with
  | replace target value => exact h.replace hplain
  | append target value => exact h.append hplain
  | insert index value => exact h.insertSegment hplain
  | delete target => exact h.delete target
  | keep list => exact h.keep list
  | normalize leading trailing => exact h.setSegments (h.path.normalize leading trailing)
  | truncate depth => exact h.truncate depth
  | redirect answer => exact h.schedule env _
  | respond answer => exact h.schedule env _
  | abort => exact h
  | doNothing outcome => exact h
  | custom action => exact hsingle.elim
  | sequence steps => exact hsingle.elim
  | rules list => exact hsingle.elim

end Coherent

/-! ### From the host and back -/

/-- What happens to a request between two looks of the host: a plain action is performed, or a written form is read
and remembered. -/
inductive PlainStep (request : Request) : Request → Prop
  | perform {changed : Request} (h : request.Step Action.Plain changed) : PlainStep request changed
  | readPathText : PlainStep request request.readPathText.2
  | readQueryText : PlainStep request request.readQueryText.2

private theorem PlainStep.coherent {request changed : Request} (hstep : request.PlainStep changed)
    (h : request.Coherent) :
    changed.Coherent := by
  cases hstep with
  | perform hstep =>
    obtain ⟨env, action, scratch, hsingle, hplain⟩ := hstep
    exact h.perform env hsingle hplain
  | readPathText => exact ⟨h.path, h.pathText, h.query, h.queryText⟩
  | readQueryText => exact ⟨h.path, h.pathText, h.query, h.queryText⟩

theorem Fresh.received_canonical {request : Request} (h : request.Fresh) :
    Path.Canonical request.receivedPath ∧ request.receivedQuery = Query.parse request.receivedQueryText := by
  induction h with
  | ofUrl url =>
    simp only [Request.ofUrl, and_true]
    split
    · exact Path.canonical_root
    · exact Path.canonical_split (not_mem_splitUrl url)
  | withHeader name value _ ih => exact ih
  | withVariable name value _ ih => exact ih

private theorem Fresh.coherent {request : Request} (h : request.Fresh)
    (hmark : Query.NoBareMark request.receivedQueryText) :
    request.Coherent := by
  obtain ⟨hpath, hquery⟩ := h.received_canonical
  have huntouched := h.untouched
  refine ⟨?_, ?_, ?_, ?_⟩
  · rwa [huntouched.path_eq]
  · rw [huntouched.pathText_eq, huntouched.path_eq, receivedPathText]
  · rw [huntouched.query_eq, hquery]
    exact Query.canonical_parse hmark
  · rw [huntouched.queryText_eq, huntouched.query_eq, hquery]

/-- Wherever plain actions lead, the URL is read back as the path and the parameters that are there. -/
theorem Fresh.url_read_back {start reached : Request} (hfresh : start.Fresh)
    (hmark : Query.NoBareMark start.receivedQueryText) (hreached : Relation.ReflTransGen PlainStep start reached)
    (hpath : reached.pathText ≠ "") :
    (Request.ofUrl reached.url).path = reached.path ∧ (Request.ofUrl reached.url).query = reached.query := by
  have hcoherent : reached.Coherent := by
    clear hpath
    induction hreached with
    | refl => exact hfresh.coherent hmark
    | tail _ hstep ih => exact hstep.coherent ih
  exact hcoherent.read_back hpath

/-- A request of which a parameter was replaced. -/
def replaced : Request := (ofUrl "/a/b?x=1&Y=2").replace (.parameter "y") "a=b"

/-- A request whose query text was appended to after it had been read. -/
def appended : Request := replaced.readQueryText.2.append .queryText "&&q=3"

theorem url_read_back_rewritten :
    (ofUrl "/a/b?x=1&Y=2").Fresh ∧ Query.NoBareMark (ofUrl "/a/b?x=1&Y=2").receivedQueryText ∧
      Relation.ReflTransGen PlainStep (ofUrl "/a/b?x=1&Y=2") (appended.insertSegment 0 "new") ∧
      (appended.insertSegment 0 "new").url = "/new/a/b?x=1&y=a=b&q=3" ∧
      (ofUrl "/new/a/b?x=1&y=a=b&q=3").path = ["", "new", "a", "b"] ∧
      (ofUrl "/new/a/b?x=1&y=a=b&q=3").query = [("x", ["1"]), ("y", ["a=b"]), ("q", ["3"])] := by
  let env : Env := ⟨.execute, "/www", .discard, fun _ => .ok .file⟩
  have hfresh : (ofUrl "/a/b?x=1&Y=2").Fresh := .ofUrl _
  have hmark : Query.NoBareMark (ofUrl "/a/b?x=1&Y=2").receivedQueryText := by decide
  have hreplaced : PlainStep (ofUrl "/a/b?x=1&Y=2") replaced :=
    .perform (.perform env (.replace (.parameter "y") (.literal "a=b")) .start (by trivial)
      ⟨⟨"replace", .parameter, some "y", rfl⟩, ⟨by decide, by decide, by decide⟩, by simp [replacedQuery?]⟩)
  have happended : PlainStep replaced.readQueryText.2 appended :=
    .perform (.perform env (.append .queryText (.literal "&&q=3")) .start (by trivial)
      ⟨⟨"append", .queryText, none, rfl⟩, trivial, by decide⟩)
  have hinserted : PlainStep appended (appended.insertSegment 0 "new") :=
    .perform (.perform env (.insert 0 (.literal "new")) .start (by trivial) fun _ => ⟨by decide, by decide⟩)
  have hreached : Relation.ReflTransGen PlainStep (ofUrl "/a/b?x=1&Y=2") (appended.insertSegment 0 "new") :=
    .tail (.tail (.tail (.tail .refl hreplaced) .readQueryText) happended) hinserted
  have hurl : (appended.insertSegment 0 "new").url = "/new/a/b?x=1&y=a=b&q=3" := by decide
  obtain ⟨hpath, hquery⟩ := hfresh.url_read_back hmark hreached (by decide)
  rw [hurl] at hpath hquery
  exact ⟨hfresh, hmark, hreached, hurl, hpath.trans (by decide), hquery.trans (by decide)⟩

end Request

end Reroute
