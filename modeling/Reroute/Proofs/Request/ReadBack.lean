import Reroute.Proofs.Request.Elements
import Reroute.Proofs.Request.Received
import Reroute.Proofs.Table
import Reroute.Proofs.Text.Basic
import Reroute.Proofs.Value.Read

/-!
# Reading back what was replaced

Targets and getters are made from the same scopes and indices, each in its own way, and they come to the same places
(`Target.make_cases`).  What a replacement writes to a place is read there again, and whatever reads another place reads
as before (`Target.replace_reads_back`).  The path and the query are written each for itself, and the URL is both.
-/

namespace Reroute

/-! ### Tables -/

private theorem Query.find?_set (name other : String) (values : List String) (query : Query) :
    (query.set name values).find? other = if name = other then some values else query.find? other :=
  (writes_set name values).find? other query

private theorem Entries.find?_update (name other : String) (f : Option String → String) (entries : Entries) :
    (entries.update name f).find? other =
      if name = other then some (f (entries.find? name)) else entries.find? other :=
  (writes_update name f).find? other entries

private theorem Query.parameter?_set {name other : String} {query : Query} (h : Text.lowerAscii other ≠ name)
    (values : List String) : (query.set name values).parameter? other = query.parameter? other := by
  rw [parameter?, find?_set, if_neg (Ne.symm h), parameter?]

private theorem Fields.get?_set {name other : String} (fields : Fields) (value : String) :
    (fields.set name value).get? other =
      if Text.lowerAscii name = Text.lowerAscii other then some value else fields.get? other :=
  Entries.find?_update _ _ _ _

/-! ### Targets and getters -/

namespace Target

/-- The getter reads the place that the target writes. -/
inductive IsReadBy : Target → Getter → Prop
  | url : IsReadBy .url ⟨.url, .nothing, []⟩
  | path : IsReadBy .path ⟨.path, .nothing, []⟩
  | queryText : IsReadBy .queryText ⟨.queryText, .nothing, []⟩
  | pathElement (index : Int) : IsReadBy (.pathElement index) ⟨.pathElement, .element index, []⟩
  | parameter (name : String) : IsReadBy (.parameter (Text.lowerAscii name)) ⟨.parameter, .name name, []⟩
  | header (name : String) : IsReadBy (.header (Text.lowerAscii name)) ⟨.header, .name name, []⟩
  | serverVariable (name : String) :
      IsReadBy (.serverVariable (Text.lowerAscii name)) ⟨.serverVariable, .name name, []⟩

/-- An empty index is no number, so it makes no difference whether it is dropped. -/
private theorem readInt?_filter_ne_empty (index : Option String) :
    (index.filter (· != "")).bind (Text.readInt? 32) = index.bind (Text.readInt? 32) := by
  cases index with
  | none => rfl
  | some text =>
    by_cases h : text = ""
    · subst h
      rfl
    · have hne : (text != "") = true := by simpa using h
      rw [Option.filter_some, if_pos hne]

/-- From a writable scope and an index a target and a getter of one place are made, or neither is. -/
theorem make_cases (action : String) {scope : Scope} (hscope : scope.isWritable) (index : Option String) :
    (∃ target getter, make action scope index = .ok target ∧ Getter.make scope index = .ok getter ∧
        target.IsReadBy getter) ∨
      (∃ fault, make action scope index = .error fault) ∧ ∃ fault, Getter.make scope index = .error fault := by
  cases scope with
  | url => exact .inl ⟨_, _, rfl, rfl, .url⟩
  | path => exact .inl ⟨_, _, rfl, rfl, .path⟩
  | queryText => exact .inl ⟨_, _, rfl, rfl, .queryText⟩
  | pathElement =>
    simp only [make, Getter.make, Scope.isReceived, Scope.isPathElement, readInt?_filter_ne_empty, if_true,
      Bool.false_eq_true, if_false]
    cases hnumber : (index.map Text.trim).bind (Text.readInt? 32) with
    | none => exact .inl ⟨_, _, rfl, rfl, .path⟩
    | some number =>
      by_cases hzero : number = 0
      · simp only [if_pos hzero]
        exact .inl ⟨_, _, rfl, rfl, .path⟩
      · simp only [if_neg hzero]
        exact .inl ⟨_, _, rfl, rfl, .pathElement number⟩
  | parameter =>
    rw [Getter.make_of_isNamed rfl]
    simp only [make, Scope.isReceived, Bool.false_eq_true, if_false]
    cases (index.map Text.trim).filter (· != "") with
    | none => exact .inr ⟨⟨_, rfl⟩, _, rfl⟩
    | some name => exact .inl ⟨_, _, rfl, rfl, .parameter name⟩
  | header =>
    rw [Getter.make_of_isNamed rfl]
    simp only [make, Scope.isReceived, Bool.false_eq_true, if_false]
    cases (index.map Text.trim).filter (· != "") with
    | none => exact .inr ⟨⟨_, rfl⟩, _, rfl⟩
    | some name => exact .inl ⟨_, _, rfl, rfl, .header name⟩
  | serverVariable =>
    rw [Getter.make_of_isNamed rfl]
    simp only [make, Scope.isReceived, Bool.false_eq_true, if_false]
    cases (index.map Text.trim).filter (· != "") with
    | none => exact .inr ⟨⟨_, rfl⟩, _, rfl⟩
    | some name => exact .inl ⟨_, _, rfl, rfl, .serverVariable name⟩
  | _ => cases hscope

/-! ### What is written -/

/-- The path is written. -/
def writesPath : Target → Bool
  | .url | .path | .pathElement _ => true
  | _ => false

/-- The query is written. -/
def writesQuery : Target → Bool
  | .url | .queryText | .parameter _ => true
  | _ => false

/-- The target can hold the text: a URL has no question mark, or something behind the first one, and an index addresses
an element. -/
def Holds (request : Request) (text : String) : Target → Prop
  | .url => '?' ∉ text.toList ∨ ∃ path query, text = path ++ "?" ++ query ∧ '?' ∉ path.toList ∧ query ≠ ""
  | .pathElement index => (Path.resolve? request.path index).isSome
  | _ => True

/-- A getter of such a scope and argument may read something else once the target is written.  Elements are told apart
by the positions that they are at, and names by their small letters. -/
def Touches (request : Request) (target : Target) (scope : Scope) (argument : Argument) : Prop :=
  match scope, argument with
  | .url, _ => target.writesPath ∨ target.writesQuery
  | .path, _ | .matchPath, _ => target.writesPath
  | .queryText, _ => target.writesQuery
  | .pathElement, .element other =>
    match target with
    | .pathElement index =>
      ∃ position, Path.resolve? request.path index = some position ∧ Path.resolve? request.path other = some position
    | target => target.writesPath
  | .parameter, .name other =>
    match target with
    | .parameter name => Text.lowerAscii name = Text.lowerAscii other
    | target => target.writesQuery
  | .header, .name other =>
    match target with
    | .header name => Text.lowerAscii name = Text.lowerAscii other
    | _ => False
  | .serverVariable, .name other =>
    match target with
    | .serverVariable name => Text.lowerAscii name = Text.lowerAscii other
    | _ => False
  | _, _ => False

end Target

namespace Request

variable {request : Request} {target : Target} {getter : Getter} {text : String}

/-! ### The place itself -/

private theorem pathText_setPathText (request : Request) (text : String) : (request.setPathText text).pathText = text :=
  Text.join_split rfl text

private theorem url_setUrl (request : Request) (h : Target.Holds request text .url) :
    (request.setUrl text).url = text := by
  have hurl : (request.setUrl text).url = composeUrl (splitUrl text).1 (splitUrl text).2 := by
    rw [← pathText_setPathText request (splitUrl text).1]
    rfl
  rw [hurl, splitUrl]
  obtain hmark | ⟨path, query, htext, hpath, hquery⟩ := h
  · rw [Text.cut?_eq_none.mpr hmark]
    rfl
  · have hcut : Text.cut? '?' text = some (path, query) := Text.cut?_eq_some.mpr ⟨by simp [htext], hpath⟩
    rw [hcut, htext]
    exact if_neg hquery

private theorem replace_pathElement {index : Int} {position : Nat}
    (h : Path.resolve? request.path index = some position)
    (text : String) : request.replace (.pathElement index) text = request.modifyPath (·.set position text) := by
  rw [replace, h]

private theorem replace_pathElement_of_none {index : Int} (h : Path.resolve? request.path index = none)
    (text : String) :
    request.replace (.pathElement index) text = request := by
  rw [replace, h]

/-- What was written is read. -/
private theorem read_replace (hread : target.IsReadBy getter) (htext : text ≠ "") (hholds : target.Holds request text)
    (scratch : Scratch) : getter.read (request.replace target text) scratch = text := by
  cases hread with
  | url => exact request.url_setUrl hholds
  | path => exact request.pathText_setPathText text
  | queryText => rfl
  | pathElement index =>
    obtain ⟨position, hposition⟩ := Option.isSome_iff_exists.mp hholds
    obtain ⟨-, -, hcount⟩ := Path.resolve?_eq_some.mp hposition
    have hsame : Path.resolve? (request.path.set position text) index = some position := by
      rw [Path.resolve?_set hcount htext, hposition]
    rw [replace_pathElement hposition]
    show Path.element (request.path.set position text) index = text
    rw [Path.element_of_resolve? hsame, List.getD_eq_getElem?_getD,
      List.getElem?_set_self (Path.lt_length_of_resolve? hposition), Option.getD_some]
  | parameter name =>
    have hfound : (request.query.set (Text.lowerAscii name) [text]).find? (Text.lowerAscii name) = some [text] := by
      rw [Query.find?_set, if_pos rfl]
    show ((request.query.set (Text.lowerAscii name) [text]).parameter? name).getD "" = text
    rw [Query.parameter?, hfound, Option.map_some, Option.getD_some]
    simp [Text.join, Text.joinChars]
  | header name =>
    show ((request.headers.set (Text.lowerAscii name) text).get? name).getD "" = text
    rw [Fields.get?_set, if_pos (Text.lowerAscii_lowerAscii name), Option.getD_some]
  | serverVariable name =>
    show ((request.serverVariables.set (Text.lowerAscii name) text).get? name).getD "" = text
    rw [Fields.get?_set, if_pos (Text.lowerAscii_lowerAscii name), Option.getD_some]

/-! ### Other places -/

private theorem path_replace (h : target.writesPath = false) (request : Request) (text : String) :
    (request.replace target text).path = request.path ∧ (request.replace target text).pathText = request.pathText := by
  cases target with
  | url | path | pathElement index => cases h
  | queryText | parameter name | header name | serverVariable name => exact ⟨rfl, rfl⟩

private theorem query_replace (h : target.writesQuery = false) (request : Request) (text : String) :
    (request.replace target text).query = request.query ∧
      (request.replace target text).queryText = request.queryText := by
  cases target with
  | url | queryText | parameter name => cases h
  | pathElement index =>
    simp only [replace]
    split <;> exact ⟨rfl, rfl⟩
  | path | header name | serverVariable name => exact ⟨rfl, rfl⟩

/-- An element that is not at the position that is written. -/
private theorem element_replace {index other : Int} (htext : text ≠ "")
    (h : ¬∃ position, Path.resolve? request.path index = some position ∧
      Path.resolve? request.path other = some position) :
    Path.element (request.replace (.pathElement index) text).path other = Path.element request.path other := by
  cases hposition : Path.resolve? request.path index with
  | none => rw [replace_pathElement_of_none hposition]
  | some position =>
    obtain ⟨-, -, hcount⟩ := Path.resolve?_eq_some.mp hposition
    rw [replace_pathElement hposition]
    show Path.element (request.path.set position text) other = Path.element request.path other
    unfold Path.element
    rw [Path.resolve?_set hcount htext]
    cases hother : Path.resolve? request.path other with
    | none => rfl
    | some place =>
      have hne : position ≠ place := fun heq => h ⟨position, hposition, heq ▸ hother⟩
      simp only [List.getD_eq_getElem?_getD, List.getElem?_set_ne hne]

/-- A position that is not written, and the number of segments. -/
private theorem getElem?_replace (request : Request) (index : Int) (text : String) :
    (request.replace (.pathElement index) text).path.length = request.path.length ∧
      ∀ position, Path.resolve? request.path index ≠ some position →
        (request.replace (.pathElement index) text).path[position]? = request.path[position]? := by
  cases hposition : Path.resolve? request.path index with
  | none =>
    rw [replace_pathElement_of_none hposition]
    exact ⟨rfl, fun _ _ => rfl⟩
  | some written =>
    rw [replace_pathElement hposition]
    show (request.path.set written text).length = _ ∧ ∀ position, _ → (request.path.set written text)[position]? = _
    exact ⟨List.length_set, fun position hne => List.getElem?_set_ne fun heq => hne (congrArg some heq)⟩

private theorem parameter?_replace {other : String} (h : ¬target.Touches request .parameter (.name other)) :
    (request.replace target text).parameter? other = request.parameter? other := by
  have hquery : target.writesQuery = false →
      (request.replace target text).parameter? other = request.parameter? other := by
    intro hquery
    rw [parameter?, (query_replace hquery request text).1, parameter?]
  cases target with
  | url | queryText => exact absurd rfl h
  | path | pathElement index | header name | serverVariable name => exact hquery rfl
  | parameter name =>
    refine Query.parameter?_set (fun heq => h ?_) [text]
    show Text.lowerAscii name = Text.lowerAscii other
    rw [← heq, Text.lowerAscii_lowerAscii]

private theorem headers_replace {other : String} (h : ¬target.Touches request .header (.name other)) :
    (request.replace target text).headers.get? other = request.headers.get? other := by
  cases target with
  | header name => exact (Fields.get?_set request.headers text).trans (if_neg h)
  | pathElement index =>
    simp only [replace]
    split <;> rfl
  | url | path | queryText | parameter name | serverVariable name => rfl

private theorem serverVariables_replace {other : String} (h : ¬target.Touches request .serverVariable (.name other)) :
    (request.replace target text).serverVariables.get? other = request.serverVariables.get? other := by
  cases target with
  | serverVariable name => exact (Fields.get?_set request.serverVariables text).trans (if_neg h)
  | pathElement index =>
    simp only [replace]
    split <;> rfl
  | url | path | queryText | parameter name | header name => rfl

/-- What is not touched reads as before. -/
private theorem read_replace_of_not_touches (htext : text ≠ "")
    (h : ¬target.Touches request getter.scope getter.argument) (scratch : Scratch) :
    getter.read (request.replace target text) scratch = getter.read request scratch := by
  obtain ⟨scope, argument, operations⟩ := getter
  by_cases hreceived : scope.isReceived
  · have hsame := (request.change_replace target text).sameReceived
    exact (Getter.read_received hsame hreceived (.refl argument) operations scratch scratch).symm
  have hpath : ¬(target.writesPath = true) → (request.replace target text).pathText = request.pathText :=
    fun hpath => (path_replace (Bool.eq_false_iff.mpr hpath) request text).2
  have hquery : ¬(target.writesQuery = true) → (request.replace target text).queryText = request.queryText :=
    fun hquery => (query_replace (Bool.eq_false_iff.mpr hquery) request text).2
  suffices hresolve : (Getter.mk scope argument operations).resolve (request.replace target text) scratch =
      (Getter.mk scope argument operations).resolve request scratch by
    rw [Getter.read, Getter.read, hresolve]
  cases scope with
  | url =>
    obtain ⟨hpath', hquery'⟩ := not_or.mp h
    simp only [Getter.resolve, url, hpath hpath', hquery hquery']
  | path => exact hpath h
  | matchPath => simp only [Getter.resolve, hpath h]
  | queryText => exact hquery h
  | pathElement =>
    cases argument with
    | element other =>
      have hpath' : ¬(target.writesPath = true) → (request.replace target text).path = request.path :=
        fun hpath => (path_replace (Bool.eq_false_iff.mpr hpath) request text).1
      cases target with
      | pathElement index => exact element_replace htext h
      | url | path => exact absurd rfl h
      | queryText | parameter name | header name | serverVariable name => rfl
    | nothing | group index | name other | text content => rfl
  | parameter =>
    cases argument with
    | name other => exact congrArg (·.getD "") (parameter?_replace h)
    | nothing | group index | element index | text content => rfl
  | header =>
    cases argument with
    | name other => exact congrArg (·.getD "") (headers_replace h)
    | nothing | group index | element index | text content => rfl
  | serverVariable =>
    cases argument with
    | name other => exact congrArg (·.getD "") (serverVariables_replace h)
    | nothing | group index | element index | text content => rfl
  | literal | matchGroup | conditionGroup => cases argument <;> rfl
  | _ => exact absurd rfl hreceived

end Request

/-! ### Replacing -/

/-- From a writable scope and an index a target is made exactly if a getter is.  The text that a replacement writes to
the target is read by the getter, if the target can hold it; and whatever the target does not touch reads as before. -/
theorem Target.replace_reads_back {scope : Scope} (hscope : scope.isWritable) (index : Option String) :
    ((∃ target, make "replace" scope index = .ok target) ↔ ∃ getter, Getter.make scope index = .ok getter) ∧
      ∀ target getter, make "replace" scope index = .ok target → Getter.make scope index = .ok getter →
        ∀ env (request : Request) text scratch, text ≠ "" →
          let replaced := (Action.perform env (.replace target (.literal text)) request scratch).request
          (target.Holds request text → ∀ later, getter.read replaced later = text) ∧
            (∀ other : Getter, ¬target.Touches request other.scope other.argument →
              ∀ later, other.read replaced later = other.read request later) ∧
            (target.writesPath = false → replaced.path = request.path) ∧
            (target.writesQuery = false → replaced.query = request.query) ∧
            ∀ element, target = .pathElement element →
              replaced.path.length = request.path.length ∧
                ∀ position, Path.resolve? request.path element ≠ some position →
                  replaced.path[position]? = request.path[position]? := by
  obtain ⟨target, getter, htarget, hgetter, hread⟩ | ⟨⟨fault, htarget⟩, fault', hgetter⟩ :=
    make_cases "replace" hscope index
  · refine ⟨iff_of_true ⟨target, htarget⟩ ⟨getter, hgetter⟩, ?_⟩
    intro target' getter' htarget' hgetter' env request text scratch htext
    rw [htarget] at htarget'
    rw [hgetter] at hgetter'
    cases htarget'
    cases hgetter'
    show let replaced := request.replace target text; _
    refine ⟨fun hholds => Request.read_replace hread htext hholds,
      fun other hother => Request.read_replace_of_not_touches htext hother,
      fun hpath => (Request.path_replace hpath request text).1,
      fun hquery => (Request.query_replace hquery request text).1, ?_⟩
    rintro element rfl
    exact request.getElem?_replace element text
  · rw [htarget, hgetter]
    simp

theorem Target.replace_reads_back_last :
    let env : Env := ⟨.execute, "/www", .discard, fun _ => .ok .file⟩
    let last : Getter := ⟨.pathElement, .element (-1), []⟩
    let request := Request.ofUrl "/a/b/?x=1"
    let replaced := (Action.perform env (.replace (.pathElement (-1)) (.literal "c/d")) request .start).request
    Scope.isWritable .pathElement ∧ make "replace" .pathElement (some " -1 ") = .ok (.pathElement (-1)) ∧
      Getter.make .pathElement (some " -1 ") = .ok last ∧ (Target.pathElement (-1)).Holds request "c/d" ∧
      last.read replaced .start = "c/d" ∧
      (Getter.mk .pathElement (.element 1) []).read replaced .start = "a" ∧
      (Getter.mk .parameter (.name "X") []).read replaced .start = "1" ∧
      replaced.path.length = 4 := by
  intro env last request replaced
  have htarget : make "replace" .pathElement (some " -1 ") = .ok (.pathElement (-1)) := rfl
  have hgetter : Getter.make .pathElement (some " -1 ") = .ok last := rfl
  have hholds : (Target.pathElement (-1)).Holds request "c/d" := rfl
  have hfirst : ¬(Target.pathElement (-1)).Touches request .pathElement (.element 1) := by
    rintro ⟨position, hlast, hfirst⟩
    have hone : some 1 = some position := hfirst
    cases hone
    exact absurd hlast (by decide)
  have hparameter : ¬(Target.pathElement (-1)).Touches request .parameter (.name "X") := Bool.false_ne_true
  have h := (@replace_reads_back .pathElement rfl (some " -1 ")).2 _ _ htarget hgetter env request "c/d" .start
    (by decide)
  obtain ⟨hread, hother, -, -, hpath⟩ := h
  refine ⟨rfl, htarget, hgetter, hholds, hread hholds .start, ?_, ?_, (hpath (-1) rfl).1⟩
  · exact (hother ⟨.pathElement, .element 1, []⟩ hfirst .start).trans (by decide)
  · exact (hother ⟨.parameter, .name "X", []⟩ hparameter .start).trans (by decide)

end Reroute
