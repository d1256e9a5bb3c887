import Reroute.Proofs.Request.WorkingUrl
import Reroute.Proofs.Table

/-!
# Small names

The names of parameters, headers and server variables are kept in small ASCII letters, every name once.  They are put
into small letters where a request is put together and where a query text is read, targets carry them so, and every
other change only takes names away.  So they are small and unique at every moment of a walk
(`Moment.Lead.namesSmall`).
-/

namespace Reroute

/-- Names in small ASCII letters, every name once. -/
structure SmallNames (names : List String) : Prop where
  nodup : names.Nodup
  small : ∀ name ∈ names, Text.lowerAscii name = name

namespace SmallNames

variable {names others : List String}

private theorem nil : SmallNames [] := ⟨List.nodup_nil, by simp⟩

private theorem sublist (h : SmallNames names) (hsub : others.Sublist names) : SmallNames others :=
  ⟨h.nodup.sublist hsub, fun name hname => h.small name (hsub.subset hname)⟩

/-- A small name that is put behind the others unless it is among them. -/
private theorem enter (h : SmallNames names) {name : String} (hname : Text.lowerAscii name = name) :
    SmallNames (if name ∈ names then names else names ++ [name]) := by
  refine ⟨Table.nodup_enter h.nodup name, fun other hother => ?_⟩
  split at hother
  · exact h.small other hother
  · obtain hother | hother := List.mem_append.mp hother
    · exact h.small other hother
    · rw [List.mem_singleton.mp hother, hname]

end SmallNames

/-! ### Tables -/

namespace Query

private theorem names_set (name : String) (values : List String) (query : Query) :
    (query.set name values).map Prod.fst =
      if name ∈ query.map Prod.fst then query.map Prod.fst else query.map Prod.fst ++ [name] :=
  (writes_set name values).names query

private theorem smallNames_set {query : Query} (h : SmallNames (query.map Prod.fst)) {name : String}
    (hname : Text.lowerAscii name = name) (values : List String) :
    SmallNames ((query.set name values).map Prod.fst) := by
  rw [names_set]
  exact h.enter hname

/-- What is read from a query text has small names. -/
private theorem smallNames_parse (text : String) : SmallNames ((parse text).map Prod.fst) := by
  rw [parse_eq_foldl]
  refine List.foldlRecOn (motive := fun query : Query => SmallNames (query.map Prod.fst)) _ _ SmallNames.nil ?_
  intro query hquery text _
  rw [(writes_add _ _).names]
  exact hquery.enter (Text.lowerAscii_lowerAscii _)

end Query

namespace Entries

private theorem names_update (name : String) (f : Option String → String) (entries : Entries) :
    (entries.update name f).map Prod.fst =
      if name ∈ entries.map Prod.fst then entries.map Prod.fst else entries.map Prod.fst ++ [name] :=
  (writes_update name f).names entries

private theorem smallNames_update {entries : Entries} (h : SmallNames (entries.map Prod.fst)) (name : String)
    (f : Option String → String) : SmallNames ((entries.update (Text.lowerAscii name) f).map Prod.fst) := by
  rw [names_update]
  exact h.enter (Text.lowerAscii_lowerAscii name)

end Entries

namespace Fields

/-- Small names, now and before the first write. -/
structure NamesSmall (fields : Fields) : Prop where
  live : SmallNames (fields.live.map Prod.fst)
  firstState : SmallNames (fields.firstState.map Prod.fst)

namespace NamesSmall

variable {fields : Fields}

private theorem write (h : fields.NamesSmall) {f : Entries → Entries} (hf : SmallNames ((f fields.live).map Prod.fst)) :
    (fields.write f).NamesSmall := ⟨hf, h.firstState⟩

private theorem set (h : fields.NamesSmall) (name value : String) : (fields.set name value).NamesSmall :=
  h.write (Entries.smallNames_update h.live name _)

private theorem append (h : fields.NamesSmall) (name value : String) : (fields.append name value).NamesSmall :=
  h.write (Entries.smallNames_update h.live name _)

private theorem remove (h : fields.NamesSmall) (name : String) : (fields.remove name).NamesSmall :=
  h.write (h.live.sublist (List.filter_sublist.map _))

private theorem retain (h : fields.NamesSmall) (keep : String → Bool) : (fields.retain keep).NamesSmall :=
  h.write (h.live.sublist (List.filter_sublist.map _))

/-- Filling a table to which nothing was written yet. -/
private theorem seed (h : fields.NamesSmall) (hunwritten : fields.received = none) (name value : String) :
    (fields.seed name value).NamesSmall := by
  have hlive : SmallNames ((fields.seed name value).live.map Prod.fst) := Entries.smallNames_update h.live name _
  have hfirst : (fields.seed name value).firstState = (fields.seed name value).live := by
    simp [Fields.firstState, Fields.seed, hunwritten]
  exact ⟨hlive, hfirst ▸ hlive⟩

end NamesSmall

end Fields

/-! ### Requests -/

namespace Request

/-- Small names everywhere in a request. -/
structure NamesSmall (request : Request) : Prop where
  query : SmallNames (request.query.map Prod.fst)
  receivedQuery : SmallNames (request.receivedQuery.map Prod.fst)
  headers : request.headers.NamesSmall
  serverVariables : request.serverVariables.NamesSmall

theorem Fresh.namesSmall {request : Request} (h : request.Fresh) : request.NamesSmall := by
  induction h with
  | ofUrl url =>
    have hreceived : SmallNames ((Request.ofUrl url).receivedQuery.map Prod.fst) := by
      simp only [Request.ofUrl]
      exact Query.smallNames_parse _
    have hempty : Fields.empty.NamesSmall := ⟨.nil, .nil⟩
    refine ⟨?_, hreceived, hempty, hempty⟩
    rwa [(Fresh.ofUrl url).untouched.query_eq]
  | withHeader name value hfresh ih =>
    exact { ih with headers := ih.headers.seed hfresh.untouched.headers name value }
  | withVariable name value hfresh ih =>
    exact { ih with serverVariables := ih.serverVariables.seed hfresh.untouched.serverVariables name value }

/-- Requests put together in the same way, where names of headers and variables may differ in the case of ASCII
letters. -/
inductive SeededAlike : Request → Request → Prop
  | ofUrl (url : String) : SeededAlike (.ofUrl url) (.ofUrl url)
  | withHeader {name other : String} (value : String) {a b : Request}
      (hname : Text.lowerAscii name = Text.lowerAscii other) (h : SeededAlike a b) :
      SeededAlike (a.withHeader name value) (b.withHeader other value)
  | withVariable {name other : String} (value : String) {a b : Request}
      (hname : Text.lowerAscii name = Text.lowerAscii other) (h : SeededAlike a b) :
      SeededAlike (a.withVariable name value) (b.withVariable other value)

/-- The case of the names makes no difference to what is put together. -/
theorem SeededAlike.fresh_and_eq {a b : Request} (h : a.SeededAlike b) : a.Fresh ∧ a = b := by
  induction h with
  | ofUrl url => exact ⟨.ofUrl url, rfl⟩
  | withHeader value hname _ ih =>
    obtain ⟨hfresh, rfl⟩ := ih
    exact ⟨hfresh.withHeader _ value, by simp only [Request.withHeader, Fields.seed, hname]⟩
  | withVariable value hname _ ih =>
    obtain ⟨hfresh, rfl⟩ := ih
    exact ⟨hfresh.withVariable _ value, by simp only [Request.withVariable, Fields.seed, hname]⟩

/-- Heads with the same target and the same header lines, but for the case of the names. -/
theorem seededAlike_ofHead (target : UriTarget) {lines others : List HeaderLine}
    (h : List.Forall₂ (fun a b : HeaderLine => Text.lowerAscii a.name = Text.lowerAscii b.name ∧ a.value = b.value)
      lines others) : (ofHead target lines).SeededAlike (ofHead target others) := by
  have hlines : ∀ a b : Request, a.SeededAlike b →
      (lines.foldl Request.withLine a).SeededAlike (others.foldl Request.withLine b) := by
    induction h with
    | nil => exact fun _ _ hseeded => hseeded
    | @cons first second lines others hline _ ih =>
      refine fun a b hseeded => ih _ _ ?_
      obtain ⟨hname, hvalue⟩ := hline
      obtain ⟨-, rfl⟩ := hseeded.fresh_and_eq
      have hold : a.headers.get? first.name = a.headers.get? second.name := by simp only [Fields.get?, hname]
      have htext : first.text = second.text := by simp only [HeaderLine.text, hvalue]
      unfold Request.withLine
      rw [hold, htext]
      split <;> exact hseeded.withHeader _ hname
  exact hlines _ _ (.ofUrl _)

namespace NamesSmall

variable {request : Request}

private theorem modifyPath (h : request.NamesSmall) (f : List String → List String) :
    (request.modifyPath f).NamesSmall :=
  ⟨h.query, h.receivedQuery, h.headers, h.serverVariables⟩

private theorem setPathText (h : request.NamesSmall) (text : String) : (request.setPathText text).NamesSmall :=
  ⟨h.query, h.receivedQuery, h.headers, h.serverVariables⟩

private theorem modifyQuery (h : request.NamesSmall) {f : Query → Query}
    (hf : SmallNames ((f request.query).map Prod.fst)) :
    (request.modifyQuery f).NamesSmall := ⟨hf, h.receivedQuery, h.headers, h.serverVariables⟩

private theorem setQueryText (h : request.NamesSmall) (text : String) : (request.setQueryText text).NamesSmall :=
  ⟨Query.smallNames_parse text, h.receivedQuery, h.headers, h.serverVariables⟩

private theorem setUrl (h : request.NamesSmall) (url : String) : (request.setUrl url).NamesSmall :=
  (h.setPathText _).setQueryText _

private theorem modifyHeaders (h : request.NamesSmall) (f : Fields → Fields) (hf : (f request.headers).NamesSmall) :
    (request.modifyHeaders f).NamesSmall := ⟨h.query, h.receivedQuery, hf, h.serverVariables⟩

private theorem modifyVariables (h : request.NamesSmall) (f : Fields → Fields)
    (hf : (f request.serverVariables).NamesSmall) :
    (request.modifyVariables f).NamesSmall := ⟨h.query, h.receivedQuery, h.headers, hf⟩

private theorem setSegments (h : request.NamesSmall) (segments : List String) :
    (request.setSegments segments).NamesSmall := by
  unfold Request.setSegments
  split
  · exact h
  · exact h.modifyPath _

/-! ### Actions -/

private theorem replace (h : request.NamesSmall) {target : Target} (hmade : target.Made) (text : String) :
    (request.replace target text).NamesSmall := by
  cases target with
  | url => exact h.setUrl text
  | path => exact h.setPathText text
  | queryText => exact h.setQueryText text
  | pathElement index =>
    simp only [Request.replace]
    split
    · exact h.modifyPath _
    · exact h
  | parameter name => exact h.modifyQuery (Query.smallNames_set h.query hmade.parameter.2 _)
  | header name => exact h.modifyHeaders (·.set name text) (h.headers.set name text)
  | serverVariable name => exact h.modifyVariables (·.set name text) (h.serverVariables.set name text)

private theorem append (h : request.NamesSmall) {target : Target} (hmade : target.Made) (text : String) :
    (request.append target text).NamesSmall := by
  cases target with
  | url => exact h.setUrl _
  | path => exact h.setPathText _
  | queryText =>
    simp only [Request.append]
    split
    · exact h.setQueryText _
    · exact h
  | pathElement index =>
    simp only [Request.append]
    split
    · exact h.modifyPath _
    · exact h
  | parameter name => exact h.modifyQuery (Query.smallNames_set h.query hmade.parameter.2 _)
  | header name => exact h.modifyHeaders (·.append name text) (h.headers.append name text)
  | serverVariable name => exact h.modifyVariables (·.append name text) (h.serverVariables.append name text)

private theorem insertSegment (h : request.NamesSmall) (index : Int) (text : String) :
    (request.insertSegment index text).NamesSmall := by
  unfold Request.insertSegment
  split
  · exact h.modifyPath _
  · exact h

private theorem delete (h : request.NamesSmall) (target : Target) : (request.delete target).NamesSmall := by
  cases target with
  | url =>
    simp only [Request.delete]
    exact h.setUrl "/"
  | path => exact h.modifyPath _
  | queryText =>
    simp only [Request.delete]
    exact h.setQueryText ""
  | pathElement index =>
    simp only [Request.delete]
    split
    · exact h.modifyPath _
    · exact h
  | parameter name =>
    simp only [Request.delete]
    split
    · exact h.modifyQuery (h.query.sublist (List.filter_sublist.map _))
    · exact h
  | header name =>
    simp only [Request.delete]
    split
    · exact h.modifyHeaders _ (h.headers.remove name)
    · exact h
  | serverVariable name =>
    simp only [Request.delete]
    split
    · exact h.modifyVariables _ (h.serverVariables.remove name)
    · exact h

private theorem keep (h : request.NamesSmall) (list : AllowList) : (request.keep list).NamesSmall := by
  cases list with
  | elements indices => exact h.setSegments _
  | parameters names =>
    simp only [Request.keep]
    split
    · exact h
    · exact h.modifyQuery (h.query.sublist (List.filter_sublist.map _))
  | headers names =>
    simp only [Request.keep]
    split
    · exact h
    · exact h.modifyHeaders _ (h.headers.retain _)

private theorem truncate (h : request.NamesSmall) (depth : UInt64) : (request.truncate depth).NamesSmall := by
  unfold Request.truncate
  split
  · exact h.modifyPath _
  · exact h

private theorem schedule (h : request.NamesSmall) (env : Env) (answer : Deferred) :
    (env.schedule request answer).NamesSmall := by
  unfold Env.schedule
  split
  · exact ⟨h.query, h.receivedQuery, h.headers, h.serverVariables⟩
  · exact h

end NamesSmall

end Request

/-! ### Walks -/

/-- The target of the action, if it has one, is as an action is given it. -/
def Action.TargetMade : Action → Prop
  | .replace target _ | .append target _ | .delete target => target.Made
  | _ => True

/-- The action of the moment, if it is one, has a target as it is given one. -/
def Moment.TargetMade : Moment → Prop
  | .matched _ _ => True
  | .performed action _ _ => action.TargetMade

theorem Moment.targetMade_deepen {moment : Moment} (h : moment.TargetMade) : moment.deepen.TargetMade := by
  cases moment with
  | matched depth rule => trivial
  | performed action request scratch => exact h

/-- Actions of the host leave the names small. -/
def ExtensionLaw.keepsNames : ExtensionLaw where
  condition _ := True
  action action := ∀ request scratch, request.NamesSmall → (action.perform request scratch).2.1.NamesSmall

private theorem Request.NamesSmall.perform {request : Request} (h : request.NamesSmall) (env : Env) {action : Action}
    (hleaf : action.IsLeaf) (hlaw : action.Obeys .keepsNames) (hmade : action.TargetMade) (scratch : Scratch) :
    (action.perform env request scratch).request.NamesSmall := by
  cases action with
  | replace target value => exact h.replace hmade _
  | append target value => exact h.append hmade _
  | insert index value => exact h.insertSegment index _
  | delete target => exact h.delete target
  | keep list => exact h.keep list
  | normalize leading trailing => exact h.setSegments _
  | truncate depth => exact h.truncate depth
  | redirect answer => exact h.schedule env _
  | respond answer => exact h.schedule env _
  | abort => exact h
  | doNothing outcome => exact h
  | custom action => exact hlaw request scratch h
  | sequence steps => exact hleaf.elim
  | rules list => exact hleaf.elim

/-- Names that are small at the start are small on every request that an action is performed on, and on the last. -/
theorem Moment.Lead.namesSmall {env : Env} {start reached : Request} {moments : List Moment}
    (hlead : Lead env .keepsNames start moments reached) (hmade : ∀ moment ∈ moments, moment.TargetMade)
    (h : start.NamesSmall) :
    (∀ action request scratch, .performed action request scratch ∈ moments → request.NamesSmall) ∧
      reached.NamesSmall := by
  induction hlead with
  | nil request => exact ⟨fun _ _ _ hmem => absurd hmem List.not_mem_nil, h⟩
  | matched depth rule _ ih =>
    obtain ⟨hmoments, hreached⟩ := ih (fun moment hmem => hmade moment (List.mem_cons_of_mem _ hmem)) h
    refine ⟨fun action request scratch hmem => ?_, hreached⟩
    obtain heq | hmem := List.mem_cons.mp hmem
    · cases heq
    · exact hmoments action request scratch hmem
  | performed scratch hleaf hlaw _ ih =>
    have hnext := h.perform env hleaf hlaw (hmade _ List.mem_cons_self) scratch
    obtain ⟨hmoments, hreached⟩ := ih (fun moment hmem => hmade moment (List.mem_cons_of_mem _ hmem)) hnext
    refine ⟨fun action request scratch hmem => ?_, hreached⟩
    obtain heq | hmem := List.mem_cons.mp hmem
    · cases heq
      exact h
    · exact hmoments action request scratch hmem

end Reroute
