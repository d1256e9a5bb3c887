import Reroute.Proofs.Rule.Changes
import Reroute.Request.Head

/-!
# What was received stays

A request keeps what it was received as in three ways: path, query and query text stand beside their working copies,
and the tables of headers and variables put their first state aside before the first write.  No change of a request
touches any of them (`Change.sameReceived`), so everything that is read of the request as received reads the same
wherever actions lead (`Fresh.received_stays`).
-/

namespace Reroute

/-! ### Fresh requests -/

/-- A request as it is put together: from a URL, then headers and variables. -/
inductive Request.Fresh : Request → Prop
  | ofUrl (url : String) : Fresh (.ofUrl url)
  | withHeader {request : Request} (name value : String) (h : Fresh request) : Fresh (request.withHeader name value)
  | withVariable {request : Request} (name value : String) (h : Fresh request) :
      Fresh (request.withVariable name value)

namespace Request

/-- A request of which nothing was written yet. -/
structure Untouched (request : Request) : Prop where
  path : request.workingPath = none
  query : request.workingQuery = none
  pathMemo : request.pathMemo = none
  queryMemo : request.queryMemo = none
  headers : request.headers.received = none
  serverVariables : request.serverVariables.received = none
  modified : request.modified = false

theorem Fresh.untouched {request : Request} (h : request.Fresh) : request.Untouched := by
  induction h with
  | ofUrl url => exact ⟨rfl, rfl, rfl, rfl, rfl, rfl, rfl⟩
  | withHeader name value _ ih => exact { ih with headers := ih.headers }
  | withVariable name value _ ih => exact { ih with serverVariables := ih.serverVariables }

namespace Untouched

variable {request : Request}

theorem path_eq (h : request.Untouched) : request.path = request.receivedPath := by
  rw [Request.path, h.path, Option.getD_none]

theorem query_eq (h : request.Untouched) : request.query = request.receivedQuery := by
  rw [Request.query, h.query, Option.getD_none]

theorem pathText_eq (h : request.Untouched) : request.pathText = request.receivedPathText := by
  rw [pathText, h.pathMemo, Option.getD_none, h.path_eq, receivedPathText]

theorem queryText_eq (h : request.Untouched) : request.queryText = request.receivedQueryText := by
  rw [queryText, h.queryMemo, h.query]

theorem url_eq (h : request.Untouched) : request.url = request.receivedUrl := by
  rw [url, h.pathText_eq, h.queryText_eq, receivedUrl]

end Untouched

private theorem Fresh.withLine {request : Request} (h : request.Fresh) (line : HeaderLine) :
    (request.withLine line).Fresh := by
  unfold Request.withLine
  split <;> exact h.withHeader _ _

/-- The request of a head is fresh. -/
theorem fresh_ofHead (target : UriTarget) (lines : List HeaderLine) : (ofHead target lines).Fresh := by
  have hlines : ∀ request : Request, request.Fresh → (lines.foldl Request.withLine request).Fresh := by
    induction lines with
    | nil => exact fun _ h => h
    | cons line lines ih => exact fun request h => ih _ (h.withLine line)
  exact hlines _ (.ofUrl _)

end Request

/-! ### What was received -/

/-- Writing a table leaves its first state. -/
@[simp] theorem Fields.firstState_write (fields : Fields) (f : Entries → Entries) :
    (fields.write f).firstState = fields.firstState := rfl

namespace Request

/-- Requests that were received as the same. -/
structure SameReceived (a b : Request) : Prop where
  path : a.receivedPath = b.receivedPath
  query : a.receivedQuery = b.receivedQuery
  queryText : a.receivedQueryText = b.receivedQueryText
  headers : a.headers.firstState = b.headers.firstState
  serverVariables : a.serverVariables.firstState = b.serverVariables.firstState

private theorem SameReceived.refl (a : Request) : a.SameReceived a := ⟨rfl, rfl, rfl, rfl, rfl⟩

private theorem SameReceived.trans {a b c : Request} (h : a.SameReceived b) (h' : b.SameReceived c) :
    a.SameReceived c :=
  ⟨h.path.trans h'.path, h.query.trans h'.query, h.queryText.trans h'.queryText, h.headers.trans h'.headers,
    h.serverVariables.trans h'.serverVariables⟩

theorem Change.sameReceived {a b : Request} (h : a.Change b) : a.SameReceived b := by
  cases h with
  | headers f => exact ⟨rfl, rfl, rfl, (Fields.firstState_write a.headers f).symm, rfl⟩
  | serverVariables f => exact ⟨rfl, rfl, rfl, rfl, (Fields.firstState_write a.serverVariables f).symm⟩
  | _ => exact ⟨rfl, rfl, rfl, rfl, rfl⟩

private theorem Reaches.sameReceived {allowed : Action → Request → Scratch → Prop} {start reached : Request}
    (h : start.Reaches allowed reached) : start.SameReceived reached :=
  h.related SameReceived.refl SameReceived.trans Change.sameReceived

end Request

/-! ### Reading what was received -/

/-- The scope of the same place as it is now. -/
def Scope.current : Scope → Scope
  | .receivedUrl => .url
  | .receivedPath => .path
  | .receivedQueryText => .queryText
  | .receivedPathElement => .pathElement
  | .receivedParameter => .parameter
  | .receivedHeader => .header
  | .receivedServerVariable => .serverVariable
  | scope => scope

/-- The same argument; names may differ in the case of ASCII letters. -/
def Argument.SameUpToCase : Argument → Argument → Prop
  | .name a, .name b => Text.lowerAscii a = Text.lowerAscii b
  | a, b => a = b

theorem Argument.SameUpToCase.refl (a : Argument) : a.SameUpToCase a := by
  cases a <;> rfl

namespace Getter

/-- A place of the request as received reads the same on every request that was received as the same, however its
name is spelled. -/
theorem read_received {a b : Request} (hsame : a.SameReceived b) {scope : Scope} (hscope : scope.isReceived)
    {argument other : Argument} (hname : argument.SameUpToCase other) (operations : List Operation)
    (scratch scratch' : Scratch) :
    (Getter.mk scope argument operations).read a scratch = (Getter.mk scope other operations).read b scratch' := by
  obtain ⟨hpath, hquery, hqueryText, hheaders, hvariables⟩ := hsame
  have hresolve : (Getter.mk scope argument operations).resolve a scratch =
      (Getter.mk scope other operations).resolve b scratch' := by
    cases argument <;> cases other <;> simp only [Argument.SameUpToCase, reduceCtorEq] at hname <;>
      cases scope <;> simp_all [Scope.isReceived, resolve, Request.receivedUrl, Request.receivedPathText,
        Request.receivedParameter?, Query.parameter?, Fields.received?]
  simp only [read, hresolve]

/-- Of an untouched request, what was received reads as what is there now. -/
private theorem read_current {request : Request} (h : request.Untouched) {scope : Scope} (hscope : scope.isReceived)
    (argument : Argument) (operations : List Operation) (scratch : Scratch) :
    (Getter.mk scope argument operations).read request scratch =
      (Getter.mk scope.current argument operations).read request scratch := by
  have hresolve : (Getter.mk scope argument operations).resolve request scratch =
      (Getter.mk scope.current argument operations).resolve request scratch := by
    cases scope <;> simp only [Scope.isReceived, Bool.false_eq_true] at hscope <;> cases argument <;>
      simp [resolve, Scope.current, h.url_eq, h.pathText_eq, h.path_eq, h.queryText_eq, Request.receivedParameter?,
        Request.parameter?, h.query_eq, Fields.received?, Fields.get?, Fields.firstState, h.headers, h.serverVariables]
  simp only [read, hresolve]

end Getter

/-! ### Wherever actions lead -/

namespace Request

/-- Every place as received reads the same on both requests, however its name is spelled. -/
def ReadsAlikeAsReceived (a b : Request) : Prop :=
  ∀ scope : Scope, scope.isReceived → ∀ argument other : Argument, argument.SameUpToCase other →
    ∀ operations scratch scratch',
      (Getter.mk scope argument operations).read a scratch = (Getter.mk scope other operations).read b scratch'

private theorem SameReceived.readsAlike {a b : Request} (h : a.SameReceived b) : a.ReadsAlikeAsReceived b :=
  fun _ hscope _ _ hname operations scratch scratch' => Getter.read_received h hscope hname operations scratch scratch'

/-- What was received reads at first as what is there, and for ever as it did at first. -/
theorem Fresh.received_stays {start : Request} (hfresh : start.Fresh) :
    (∀ scope : Scope, scope.isReceived → ∀ argument operations scratch,
        (Getter.mk scope argument operations).read start scratch =
          (Getter.mk scope.current argument operations).read start scratch) ∧
      (∀ reached, start.Reaches anyAction reached → start.ReadsAlikeAsReceived reached) ∧
      ∀ env outer (list : RuleList), list.Obeys .ownActions →
        start.ReadsAlikeAsReceived (list.walk env outer start).request := by
  refine ⟨?_, ?_, ?_⟩
  · intro scope hscope argument operations scratch
    exact Getter.read_current hfresh.untouched hscope argument operations scratch
  · intro reached hreached
    exact hreached.sameReceived.readsAlike
  · intro env outer list hlist
    exact (RuleList.reaches_walk env outer list start hlist).sameReceived.readsAlike

/-- A request with a header. -/
def withHost : Request := (ofUrl "/a/b?x=1").withHeader "Host" "one"

/-- Rules that delete the header, write the URL anew and append to the header that is no longer there. -/
def movingAway : RuleList :=
  ⟨"root", false, [⟨"away", false, false, none,
    some (.sequence [.delete (.header "host"), .replace .url (.literal "/c?y=2"),
      .append (.header "host") (.literal "two")])⟩]⟩

theorem received_stays_movingAway :
    let left := (movingAway.walk ⟨.execute, "/www", .discard, fun _ => .ok .file⟩ none withHost).request
    withHost.Fresh ∧ movingAway.Obeys .ownActions ∧
      (left.headers.get? "Host" = some "two" ∧ left.url = "/c?y=2") ∧
      (Getter.mk .receivedHeader (.name "HOST") []).read left .start = "one" ∧
      (Getter.mk .receivedPathElement (.element 2) []).read left .start = "b" := by
  have hfresh : withHost.Fresh := .withHeader "Host" "one" (.ofUrl "/a/b?x=1")
  have hlist : movingAway.Obeys .ownActions := by
    simp only [movingAway, RuleList.Obeys, Rule.AllObey, Rule.Obeys, Action.Obeys, Action.AllObey, and_self]
  have hname : Text.lowerAscii "host" = Text.lowerAscii "HOST" := by decide
  have h := (Fresh.received_stays hfresh).2.2 ⟨.execute, "/www", .discard, fun _ => .ok .file⟩ none movingAway hlist
  refine ⟨hfresh, hlist, by decide, ?_, ?_⟩
  · rw [← h .receivedHeader rfl (.name "host") (.name "HOST") hname [] .start .start]
    decide
  · rw [← h .receivedPathElement rfl (.element 2) (.element 2) rfl [] .start .start]
    decide

end Request

end Reroute
