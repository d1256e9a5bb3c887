import Reroute.Proofs.Request.Received

/-!
# What is remembered is not seen

A request remembers the written forms of its path and its query from one look to the next, and in the same place it
keeps a query text that was set as a whole.  A forgetful request has no such place: it holds the segments, the
parameters once they were copied, and the text of the last whole query for as long as that stands.  Whatever is read
and written in turn, both give the same answers (`Describes.answers`), and so reading has no effect on what is read
later (`Fresh.answers_forgetful`).
-/

namespace Reroute.Request

/-! ### Reading and writing in turn -/

/-- What is read of the path and the query. -/
inductive Read where
  | pathText
  | queryText
  | url
  | path
  | query
  | parameter (name : String)

/-- What is read. -/
inductive Answer where
  | text (content : String)
  | path (segments : List String)
  | query (parameters : Query)
  | parameter (values : Option String)
deriving DecidableEq, Repr

/-- What is written of the path and the query.  Segments and parameters are changed in place, and whoever changes them
may or may not tell. -/
inductive Write where
  | editPath (f : List String → List String)
  | pathChanged
  | setPathText (text : String)
  | editQuery (f : Query → Query)
  | queryChanged
  | setQueryText (text : String)
  | setUrl (url : String)

/-- A look at a request, or a change of it. -/
inductive Use where
  | read (what : Read)
  | write (what : Write)

/-- The answer to a read, and the request that remembers it. -/
def read (request : Request) : Read → Answer × Request
  | .pathText => request.readPathText.map .text id
  | .queryText => request.readQueryText.map .text id
  | .url => request.readUrl.map .text id
  | .path => (.path request.path, request)
  | .query => (.query request.query, request)
  | .parameter name => (.parameter (request.parameter? name), request)

/-- The request behind a write. -/
def write (request : Request) : Write → Request
  | .editPath f => request.editPath f
  | .pathChanged => request.pathChanged
  | .setPathText text => request.setPathText text
  | .editQuery f => request.editQuery f
  | .queryChanged => request.queryChanged
  | .setQueryText text => request.setQueryText text
  | .setUrl url => request.setUrl url

/-- The answers to the reads among uses. -/
def answers (request : Request) : List Use → List Answer
  | [] => []
  | .read what :: uses => (request.read what).1 :: (request.read what).2.answers uses
  | .write what :: uses => (request.write what).answers uses

/-! ### Requests that remember nothing -/

/-- A request that remembers no written form: the segments, the query as received, the parameters once they were
copied, and the text that the query was set from as a whole, for as long as it stands. -/
structure Forgetful where
  path : List String
  received : Query
  receivedText : String
  copied : Option Query
  whole : Option String

namespace Forgetful

/-- The forgetful form of a request that was not written yet. -/
def ofReceived (request : Request) : Forgetful :=
  ⟨request.receivedPath, request.receivedQuery, request.receivedQueryText, none, none⟩

variable (forgetful : Forgetful)

/-- The path's text is written from the segments. -/
def pathText : String := Path.join forgetful.path

/-- The parameters, copied or as received. -/
def query : Query := forgetful.copied.getD forgetful.received

/-- The query text: the one that was set as a whole, else that of the copied parameters, else the one received. -/
def queryText : String :=
  forgetful.whole.getD ((forgetful.copied.map Query.serialize).getD forgetful.receivedText)

/-- The answer to a read. -/
def read : Read → Answer
  | .pathText => .text forgetful.pathText
  | .queryText => .text forgetful.queryText
  | .url => .text (composeUrl forgetful.pathText forgetful.queryText)
  | .path => .path forgetful.path
  | .query => .query forgetful.query
  | .parameter name => .parameter (forgetful.query.parameter? name)

/-- Sets the path from its text. -/
def setPathText (text : String) : Forgetful := { forgetful with path := Path.split text }

/-- Sets the query from its text, which stands from now on. -/
def setQueryText (text : String) : Forgetful := { forgetful with copied := some (Query.parse text), whole := some text }

/-- The request behind a write. -/
def write : Write → Forgetful
  | .editPath f => { forgetful with path := f forgetful.path }
  | .pathChanged => forgetful
  | .setPathText text => forgetful.setPathText text
  | .editQuery f => { forgetful with copied := some (f forgetful.query), whole := none }
  | .queryChanged => { forgetful with whole := none }
  | .setQueryText text => forgetful.setQueryText text
  | .setUrl url => (forgetful.setPathText (splitUrl url).1).setQueryText (splitUrl url).2

/-- The answers to the reads among uses. -/
def answers (forgetful : Forgetful) : List Use → List Answer
  | [] => []
  | .read what :: uses => forgetful.read what :: forgetful.answers uses
  | .write what :: uses => (forgetful.write what).answers uses

/-- The request behind uses; only the writes change it. -/
def after (forgetful : Forgetful) : List Use → Forgetful
  | [] => forgetful
  | .read _ :: uses => forgetful.after uses
  | .write what :: uses => (forgetful.write what).after uses

private theorem answers_append (front back : List Use) :
    forgetful.answers (front ++ back) = forgetful.answers front ++ (forgetful.after front).answers back := by
  induction front generalizing forgetful with
  | nil => rfl
  | cons use front ih =>
    cases use with
    | read what => simp only [List.cons_append, answers, after, ih]
    | write what => simp only [List.cons_append, answers, after, ih]

/-- Leaving out a read leaves out its answer. -/
private theorem answers_without (front back : List Use) (what : Read) :
    (forgetful.answers (front ++ .read what :: back)).eraseIdx (forgetful.answers front).length =
      forgetful.answers (front ++ back) := by
  rw [answers_append, answers_append, answers, List.eraseIdx_append_of_length_le (Nat.le_refl _), Nat.sub_self]
  rfl

/-! ### Both say the same -/

/-- The forgetful request holds what the other one does, and would write what that one remembers. -/
structure Describes (request : Request) : Prop where
  path : request.path = forgetful.path
  received : request.receivedQuery = forgetful.received
  receivedText : request.receivedQueryText = forgetful.receivedText
  copied : request.workingQuery = forgetful.copied
  pathText : request.pathText = forgetful.pathText
  queryText : request.queryText = forgetful.queryText

namespace Describes

variable {forgetful : Forgetful} {request : Request}

private theorem query (h : forgetful.Describes request) : request.query = forgetful.query := by
  rw [Request.query, h.copied, h.received, Forgetful.query]

/-- With nothing remembered, a query is written from the parameters, or as it was received. -/
private theorem queryText_of_forgotten {request : Request} (h : request.queryMemo = none) :
    request.queryText = (request.workingQuery.map Query.serialize).getD request.receivedQueryText := by
  rw [Request.queryText, h]
  cases request.workingQuery <;> rfl

private theorem read (h : forgetful.Describes request) (what : Read) :
    (request.read what).1 = forgetful.read what ∧ forgetful.Describes (request.read what).2 := by
  cases what with
  | pathText => exact ⟨congrArg Answer.text h.pathText, { h with }⟩
  | queryText => exact ⟨congrArg Answer.text h.queryText, { h with }⟩
  | url => exact ⟨congrArg Answer.text (congrArg₂ composeUrl h.pathText h.queryText), { h with }⟩
  | path => exact ⟨congrArg Answer.path h.path, h⟩
  | query => exact ⟨congrArg Answer.query h.query, h⟩
  | parameter name => exact ⟨congrArg (fun query => Answer.parameter (Query.parameter? name query)) h.query, h⟩

private theorem setPathText (h : forgetful.Describes request) (text : String) :
    (forgetful.setPathText text).Describes (request.setPathText text) :=
  { h with path := rfl, pathText := rfl }

private theorem setQueryText (h : forgetful.Describes request) (text : String) :
    (forgetful.setQueryText text).Describes (request.setQueryText text) :=
  { h with copied := rfl, queryText := rfl }

private theorem write (h : forgetful.Describes request) (what : Write) :
    (forgetful.write what).Describes (request.write what) := by
  cases what with
  | editPath f =>
    have hpath : f request.path = f forgetful.path := congrArg f h.path
    exact { h with path := hpath, pathText := congrArg Path.join hpath }
  | pathChanged => exact { h with pathText := congrArg Path.join h.path }
  | setPathText text => exact h.setPathText text
  | editQuery f =>
    have hcopied : some (f request.query) = some (f forgetful.query) := by rw [h.query]
    exact { h with copied := hcopied, queryText := congrArg (fun query => Query.serialize (f query)) h.query }
  | queryChanged =>
    refine { h with queryText := ?_ }
    rw [queryText_of_forgotten rfl]
    exact congrArg₂ (fun copied text => (Option.map Query.serialize copied).getD text) h.copied h.receivedText
  | setQueryText text => exact h.setQueryText text
  | setUrl url => exact (h.setPathText _).setQueryText _

/-- What is remembered is not seen in any answer. -/
theorem answers (h : forgetful.Describes request) (uses : List Use) :
    request.answers uses = forgetful.answers uses := by
  induction uses generalizing forgetful request with
  | nil => rfl
  | cons use uses ih =>
    cases use with
    | read what =>
      obtain ⟨hanswer, hafter⟩ := h.read what
      rw [Request.answers, Forgetful.answers, hanswer, ih hafter]
    | write what => exact ih (h.write what)

end Describes

end Forgetful

private theorem Fresh.described {request : Request} (h : request.Fresh) :
    (Forgetful.ofReceived request).Describes request := by
  have huntouched := h.untouched
  exact ⟨huntouched.path_eq, rfl, rfl, huntouched.query, huntouched.pathText_eq, huntouched.queryText_eq⟩

/-- Reads and writes in turn are answered as without any memory, and a read has no effect but its own answer. -/
theorem Fresh.answers_forgetful {request : Request} (h : request.Fresh) :
    (∀ uses, request.answers uses = (Forgetful.ofReceived request).answers uses) ∧
      ∀ front back what, (request.answers (front ++ .read what :: back)).eraseIdx (request.answers front).length =
        request.answers (front ++ back) := by
  have hanswers : ∀ uses, request.answers uses = (Forgetful.ofReceived request).answers uses := h.described.answers
  refine ⟨hanswers, ?_⟩
  intro front back what
  rw [hanswers, hanswers, hanswers]
  exact Forgetful.answers_without _ front back what

/-- Changes told and not told, with every text read on the way. -/
def interleaved : List Use :=
  [.read .url, .write (.editQuery (Query.set "z" ["2"])), .read .queryText, .write (.setQueryText "Q=1&&"), .read .url,
    .write .queryChanged, .read .queryText, .write (.editPath fun segments => segments ++ ["c"]), .read .pathText,
    .write (.setUrl "/d?E"), .read (.parameter "e")]

theorem answers_forgetful_interleaved :
    (ofUrl "/a/b?X=1&&y").Fresh ∧
      (ofUrl "/a/b?X=1&&y").answers interleaved =
        [.text "/a/b?X=1&&y", .text "x=1&y&z=2", .text "/a/b?Q=1&&", .text "q=1", .text "/a/b/c",
          .parameter (some "")] ∧
      (ofUrl "/a/b?X=1&&y").answers interleaved = (Forgetful.ofReceived (ofUrl "/a/b?X=1&&y")).answers interleaved :=
  ⟨.ofUrl _, by decide, (Fresh.answers_forgetful (.ofUrl "/a/b?X=1&&y")).1 interleaved⟩

end Reroute.Request
