import Reroute.Request.Deferred
import Reroute.Request.Fields
import Reroute.Request.Path
import Reroute.Request.Query

/-!
# Requests

A request holds its URL as received next to a working copy.  The working path and parameters come into being when
they are first changed and go their own way from then on.  The written forms of both are remembered until the next
change; a query text that was set as a whole is the written form of its parameters.
-/

namespace Reroute

/-- A request while rules look at it. -/
structure Request where
  receivedPath : List String
  receivedQuery : Query
  receivedQueryText : String
  workingPath : Option (List String)
  workingQuery : Option Query
  pathMemo : Option String
  queryMemo : Option String
  headers : Fields
  serverVariables : Fields
  modified : Bool
  deferred : List Deferred
deriving DecidableEq, Repr

namespace Request

/-- The path and query texts of a URL. -/
def splitUrl (url : String) : String × String := (Text.cut? '?' url).getD (url, "")

/-- The URL with a path and a query; an empty query leaves no question mark. -/
def composeUrl (path query : String) : String := if query = "" then path else path ++ "?" ++ query

/-- A request for a URL; an empty path is taken as `/`. -/
def ofUrl (url : String) : Request :=
  let (path, query) := splitUrl url
  { receivedPath := if path = "" then Path.root else Path.split path
    receivedQuery := Query.parse query
    receivedQueryText := query
    workingPath := none
    workingQuery := none
    pathMemo := none
    queryMemo := none
    headers := .empty
    serverVariables := .empty
    modified := false
    deferred := [] }

/-- Adds a header as received. -/
def withHeader (request : Request) (name value : String) : Request :=
  { request with headers := request.headers.seed name value }

/-- Adds a server variable as received. -/
def withVariable (request : Request) (name value : String) : Request :=
  { request with serverVariables := request.serverVariables.seed name value }

/-! ### As received -/

/-- The path's text as received. -/
def receivedPathText (request : Request) : String := Path.join request.receivedPath

/-- The URL as received. -/
def receivedUrl (request : Request) : String := composeUrl request.receivedPathText request.receivedQueryText

/-! ### The working path -/

/-- The segments of the path as it is now. -/
def path (request : Request) : List String := request.workingPath.getD request.receivedPath

/-- The path's text as it is now. -/
def pathText (request : Request) : String := request.pathMemo.getD (Path.join request.path)

/-- The path's text, remembered for the next time. -/
def readPathText (request : Request) : String × Request :=
  (request.pathText, { request with pathMemo := some request.pathText })

/-- Makes the segments ready for change in place, and changes them. -/
def editPath (request : Request) (f : List String → List String) : Request :=
  { request with workingPath := some (f request.path), pathMemo := none }

/-- Marks the path as changed. -/
def pathChanged (request : Request) : Request := { request with pathMemo := none, modified := true }

/-- Changes the segments. -/
def modifyPath (request : Request) (f : List String → List String) : Request := (request.editPath f).pathChanged

/-- Sets the path from its text. -/
def setPathText (request : Request) (text : String) : Request :=
  { request with workingPath := some (Path.split text) }.pathChanged

/-! ### The working query -/

/-- The parameters as they are now. -/
def query (request : Request) : Query := request.workingQuery.getD request.receivedQuery

/-- The query text as it is now. -/
def queryText (request : Request) : String :=
  match request.queryMemo, request.workingQuery with
  | some text, _ => text
  | none, some query => query.serialize
  | none, none => request.receivedQueryText

/-- The query text, remembered for the next time. -/
def readQueryText (request : Request) : String × Request :=
  (request.queryText, { request with queryMemo := some request.queryText })

/-- Makes the parameters ready for change in place, and changes them. -/
def editQuery (request : Request) (f : Query → Query) : Request :=
  { request with workingQuery := some (f request.query), queryMemo := none }

/-- Marks the parameters as changed. -/
def queryChanged (request : Request) : Request := { request with queryMemo := none, modified := true }

/-- Changes the parameters. -/
def modifyQuery (request : Request) (f : Query → Query) : Request := (request.editQuery f).queryChanged

/-- Sets the query from its text, which stays its written form until a parameter changes. -/
def setQueryText (request : Request) (text : String) : Request :=
  { request with workingQuery := some (Query.parse text), queryMemo := some text, modified := true }

/-- A parameter as it is now. -/
def parameter? (request : Request) (name : String) : Option String := request.query.parameter? name

/-- A parameter as received. -/
def receivedParameter? (request : Request) (name : String) : Option String := request.receivedQuery.parameter? name

/-! ### The working URL -/

/-- The URL as it is now. -/
def url (request : Request) : String := composeUrl request.pathText request.queryText

/-- The URL, both parts of it remembered for the next time. -/
def readUrl (request : Request) : String × Request :=
  let (path, request) := request.readPathText
  let (query, request) := request.readQueryText
  (composeUrl path query, request)

/-- Sets path and query from a URL. -/
def setUrl (request : Request) (url : String) : Request :=
  let (path, query) := splitUrl url
  (request.setPathText path).setQueryText query

/-! ### Headers, variables, deferred actions -/

/-- Changes the headers. -/
def modifyHeaders (request : Request) (f : Fields → Fields) : Request :=
  { request with headers := f request.headers, modified := true }

/-- Changes the server variables. -/
def modifyVariables (request : Request) (f : Fields → Fields) : Request :=
  { request with serverVariables := f request.serverVariables, modified := true }

/-- Puts an action at the end of the queue. -/
def defer (request : Request) (action : Deferred) : Request :=
  { request with deferred := request.deferred ++ [action] }

/-- The queued actions in order, and the request with an empty queue. -/
def takeDeferred (request : Request) : List Deferred × Request :=
  (request.deferred, { request with deferred := [] })

end Request

end Reroute
