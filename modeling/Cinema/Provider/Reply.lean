import Cinema.Json.Bytes
import Cinema.Text.Encoding

/-!
# Replies of the movie provider

What came back for one request, and what the client makes of it. A status from 200 to 299 is
success, and its body must be a JSON object; a body that is no JSON, or JSON of another shape,
fails to decode, and a body nesting containers deeper than the reader goes stops the client. Any
other status fails with the status and the first 400 characters of the body read as lenient
UTF-8. A failure of the transport is named by its kind. A failure inside the provider's handler
is passed on unchanged, as the client does not know it.

How deep the reader goes depends on where it is called. A task starts with `taskStack` levels of
call stack; every call between the start of the task and the reader takes one, the client's own
request included, and the reader takes one for every container it is inside. A caller's own
call of this library starts a task.
-/

namespace Cinema.Provider

open Cinema.Json

/-- What the provider did with a request. -/
inductive Reply where
  | answered (status : Nat) (body : List UInt8)
  /-- The transport failed; `kind` names how (`ConnectError`, `ReadTimeout`, …). -/
  | transportFailure (kind : String)
  | handlerFailure (message : String)
  deriving Repr

/-- Why a request gave no JSON object. `path` is the request's path below the base path. -/
inductive Failure where
  | transport (kind path : String)
  | status (code : Nat) (path snippet : String)
  | notJson (path : String)
  | notObject (path : String)
  | handler (message : String)
  | tooDeep (kind : Container)
  deriving DecidableEq, Repr

def Failure.message : Failure → String
  | .transport kind path => "tmdb_transport_error: " ++ kind ++ " on " ++ path
  | .status code path _ => "tmdb_http_error: " ++ toString code ++ " on " ++ path
  | .notJson path => "tmdb_decode_error: non-JSON body on " ++ path
  | .notObject path => "tmdb_decode_error: unexpected JSON shape on " ++ path
  | .handler message => message
  | .tooDeep kind =>
    "maximum recursion depth exceeded while decoding a JSON " ++ kind.name ++ " from a unicode string"

/-- The number of characters of a body kept with a failed status. -/
def snippetLength : Nat := 400

def isSuccess (status : Nat) : Bool := 200 ≤ status && status < 300

/-- The levels of call stack a task starts with, shared by its calls and the reader. -/
def taskStack : Nat := 987

/-- The JSON object of a reply to a request for `path`, read under `calls` calls counted from the
start of the task, the client's request included. -/
def Reply.objectUnder (calls : Nat) (path : String) : Reply → Except Failure (List (String × Value))
  | .answered status body =>
    if isSuccess status then
      match readBytes (taskStack - calls) body with
      | .ok (.obj fields) => .ok fields
      | .ok _ => .error (.notObject path)
      | .error .malformed => .error (.notJson path)
      | .error (.tooDeep kind) => .error (.tooDeep kind)
    else .error (.status status path (Text.Wide.take snippetLength (Text.decodeUtf8Lenient body)))
  | .transportFailure kind => .error (.transport kind path)
  | .handlerFailure message => .error (.handler message)

/-- The JSON object of a reply to a request the caller sent through the client itself: the
request is the only call above the reader. -/
def Reply.object (path : String) (reply : Reply) : Except Failure (List (String × Value)) :=
  reply.objectUnder 1 path

end Cinema.Provider
