import Cinema.Json.Display
import Cinema.Fault
import Cinema.Provider.Url
import Cinema.Text.Wide

/-!
# Requests to the movie provider

Each catalog query sends one GET request: a path below the provider's base path and query
parameters. Parameters that are not set (`null`, the empty text, the empty list) are left out;
every other value goes out as given: `true` and `false` in lowercase, numbers in decimal, text as
it is, a list as one parameter per item under the same name. The API key is the last parameter,
unless a parameter of that name was given, whose place it then takes. The path is resolved as a
URL reference against the base path (see `resolveTarget`), and the parameters replace any query
it has. Every parameter name and value must be writable in UTF-8, so a lone surrogate half in one
is refused. The query is written as a form, and it may have at most 65536 characters, as may the
parts the request keeps from an absolute reference. The request names its host in ASCII; a host
in brackets is named as it is written, so a zone in it must be ASCII.
-/
namespace Cinema.Provider

open Cinema.Json

structure Request where
  path : String
  params : List (String × String)
  deriving DecidableEq, Repr

structure Client where
  apiKey : String
  basePath : String := "/3"
  deriving Repr

def isSet : Value → Bool
  | .null => false
  | .str s => !s.isEmpty
  | .arr items => !items.isEmpty
  | _ => true

/-- The parameters of a loose value that are set. A value that counts as false has none; an
object its set members; any other value has no members to take. -/
def setParams (params : Value) : Except Fault (List (String × Value)) :=
  if !params.truthy then .ok []
  else match params with
    | .obj fields => .ok (fields.filter fun kv => isSet kv.2)
    | other => .error (.noAttribute other.kindName "items")

def paramText : Value → String
  | .bool true => "true"
  | .bool false => "false"
  | .null => ""
  | v => v.display

def expandParam (kv : String × Value) : List (String × String) :=
  match kv.2 with
  | .arr items => items.map fun v => (kv.1, paramText v)
  | v => [(kv.1, paramText v)]

def firstHalves? (s : String) : Option (List Nat × Nat) :=
  firstRun? Text.Wide.isHalf (Text.Wide.codes s.toList)

/-- Checks that every name and value of the parameters can be written in UTF-8, name before
value, in order: the first run of lone surrogate halves is refused with its place in its text. -/
def checkWritable : List (String × String) → Except Fault Unit
  | [] => .ok ()
  | (k, v) :: rest =>
    match firstHalves? k, firstHalves? v with
    | some (run, i), _ => .error (.unencodable .utf8 run i)
    | none, some (run, i) => .error (.unencodable .utf8 run i)
    | none, none => checkWritable rest

/-- Checks that the host a request names can be written in ASCII. A host in brackets is named
as it is written, so its first run of code points past ASCII is refused with its place; any
other host is named by its ASCII form, and the client's own host is ASCII. -/
def checkHostName : Option (List Nat) → Except Fault Unit
  | some host =>
    if isBracketed host then
      match firstRun? (0x80 ≤ ·) host with
      | some (run, i) => .error (.unencodable .ascii run i)
      | none => .ok ()
    else .ok ()
  | none => .ok ()

/-- A text written in a form, as a query's names and values are: a space is `+`, an unreserved
character stays as it is, and any other character is written as its UTF-8 octets. -/
def formEncode (cs : List Char) : List Char :=
  cs.flatMap fun c => if c == ' ' then ['+'] else if isUnreserved c then [c] else percentOctets c

/-- The query that parameters are written as: each name and value, read as code points, written
in a form and joined by `=`, the pairs joined by `&`. -/
def queryText (kvs : List (String × String)) : List Char :=
  ['&'].intercalate (kvs.map fun kv =>
    formEncode ((Text.Wide.codes kv.1.toList).map Char.ofNat) ++
      '=' :: formEncode ((Text.Wide.codes kv.2.toList).map Char.ofNat))

/-- The request for a path and parameters: set parameters only, the API key last or in the
place of a given one, and the path resolved against the base path. The path is checked first,
then that the parameters can be written, then the written length of each part of the URL, then
the name of the host. -/
def Client.request (c : Client) (path : String) (params : List (String × Value)) :
    Except Fault Request := do
  let target ← resolveTarget c.basePath path
  let keyed := Value.setField (params.filter fun kv => isSet kv.2) "api_key" (.str c.apiKey)
  let sent := keyed.flatMap expandParam
  checkWritable sent
  checkWidths (target.leading ++ ("query", (queryText sent).length) :: target.trailing)
  checkHostName target.host
  pure { path := target.path, params := sent }

/-- The request for a path and parameters both given as loose values: the parameters must be an
object or count as false, and then the path must be text. -/
def Client.requestAt (c : Client) (path : Value) (params : Value) : Except Fault Request := do
  let kvs ← setParams params
  match path with
  | .str p => c.request p kvs
  | other => .error (.notUrl other.kindName other.quotedForm)

end Cinema.Provider
