import Cinema.Fault
import Cinema.Json.Display
/-!
# RPC errors and their HTTP form

Every failed RPC answers one of six codes with a message; the message is the code's own text
when the service gives none or an empty one. Over HTTP each code has a status: not found 404,
already exists 409, unauthenticated 401, canceled 499 (a client that closed the request, which
has no standard name), deadline exceeded 504, internal 500. An internal error never shows its
message outside, and an unauthenticated one asks for a bearer token.
-/

namespace Cinema.Service

inductive Code where
  | notFound
  | alreadyExists
  | unauthenticated
  | canceled
  | deadlineExceeded
  | internal
  deriving DecidableEq, Repr

def Code.text : Code → String
  | .notFound => "not_found"
  | .alreadyExists => "already_exists"
  | .unauthenticated => "unauthenticated"
  | .canceled => "canceled"
  | .deadlineExceeded => "deadline_exceeded"
  | .internal => "internal"

def Code.ofText? : String → Option Code
  | "not_found" => some .notFound
  | "already_exists" => some .alreadyExists
  | "unauthenticated" => some .unauthenticated
  | "canceled" => some .canceled
  | "deadline_exceeded" => some .deadlineExceeded
  | "internal" => some .internal
  | _ => none

/-- The code with a given wire text; any other text is refused, shown quoted. -/
def Code.read (s : String) : Except Fault Code :=
  match Code.ofText? s with
  | some c => .ok c
  | none => .error (.unknownCode (Json.quoted s))

structure RpcError where
  code : Code
  message : String
  deriving DecidableEq, Repr

/-- The error of a code, with the code's text as message when none or an empty one is given. -/
def RpcError.make (code : Code) (message : Option String) : RpcError :=
  match message with
  | some m => if m.isEmpty then ⟨code, code.text⟩ else ⟨code, m⟩
  | none => ⟨code, code.text⟩

structure HttpStatus where
  value : Nat
  name? : Option String
  deriving DecidableEq, Repr

structure HttpFailure where
  status : HttpStatus
  code : String
  message : String
  bearer : Bool
  deriving DecidableEq, Repr

def Code.httpStatus : Code → HttpStatus
  | .notFound => ⟨404, some "NOT_FOUND"⟩
  | .alreadyExists => ⟨409, some "CONFLICT"⟩
  | .unauthenticated => ⟨401, some "UNAUTHORIZED"⟩
  | .canceled => ⟨499, none⟩
  | .deadlineExceeded => ⟨504, some "GATEWAY_TIMEOUT"⟩
  | .internal => ⟨500, some "INTERNAL_SERVER_ERROR"⟩

def RpcError.toHttp (e : RpcError) : HttpFailure :=
  { status := e.code.httpStatus
    code := e.code.text
    message := if e.code = .internal then "internal_error" else e.message
    bearer := e.code = .unauthenticated }

end Cinema.Service
