import Cinema.Service.Rpc

/-!
# Sessions

A session is a sequence of RPC steps over one store, which each step passes on to the next; the
store starts empty with its clock at 2024-01-01T00:00:00 UTC. A step names its method and brings
its request, its context and its surroundings; a step whose method is unknown or whose request
fails its checks leaves the store as it was.
-/

namespace Cinema.Service

open Cinema.Json Cinema.Reviews Cinema.Request

structure Step where
  method : String
  request : Value
  context : Context
  surroundings : Surroundings

inductive StepAnswer where
  | unknownMethod
  /-- The request failed its checks; nothing was called. -/
  | invalid (issues : List Issue)
  | ran (answer : Option (Except RpcError Response)) (calls : List Call)

def Step.run (s : Step) (store : Store) : StepAnswer × Store :=
  match Rpc.read s.method s.request with
  | none => (.unknownMethod, store)
  | some checked => match step s.surroundings s.context checked store with
    | .error issues => (.invalid issues, store)
    | .ok turn => (.ran turn.answer turn.calls, turn.store)

def runSteps : Store → List Step → List StepAnswer
  | _, [] => []
  | store, s :: rest =>
    let (answer, store') := s.run store
    answer :: runSteps store' rest

/-- The answers of a session's steps, run in order from the empty store. -/
def runSession (steps : List Step) : List StepAnswer := runSteps Store.initial steps

end Cinema.Service
