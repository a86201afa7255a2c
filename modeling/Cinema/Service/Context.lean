import Cinema.Service.Error

/-!
# The context of a call

Each inbound call comes with a context: the caller's identity, a deadline, and a probe that tells
whether the caller has gone away. A method first guards its entry: a deadline already reached
answers "deadline exceeded", else a probe that answers true answers "canceled". Its one
collaborator call then races the deadline and the caller, whose leaving a watcher hears by asking
the probe at once and every 50 ms after. `Context.settle` ends the race at the first of the call
finishing, the deadline and the watcher hearing true, and records what the race does: the tasks
it cancels, the call it awaits, and the answer.
-/
namespace Cinema.Service

/-- When a call's time runs out. -/
inductive Deadline where
  | none
  /-- It has run out already when the call arrives. -/
  | passed
  /-- `ms` milliseconds after the call arrives. -/
  | after (ms : Nat)
  deriving DecidableEq, Repr

/-- What the disconnect probe answers, one question after another. -/
inductive Connection where
  | unwatched
  /-- The probe answers false to every question. -/
  | steady
  /-- The probe answers false to the first `checks` questions and true after that. -/
  | dropsAfter (checks : Nat)
  deriving DecidableEq, Repr

/-- The milliseconds left of a deadline when the call arrives; none when there is no deadline. -/
def Deadline.remaining : Deadline → Option Nat
  | .none => Option.none
  | .passed => some 0
  | .after ms => some ms

/-- The probe's answer to its question number `n`, counted from 0 at entry. -/
def Connection.answer : Connection → Nat → Bool
  | .unwatched, _ => false
  | .steady, _ => false
  | .dropsAfter checks, n => checks ≤ n

structure Context where
  identity : Option Int
  deadline : Deadline
  connection : Connection
  deriving DecidableEq, Repr

/-- The time between two questions of the watcher, in milliseconds. -/
def pollMs : Nat := 50

def RpcError.ofCode (code : Code) : RpcError := ⟨code, code.text⟩

def identityRequired : RpcError := ⟨.unauthenticated, "authenticated identity is required"⟩

namespace Context

def expired (ctx : Context) : Bool := ctx.deadline.remaining == some 0

/-- Whether the probe's first answer, asked at entry, is true. -/
def goneAtEntry (ctx : Context) : Bool := ctx.connection.answer 0

/-- The error the first two guards end a call with at entry, if any: a deadline run out, then a
caller gone. -/
def entryError? (ctx : Context) : Option RpcError :=
  if ctx.expired then some (.ofCode .deadlineExceeded)
  else if ctx.goneAtEntry then some (.ofCode .canceled)
  else none

/-- The time the watcher first hears true from the probe, in milliseconds after the call
started, if it ever does: the watcher's questions come after the one at entry. -/
def leaveMs? (ctx : Context) : Option Nat :=
  match ctx.connection with
  | .dropsAfter (k + 1) => some (pollMs * k)
  | _ => none

def watched (ctx : Context) : Bool := ctx.connection != .unwatched

end Context

/-- A task of the race: the collaborator call, or the watcher that asks the probe. -/
inductive Task where
  | call
  | watcher
  deriving DecidableEq, Repr

/-- What the race of a call does, in order. -/
inductive Effect where
  /-- The call finishes: the provider's reply comes in, or the store's procedure takes effect. -/
  | finish
  | cancel (task : Task)
  /-- The method waits until the cancelled call has ended. -/
  | awaitCall
  | answer
  deriving DecidableEq, Repr

/-- How the race of a call ends: the answer, none when it never ends, and what the race did. -/
structure Settled (α : Type) where
  answer : Option (Except RpcError α)
  effects : List Effect

def Settled.finished {α : Type} (s : Settled α) : Bool := s.effects.contains .finish

/-- Whether a moment comes no later than another, none standing for never. -/
def noLater : Option Nat → Option Nat → Bool
  | some a, some b => a ≤ b
  | some _, none => true
  | none, _ => false

namespace Context

def stopWatcher (ctx : Context) : List Effect := if ctx.watched then [.cancel .watcher] else []

/-- How a race ends that the call does not win: at the deadline or when the watcher hears true,
whichever comes first, the deadline at a tie; never when neither comes. -/
def interrupted {α : Type} (ctx : Context) : Settled α :=
  if noLater ctx.deadline.remaining ctx.leaveMs? then
    ⟨some (.error (.ofCode .deadlineExceeded)), .cancel .call :: ctx.stopWatcher ++ [.awaitCall, .answer]⟩
  else if ctx.leaveMs?.isSome then
    -- the watcher has ended by itself, hearing true
    ⟨some (.error (.ofCode .canceled)), [.cancel .call, .awaitCall, .answer]⟩
  else ⟨none, []⟩

/-- How a started call ends, given when it finishes, in milliseconds after it started, and how;
none when it never finishes. -/
def settle {α : Type} (ctx : Context) : Option (Nat × Except RpcError α) → Settled α
  | some (ms, outcome) =>
    if noLater (some ms) ctx.deadline.remaining && noLater (some ms) ctx.leaveMs? then
      ⟨some outcome, .finish :: ctx.stopWatcher ++ [.answer]⟩
    else ctx.interrupted
  | none => ctx.interrupted

@[simp]
theorem settle_at_start {α : Type} (ctx : Context) (outcome : Except RpcError α) :
    ctx.settle (some (0, outcome)) = ⟨some outcome, .finish :: ctx.stopWatcher ++ [.answer]⟩ := by
  have first : ∀ t, noLater (some 0) t = true := by
    intro t
    cases t <;> simp [noLater]
  simp [settle, first]

end Context

end Cinema.Service
