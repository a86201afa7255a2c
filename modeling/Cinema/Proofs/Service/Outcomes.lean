import Cinema.Proofs.Service.Guards

/-!
# How a finished call is answered

Once a method has passed its entry guards it makes its one call of a collaborator and races it
against the deadline and the caller. When the call finishes first, the method answers by what
the call did and by nothing else: the response built from what it returned; "not found" with
the collaborator's own text for a movie or a review that does not exist; "already exists" with
its text for a review that exists already; and "internal", whose message says nothing more, for
every other failure: a provider that failed or answered what cannot be read, a store error, a
value out of range, a request that could not be written. No other kind of error leaves a
method, and no part of a response is answered without the rest.

Over HTTP each code has a status of its own, and an internal error hides its message.

What the call returned or raised is `Work.outcome`; `Rpc.answer_eq_settle` factors every run
through it, and the main statement is `finished_call_answers_by_kind`.
-/

set_option autoImplicit false
set_option relaxedAutoImplicit false

namespace Cinema.Service

open Cinema.Reviews

/-- What a collaborator call raised: the failure of a catalog query, or of a repository
operation. -/
inductive Raised where
  | catalog (f : Catalog.Failure)
  | repository (f : Reviews.Failure)

namespace Raised

def message : Raised → String
  | .catalog f => f.message
  | .repository f => f.message

def isNotFound : Raised → Bool
  | .catalog (.movieNotFound _) | .repository (.notFound _ _) => true
  | _ => false

def isAlreadyExists : Raised → Bool
  | .repository (.alreadyExists _ _) => true
  | _ => false

def rpcError : Raised → RpcError
  | .catalog f => catalogError f
  | .repository f => repositoryError f

/-- The error is decided by the kind of failure alone: its text is kept for a missing movie or
review and for a review that exists already, and every other failure is internal. -/
theorem rpcError_eq (f : Raised) :
    f.rpcError =
      if f.isNotFound then ⟨.notFound, f.message⟩
      else if f.isAlreadyExists then ⟨.alreadyExists, f.message⟩
      else ⟨.internal, "internal"⟩ := by
  cases f with
  | catalog f => cases f <;> rfl
  | repository f => cases f <;> rfl

theorem not_isNotFound_of_isAlreadyExists {f : Raised} (exists_ : f.isAlreadyExists = true) :
    f.isNotFound = false := by
  cases f with
  | catalog f => cases exists_
  | repository f => cases f <;> simp_all [isAlreadyExists, isNotFound]

theorem rpcError_code_eq_notFound_iff (f : Raised) :
    f.rpcError.code = .notFound ↔ f.isNotFound = true := by
  rw [rpcError_eq]
  split
  · simp_all
  · split <;> simp_all

theorem rpcError_code_eq_alreadyExists_iff (f : Raised) :
    f.rpcError.code = .alreadyExists ↔ f.isAlreadyExists = true := by
  rw [rpcError_eq]
  split
  · -- a missing movie or review is never a review that exists already
    rename_i missing
    refine ⟨fun same => (by cases same), fun exists_ => ?_⟩
    rw [not_isNotFound_of_isAlreadyExists exists_] at missing
    cases missing
  · split <;> simp_all

theorem rpcError_of_other {f : Raised} (present : f.isNotFound = false)
    (fresh : f.isAlreadyExists = false) : f.rpcError = ⟨.internal, "internal"⟩ := by
  rw [rpcError_eq, present, fresh]
  rfl

theorem rpcError_message {f : Raised} (known : f.rpcError.code ≠ .internal) :
    f.rpcError.message = f.message := by
  rw [rpcError_eq] at known ⊢
  split
  · rfl
  · split
    · rfl
    · simp_all

end Raised

/-- What the collaborator call of a run returned, as the response built from it, or raised;
none when the call never finishes. A query whose request cannot be written raises before it is
sent. -/
def Work.outcome (env : Surroundings) (ctx : Context) (store : Store) :
    Work → Option (Except Raised Response)
  | .query q =>
    match q.request env.client with
    | .error f => some (.error (.catalog (.fault f)))
    | .ok _ => env.reply.map fun reply =>
      ((q.outcomeUnder env.images (queryCalls ctx) reply).map Response.catalog).mapError .catalog
  | .operation op =>
    (store.call env.disturbance op.procedure).1.map fun r =>
      ((op.outcome r).map operationResponse).mapError .repository

theorem mapError_mapError {ε ε' ε'' α : Type} (f : ε → ε') (g : ε' → ε'') (x : Except ε α) :
    (x.mapError f).mapError g = x.mapError (g ∘ f) := by
  cases x <;> rfl

theorem Work.start_finish_at_start (env : Surroundings) (ctx : Context) (store : Store) (w : Work) :
    (w.start env ctx 0 store).finish =
      (w.outcome env ctx store).map fun o => (0, o.mapError Raised.rpcError) := by
  cases w with
  | query q =>
    simp only [Work.start, Work.outcome]
    cases q.request env.client with
    | error f => rfl
    | ok req =>
      cases env.reply with
      | none => rfl
      | some reply =>
        -- `Raised.rpcError ∘ Raised.catalog` is `catalogError` by definition
        simp only [Option.map_some, mapError_mapError]
        rfl
  | operation op =>
    simp only [Work.start, Work.outcome]
    cases (store.call env.disturbance op.procedure).1 with
    | none => rfl
    | some r =>
      simp only [Option.map_some, mapError_mapError]
      rfl

/-- A run that passes its entry guards answers what its call did, mapped to an RPC error by
`Raised.rpcError`, as the race with the deadline and the caller settles it. -/
theorem Rpc.answer_eq_settle {rpc : Rpc} {env : Surroundings} {ctx : Context} {store : Store}
    {w : Work} (admitted : ctx.entryError? = none) (work : rpc.work? ctx.identity = some w) :
    (rpc.run env ctx store).answer =
      (ctx.settle ((w.outcome env ctx store).map fun o => (0, o.mapError Raised.rpcError))).answer := by
  rw [Rpc.run_of_work env store admitted work, Work.start_finish_at_start]

theorem Code.httpStatus_value (c : Code) :
    (c.httpStatus.value = 404 ↔ c = .notFound) ∧ (c.httpStatus.value = 409 ↔ c = .alreadyExists) ∧
    (c.httpStatus.value = 401 ↔ c = .unauthenticated) ∧ (c.httpStatus.value = 499 ↔ c = .canceled) ∧
    (c.httpStatus.value = 504 ↔ c = .deadlineExceeded) ∧ (c.httpStatus.value = 500 ↔ c = .internal) := by
  cases c <;> decide

/-- How each method answers once its call has finished, for every request, context, store and
collaborator. A call that returned answers the response built from its result. A call that
raised answers an RPC error: "not found" exactly for a missing movie or review and "already
exists" exactly for a review that exists already, each with the failure's own text; any other
failure answers "internal" with the message `internal`. Over HTTP every error answers the
status of its code (404, 409, 401, 499, 504, 500), the code's text, and its message, but for
an internal error, whose message is `internal_error`. -/
theorem finished_call_answers_by_kind (rpc : Rpc) (env : Surroundings) (ctx : Context)
    (store : Store) (w : Work) (o : Except Raised Response) (admitted : ctx.entryError? = none)
    (work : rpc.work? ctx.identity = some w) (finished : w.outcome env ctx store = some o) :
    (∀ r, o = .ok r → (rpc.run env ctx store).answer = some (.ok r)) ∧
    (∀ f, o = .error f → ∃ e, (rpc.run env ctx store).answer = some (.error e) ∧
      (e.code = .notFound ↔ f.isNotFound = true) ∧
      (e.code = .alreadyExists ↔ f.isAlreadyExists = true) ∧
      (f.isNotFound = false → f.isAlreadyExists = false → e = ⟨.internal, "internal"⟩) ∧
      (e.code ≠ .internal → e.message = f.message)) ∧
    (∀ e : RpcError, ((e.toHttp.status.value = 404 ↔ e.code = .notFound) ∧
      (e.toHttp.status.value = 409 ↔ e.code = .alreadyExists) ∧
      (e.toHttp.status.value = 401 ↔ e.code = .unauthenticated) ∧
      (e.toHttp.status.value = 499 ↔ e.code = .canceled) ∧
      (e.toHttp.status.value = 504 ↔ e.code = .deadlineExceeded) ∧
      (e.toHttp.status.value = 500 ↔ e.code = .internal)) ∧
      e.toHttp.code = e.code.text ∧
      e.toHttp.message = if e.code = .internal then "internal_error" else e.message) := by
  have answer : (rpc.run env ctx store).answer = some (o.mapError Raised.rpcError) := by
    rw [Rpc.answer_eq_settle admitted work, finished, Option.map_some, Context.settle_at_start]
  refine ⟨fun r returned => ?_, fun f raised => ?_, fun e => ⟨Code.httpStatus_value e.code, rfl, rfl⟩⟩
  · rw [answer, returned]
    rfl
  · refine ⟨f.rpcError, by rw [answer, raised]; rfl, f.rpcError_code_eq_notFound_iff,
      f.rpcError_code_eq_alreadyExists_iff, Raised.rpcError_of_other, Raised.rpcError_message⟩

/-- A caller's read of a review they never wrote finishes with "review not found" from the
repository, and the method answers "not found" with that text. -/
theorem missing_review_read_answers_not_found :
    (⟨some 1, .none, .unwatched⟩ : Context).entryError? = none ∧
    (Rpc.getReview ⟨7⟩).work? (some 1) = some (.operation (.get 1 7)) ∧
    (Work.operation (.get 1 7)).outcome ⟨{}, { apiKey := "key" }, none, .calm⟩
        ⟨some 1, .none, .unwatched⟩ Store.initial =
      some (.error (.repository (.notFound 1 7))) ∧
    ((Rpc.getReview ⟨7⟩).run ⟨{}, { apiKey := "key" }, none, .calm⟩ ⟨some 1, .none, .unwatched⟩
        Store.initial).answer =
      some (.error ⟨.notFound, "user movie review not found for the given user and movie"⟩) := by
  refine ⟨rfl, rfl, rfl, ?_⟩
  obtain ⟨e, answer, missing, -, -, kept⟩ :=
    (finished_call_answers_by_kind (.getReview ⟨7⟩) ⟨{}, { apiKey := "key" }, none, .calm⟩
      ⟨some 1, .none, .unwatched⟩ Store.initial _ _ rfl rfl rfl).2.1 _ rfl
  have code : e.code = .notFound := missing.mpr rfl
  have text : e.message = "user movie review not found for the given user and movie" :=
    kept (by rw [code]; decide)
  rw [answer]
  cases e
  simp_all

end Cinema.Service
