import Cinema.Service.Context
import Cinema.Catalog.Query
import Cinema.Reviews.Repository
import Cinema.Request.Review

/-!
# The RPC methods

The fifteen methods of the service: eleven catalog queries and four operations on the caller's
own reviews. A method's request is checked first; a request that passes becomes an `Rpc`.

Running an `Rpc` guards its entry (deadline, then caller, then for the review methods the
caller's identity), then makes exactly one call of a collaborator — a request to the provider or
a procedure call of the store — and races it against the deadline and the caller. The outcome
is answered as an RPC error by kind: a movie or review that does not exist is "not found" with
the domain's message, a review that exists already is "already exists", and every other failure
is "internal", whose message says nothing more.

A review method acts for the caller's identity and the movie of the request, never for a user
named in the request.
-/

namespace Cinema.Service

open Cinema.Json Cinema.Catalog Cinema.Reviews Cinema.Request

/-- A checked call of one of the fifteen methods. -/
inductive Rpc where
  | topRated (q : ListQuery)
  | popular (q : ListQuery)
  | nowPlaying (q : ListQuery)
  | upcoming (q : ListQuery)
  | similar (q : SimilarQuery)
  | search (q : SearchQuery)
  | discover (q : DiscoverQuery)
  | details (q : MovieQuery)
  | credits (q : MovieQuery)
  | reviews (q : ReviewsQuery)
  | genres (q : GenresQuery)
  | addReview (q : ReviewWrite)
  | updateReview (q : ReviewWrite)
  | deleteReview (q : ReviewKey)
  | getReview (q : ReviewKey)

/-- Checks the request of a method given by its name; none for a name of no method. -/
def Rpc.read (method : String) (request : Value) : Option (Checked Rpc) :=
  match method with
  | "GetTopRatedMovies" => some (Rpc.topRated <$> ListQuery.read request)
  | "GetPopularMovies" => some (Rpc.popular <$> ListQuery.read request)
  | "GetNowPlayingMovies" => some (Rpc.nowPlaying <$> ListQuery.read request)
  | "GetUpcomingMovies" => some (Rpc.upcoming <$> ListQuery.read request)
  | "SimilarMovies" => some (Rpc.similar <$> SimilarQuery.read request)
  | "SearchMovies" => some (Rpc.search <$> SearchQuery.read request)
  | "DiscoverMovies" => some (Rpc.discover <$> DiscoverQuery.read request)
  | "GetMovieDetails" => some (Rpc.details <$> MovieQuery.read request)
  | "GetMovieCredits" => some (Rpc.credits <$> MovieQuery.read request)
  | "GetMovieReviews" => some (Rpc.reviews <$> ReviewsQuery.read request)
  | "GetMovieGenres" => some (Rpc.genres <$> GenresQuery.read request)
  | "AddUserMovieReview" => some (Rpc.addReview <$> ReviewWrite.read request)
  | "UpdateUserMovieReview" => some (Rpc.updateReview <$> ReviewWrite.read request)
  | "DeleteUserMovieReview" => some (Rpc.deleteReview <$> ReviewKey.read request)
  | "GetUserMovieReview" => some (Rpc.getReview <$> ReviewKey.read request)
  | _ => none

def textArg : Option String → Value
  | some s => .str s
  | none => .null

def wholeArg : Option Int → Value
  | some n => .int n
  | none => .null

def flagArg : Option Bool → Value
  | some b => .bool b
  | none => .null

/-- The one collaborator call a method makes once admitted. -/
inductive Work where
  | query (q : Query)
  | operation (op : Operation)

/-- The collaborator call of a method for a caller's identity; none for a review method without
an identity. -/
def Rpc.work? (rpc : Rpc) (identity : Option Int) : Option Work :=
  match rpc with
  | .topRated q => some (.query (.topRated (textArg q.language) (wholeArg q.page) (textArg q.region)))
  | .popular q => some (.query (.popular (textArg q.language) (wholeArg q.page) (textArg q.region)))
  | .nowPlaying q =>
    some (.query (.nowPlaying (textArg q.language) (wholeArg q.page) (textArg q.region)))
  | .upcoming q => some (.query (.upcoming (textArg q.language) (wholeArg q.page) (textArg q.region)))
  | .similar q => some (.query (.similar (.int q.id) (textArg q.language) (wholeArg q.page)))
  | .search q =>
    some (.query (.search (.str q.query) (flagArg q.includeAdult) (textArg q.language)
      (wholeArg q.page) (textArg q.year) (textArg q.region) (textArg q.primaryReleaseYear)))
  | .discover q => some (.query (.discover q))
  | .details q => some (.query (.details (.int q.id) (textArg q.language)))
  | .credits q => some (.query (.credits (.int q.id) (textArg q.language)))
  | .reviews q => some (.query (.reviews (.int q.id) (textArg q.language) (wholeArg q.page)))
  | .genres q => some (.query (.genres (textArg q.language)))
  | .addReview q => identity.map fun u => .operation (.add u q.id q.rating q.review)
  | .updateReview q => identity.map fun u => .operation (.update u q.id q.rating q.review)
  | .deleteReview q => identity.map fun u => .operation (.delete u q.id)
  | .getReview q => identity.map fun u => .operation (.get u q.id)

inductive Response where
  | catalog (a : Answer)
  /-- A review was written or deleted; nothing more is said. -/
  | written
  | review (r : Review)

def Response.toValue : Response → Value
  | .catalog a => a.toValue
  | .written => .obj []
  | .review r => .obj [("user_review", r.toValue)]

inductive Call where
  | http (r : Provider.Request)
  | sql (p : Procedure)

/-- What a step meets besides the store: the image settings, the provider's client and reply
(none when it never comes), and the disturbance of the store. -/
structure Surroundings where
  images : ImageSettings
  client : Provider.Client
  reply : Option Provider.Reply
  disturbance : Disturbance

/-- The record of a step: the answer (none when the call never ends), the collaborator calls
made, and the store after it. -/
structure Turn where
  answer : Option (Except RpcError Response)
  calls : List Call
  store : Store

def catalogError : Catalog.Failure → RpcError
  | .movieNotFound id => ⟨.notFound, (Catalog.Failure.movieNotFound id).message⟩
  | _ => .ofCode .internal

def repositoryError : Reviews.Failure → RpcError
  | .notFound u m => ⟨.notFound, (Reviews.Failure.notFound u m).message⟩
  | .alreadyExists u m => ⟨.alreadyExists, (Reviews.Failure.alreadyExists u m).message⟩
  | _ => .ofCode .internal

def operationResponse : Option Review → Response
  | some r => .review r
  | none => .written

/-- The calls of its task that a catalog query runs under. A call with neither a deadline nor a
probe awaits the query in its own task, under the method's call and the two that run and bound
it; any other call runs the query as a task of its own, under no call. -/
def queryCalls (ctx : Context) : Nat :=
  if ctx.deadline == .none && ctx.connection == .unwatched then 3 else 0

/-- A collaborator call once made: the calls it made, when it finishes and how, in
milliseconds after it started (none when it never finishes), and the store once it has. -/
structure Started where
  calls : List Call
  finish : Option (Nat × Except RpcError Response)
  store : Store

/-- Makes a collaborator call whose collaborator answers `lag` milliseconds after it is called.
A query whose request cannot be written fails at once, before anything is sent. -/
def Work.start (w : Work) (env : Surroundings) (ctx : Context) (lag : Nat) (store : Store) :
    Started :=
  match w with
  | .query q =>
    match q.request env.client with
    | .error _ => ⟨[], some (0, .error (.ofCode .internal)), store⟩
    | .ok req =>
      ⟨[.http req], env.reply.map fun reply =>
        (lag, ((q.outcomeUnder env.images (queryCalls ctx) reply).map Response.catalog).mapError
          catalogError), store⟩
  | .operation op =>
    let (reply, store') := store.call env.disturbance op.procedure
    ⟨[.sql op.procedure],
      reply.map fun r => (lag, ((op.outcome r).map operationResponse).mapError repositoryError),
      store'⟩

/-- Runs a checked call in a context against the store, its collaborator answering `lag`
milliseconds after it is called: the turn, and what the race did. The store keeps what the call
wrote only when the call finished before the race ended. -/
def Rpc.race (rpc : Rpc) (env : Surroundings) (ctx : Context) (lag : Nat) (store : Store) :
    Turn × List Effect :=
  match ctx.entryError?, rpc.work? ctx.identity with
  | some e, _ => (⟨some (.error e), [], store⟩, [])
  | none, none => (⟨some (.error identityRequired), [], store⟩, [])
  | none, some w =>
    let started := w.start env ctx lag store
    let settled := ctx.settle started.finish
    (⟨settled.answer, started.calls, if settled.finished then started.store else store⟩,
      settled.effects)

/-- Runs a checked call in a context against the store, its collaborator answering at once or
never. -/
def Rpc.run (rpc : Rpc) (env : Surroundings) (ctx : Context) (store : Store) : Turn :=
  (rpc.race env ctx 0 store).1

section RunLemmas

variable {rpc : Rpc} {ctx : Context} (env : Surroundings) (lag : Nat) (store : Store)

theorem Rpc.race_of_entryError {e : RpcError} (stopped : ctx.entryError? = some e) :
    rpc.race env ctx lag store = (⟨some (.error e), [], store⟩, []) := by
  simp [Rpc.race, stopped]

theorem Rpc.race_of_work?_eq_none (admitted : ctx.entryError? = none)
    (nothing : rpc.work? ctx.identity = none) :
    rpc.race env ctx lag store = (⟨some (.error identityRequired), [], store⟩, []) := by
  simp [Rpc.race, admitted, nothing]

theorem Rpc.race_of_work {w : Work} (admitted : ctx.entryError? = none)
    (work : rpc.work? ctx.identity = some w) :
    rpc.race env ctx lag store =
      (⟨(ctx.settle (w.start env ctx lag store).finish).answer, (w.start env ctx lag store).calls,
        if (ctx.settle (w.start env ctx lag store).finish).finished then
          (w.start env ctx lag store).store else store⟩,
        (ctx.settle (w.start env ctx lag store).finish).effects) := by
  simp only [Rpc.race, admitted, work]

theorem Work.start_store_of_never {w : Work} (never : (w.start env ctx lag store).finish = none) :
    (w.start env ctx lag store).store = store := by
  cases w with
  | query q =>
    simp only [Work.start]
    split <;> rfl
  | operation op =>
    cases hung : env.disturbance with
    | hang => simp [Work.start, Store.call, hung]
    | fail e => simp [Work.start, Store.call, hung] at never
    | calm =>
      simp only [Work.start, Store.call, hung] at never
      split at never <;> simp at never

/-- A started call finishes, if it does, when its collaborator answers, unless its request could
not be written: then it fails at once, having sent nothing. -/
theorem Work.start_finish_time {w : Work} {ms : Nat} {o : Except RpcError Response}
    (finish : (w.start env ctx lag store).finish = some (ms, o)) :
    ms = lag ∨ (ms = 0 ∧ (w.start env ctx lag store).calls = []) := by
  cases w with
  | query q =>
    simp only [Work.start] at finish ⊢
    split at finish
    · cases finish
      exact .inr ⟨rfl, rfl⟩
    · obtain ⟨_, _, atLag⟩ := Option.map_eq_some_iff.mp finish
      exact .inl (congrArg Prod.fst atLag).symm
  | operation op =>
    simp only [Work.start] at finish
    obtain ⟨_, _, atLag⟩ := Option.map_eq_some_iff.mp finish
    exact .inl (congrArg Prod.fst atLag).symm

/-- A collaborator that answers at once: the call finishes first or never, and the store is
what the call left. -/
theorem Rpc.run_of_work {w : Work} (admitted : ctx.entryError? = none)
    (work : rpc.work? ctx.identity = some w) :
    rpc.run env ctx store =
      ⟨(ctx.settle (w.start env ctx 0 store).finish).answer, (w.start env ctx 0 store).calls,
        (w.start env ctx 0 store).store⟩ := by
  rw [Rpc.run, Rpc.race_of_work env 0 store admitted work]
  cases finish : (w.start env ctx 0 store).finish with
  | none => simp [Work.start_store_of_never env 0 store finish]
  | some call =>
    obtain ⟨ms, outcome⟩ := call
    -- with no lag the call can finish only at once
    have atOnce : ms = 0 := by
      rcases Work.start_finish_time env 0 store finish with atLag | ⟨atStart, -⟩
      · exact atLag
      · exact atStart
    subst atOnce
    simp [Context.settle_at_start, Settled.finished]

end RunLemmas

/-- A step of a session: the request is checked first, and a request that fails answers its
issues, calls nothing and leaves the store as it was. -/
def step (env : Surroundings) (ctx : Context) (checked : Checked Rpc) (store : Store) :
    Except (List Issue) Turn :=
  match checked with
  | .ok rpc => .ok (rpc.run env ctx store)
  | .bad issues => .error issues

end Cinema.Service
