import Cinema.Proofs.Json.Room
import Cinema.Catalog.Query

/-!
# How a catalog query ends

Each catalog query sends its one request and reads the provider's reply to it. A success
status, 200 to 299, whose body is a JSON object gives the query's entity read from that object.
A success whose body is no JSON, or JSON of another shape, fails to decode on the query's path. A
body nesting containers deeper than the room the query's task leaves for the reader stops the
reading instead, even when the same body read with more room is a JSON object. A status 404
means "movie not found" exactly for the four queries about one movie, and any other status fails
with the status, the path and the start of the body. A failed transport is named with the path,
and a failure inside the provider's handler passes through.

The main statement is `query_outcome_by_reply`; each of its parts is a lemma of its own below.
-/

set_option autoImplicit false
set_option relaxedAutoImplicit false

namespace Cinema.Catalog

open Cinema.Json Cinema.Provider

def Query.aboutOneMovie : Query → Bool
  | .similar .. | .details .. | .credits .. | .reviews .. => true
  | _ => false

theorem Query.movieId?_isSome (q : Query) : q.movieId?.isSome = q.aboutOneMovie := by
  cases q <;> rfl

/-- A query's reply is read with the room its task leaves: 984 nested containers for a query
about one movie, which looks the movie up first, 985 for the others. -/
theorem Query.room_eq (q : Query) :
    taskStack - q.calls = if q.aboutOneMovie then 984 else 985 := by
  cases q <;> rfl

def snippet (body : List UInt8) : String :=
  Text.Wide.take snippetLength (Text.decodeUtf8Lenient body)

section Outcome

variable (images : ImageSettings) (q : Query)

theorem Query.outcome_of_object {status : Nat} {body : List UInt8}
    {fields : List (String × Value)} (success : isSuccess status = true)
    (reads : readBytes (taskStack - q.calls) body = .ok (.obj fields)) :
    q.outcome images (.answered status body) = (q.answer images fields).mapError .fault := by
  simp only [Query.outcome, Query.outcomeUnder, Nat.zero_add, Reply.objectUnder, success, if_true,
    reads]

theorem Query.outcome_of_tooDeep {status : Nat} {body : List UInt8} {kind : Container}
    (success : isSuccess status = true)
    (deep : readBytes (taskStack - q.calls) body = .error (.tooDeep kind)) :
    q.outcome images (.answered status body) = .error (.provider (.tooDeep kind)) := by
  simp only [Query.outcome, Query.outcomeUnder, Nat.zero_add, Reply.objectUnder, success, if_true,
    deep]

theorem Query.outcome_of_malformed {status : Nat} {body : List UInt8}
    (success : isSuccess status = true)
    (malformed : readBytes (taskStack - q.calls) body = .error .malformed) :
    q.outcome images (.answered status body) = .error (.provider (.notJson q.path)) := by
  simp only [Query.outcome, Query.outcomeUnder, Nat.zero_add, Reply.objectUnder, success, if_true,
    malformed]

theorem Query.outcome_of_not_object {status : Nat} {body : List UInt8} {v : Value}
    (success : isSuccess status = true)
    (reads : readBytes (taskStack - q.calls) body = .ok v) (other : ∀ fields, v ≠ .obj fields) :
    q.outcome images (.answered status body) = .error (.provider (.notObject q.path)) := by
  -- the reading's second case needs the value not to be an object: `simp` discharges that
  -- side condition with `other`
  simp only [Query.outcome, Query.outcomeUnder, Nat.zero_add, Reply.objectUnder, success, if_true,
    reads]

theorem Query.objectUnder_not_found (body : List UInt8) :
    (Reply.answered 404 body).objectUnder q.calls q.path =
      .error (.status 404 q.path (snippet body)) := rfl

theorem Query.outcome_of_not_found {id : Value} (body : List UInt8) (about : q.movieId? = some id) :
    q.outcome images (.answered 404 body) = .error (.movieNotFound id) := by
  simp only [Query.outcome, Query.outcomeUnder, Nat.zero_add, q.objectUnder_not_found, about]

theorem Query.outcome_of_missing (body : List UInt8) (list : q.movieId? = none) :
    q.outcome images (.answered 404 body) =
      .error (.provider (.status 404 q.path (snippet body))) := by
  simp only [Query.outcome, Query.outcomeUnder, Nat.zero_add, q.objectUnder_not_found, list]

theorem Query.outcome_of_status {status : Nat} (body : List UInt8)
    (failed : isSuccess status = false) (other : status ≠ 404) :
    q.outcome images (.answered status body) =
      .error (.provider (.status status q.path (snippet body))) := by
  have answer : (Reply.answered status body).objectUnder q.calls q.path =
      .error (.status status q.path (snippet body)) := by
    simp only [Reply.objectUnder, failed, snippet]
    rfl
  simp only [Query.outcome, Query.outcomeUnder, Nat.zero_add, answer]
  split
  next _ same => cases same
  next _ _ same =>
    cases same
    exact absurd rfl other
  next _ _ same =>
    cases same
    rfl

theorem Query.outcome_of_transport (kind : String) :
    q.outcome images (.transportFailure kind) = .error (.provider (.transport kind q.path)) :=
  rfl

theorem Query.outcome_of_handler (message : String) :
    q.outcome images (.handlerFailure message) = .error (.provider (.handler message)) :=
  rfl

/-- A success whose body reads as a JSON object with any room gives the entity read from it
exactly when reading it with the task's room does not stop for depth. -/
theorem Query.outcome_eq_answer_iff {status : Nat} {body : List UInt8}
    {fields : List (String × Value)} {room : Nat} (success : isSuccess status = true)
    (reads : readBytes room body = .ok (.obj fields)) :
    q.outcome images (.answered status body) = (q.answer images fields).mapError .fault ↔
      ∀ kind, readBytes (taskStack - q.calls) body ≠ .error (.tooDeep kind) := by
  rcases readBytes_eq_ok_or_tooDeep (taskStack - q.calls) reads with fits | ⟨kind, deep⟩
  · have answered := q.outcome_of_object images success fits
    refine ⟨fun _ kind stopped => ?_, fun _ => answered⟩
    rw [fits] at stopped
    cases stopped
  · -- stopped for depth, the query fails on the provider's side, which no entity reading does
    rw [q.outcome_of_tooDeep images success deep]
    refine ⟨fun same => ?_, fun shallow => absurd deep (shallow kind)⟩
    cases answer : q.answer images fields with
    | ok a =>
      rw [answer] at same
      cases same
    | error f =>
      rw [answer] at same
      cases same

end Outcome

/-- How every catalog query ends, for all image settings, for every reply of the provider.
A success status whose body is a JSON object answers the entity read from it, exactly when the
body nests no deeper than the room the task leaves (984 or 985 containers); deeper, the reading
stops for depth. A success whose body is no JSON, or JSON of another shape, fails to decode on
the query's path. A 404 is "movie not found" for the movie a query is about, and only the four
queries about one movie are about one; any other status, a failed transport and a failed
handler fail on the provider's side. -/
theorem query_outcome_by_reply (images : ImageSettings) (q : Query) :
    (∀ status body fields room, isSuccess status = true →
      readBytes room body = .ok (.obj fields) →
      (q.outcome images (.answered status body) = (q.answer images fields).mapError .fault ↔
        ∀ kind, readBytes (taskStack - q.calls) body ≠ .error (.tooDeep kind))) ∧
    (∀ status body kind, isSuccess status = true →
      readBytes (taskStack - q.calls) body = .error (.tooDeep kind) →
      q.outcome images (.answered status body) = .error (.provider (.tooDeep kind))) ∧
    taskStack - q.calls = (if q.aboutOneMovie then 984 else 985) ∧
    (∀ status body, isSuccess status = true →
      readBytes (taskStack - q.calls) body = .error .malformed →
      q.outcome images (.answered status body) = .error (.provider (.notJson q.path)) ∧
      (Failure.provider (.notJson q.path)).message =
        "tmdb_decode_error: non-JSON body on " ++ q.path) ∧
    (∀ status body v, isSuccess status = true → readBytes (taskStack - q.calls) body = .ok v →
      (∀ fields, v ≠ .obj fields) →
      q.outcome images (.answered status body) = .error (.provider (.notObject q.path)) ∧
      (Failure.provider (.notObject q.path)).message =
        "tmdb_decode_error: unexpected JSON shape on " ++ q.path) ∧
    (∀ body id, q.movieId? = some id →
      q.outcome images (.answered 404 body) = .error (.movieNotFound id)) ∧
    (∀ body, q.movieId? = none →
      q.outcome images (.answered 404 body) =
        .error (.provider (.status 404 q.path (snippet body)))) ∧
    q.movieId?.isSome = q.aboutOneMovie ∧
    (∀ status body, isSuccess status = false → status ≠ 404 →
      q.outcome images (.answered status body) =
        .error (.provider (.status status q.path (snippet body)))) ∧
    (∀ kind, q.outcome images (.transportFailure kind) =
      .error (.provider (.transport kind q.path))) ∧
    (∀ message, q.outcome images (.handlerFailure message) =
      .error (.provider (.handler message))) := by
  refine ⟨fun _ _ _ _ success reads => q.outcome_eq_answer_iff images success reads,
    fun _ _ _ success deep => q.outcome_of_tooDeep images success deep, q.room_eq,
    fun _ _ success malformed => ⟨q.outcome_of_malformed images success malformed, rfl⟩,
    fun _ _ _ success reads other => ⟨q.outcome_of_not_object images success reads other, rfl⟩,
    fun body _ about => q.outcome_of_not_found images body about,
    fun body list => q.outcome_of_missing images body list, q.movieId?_isSome,
    fun _ body failed other => q.outcome_of_status images body failed other,
    q.outcome_of_transport images, q.outcome_of_handler images⟩

/-- A success whose body `<` is no JSON fails to decode on the path of the genre list. -/
theorem non_json_genre_list_fails_to_decode :
    isSuccess 200 = true ∧ readBytes (taskStack - (Query.genres .null).calls) [60] = .error .malformed ∧
      (Query.genres .null).outcome {} (.answered 200 [60]) =
        .error (.provider (.notJson "/genre/movie/list")) :=
  ⟨rfl, rfl, ((query_outcome_by_reply {} (.genres .null)).2.2.2.1 200 [60] rfl rfl).1⟩

end Cinema.Catalog
