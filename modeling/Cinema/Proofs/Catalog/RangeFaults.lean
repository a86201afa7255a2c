import Cinema.Proofs.Binary64.Overflow
import Cinema.Catalog.Query

/-!
# When reading a provider record stops

Reading an entity from a provider record takes every JSON value as the record and reads every
member leniently, but two kinds of member stop it: an integer of magnitude `overflowBound` or
more where a double is wanted, which no double carries, and a review stamp whose instant, moved to
UTC, lies outside the years 1 to 9999. `StopsExactlyWhen reading breaks` says that a reading
gives its value exactly when `breaks` is false, and otherwise stops with one of those two faults.

Bind, `pure`, a map and `List.mapM` carry the property from the members to the records, so each
reader's condition is read off its members in the order it reads them, and a query's answer
stops where the entity it reads does. The readers of genres, companies, countries and release
windows return their entity outright. The main statement is
`entity_readers_stop_exactly_on_range_faults`.
-/

set_option autoImplicit false
set_option relaxedAutoImplicit false

namespace Cinema

def Fault.outOfRange : Fault → Bool
  | .intTooLargeForDouble | .dateOutOfRange => true
  | _ => false

namespace Json.Value

open Cinema.Calendar

/-- A member that no double carries: an integer of magnitude `overflowBound` or more. -/
def overflowsDouble : Value → Bool
  | .int n => decide (Binary64.overflowBound ≤ n.natAbs)
  | _ => false

def stampInstant? (s : String) : Option Moment :=
  (TimestampText.parse? s).bind TimestampText.moment?

/-- A member that names an instant outside the years 1 to 9999 once shown in UTC. -/
def stampOutOfRange : Value → Bool
  | .str s => (stampInstant? s).any fun m => !m.toUtc.inRange
  | _ => false

end Json.Value

namespace Catalog

open Cinema.Json Cinema.Calendar

/-- A reading that gives its value exactly when `breaks` is false, and otherwise stops with a
fault out of range. -/
def StopsExactlyWhen {α : Type} (reading : Except Fault α) (breaks : Bool) : Prop :=
  match reading with
  | .ok _ => breaks = false
  | .error f => breaks = true ∧ f.outOfRange = true

/-! ## Composing readings -/

section Composing

variable {α β : Type}

@[simp]
theorem stopsExactlyWhen_ok {a : α} {breaks : Bool} :
    StopsExactlyWhen (.ok a) breaks ↔ breaks = false := Iff.rfl

@[simp]
theorem stopsExactlyWhen_error {f : Fault} {breaks : Bool} :
    StopsExactlyWhen (.error f : Except Fault α) breaks ↔ breaks = true ∧ f.outOfRange = true :=
  Iff.rfl

theorem StopsExactlyWhen.pure (a : α) : StopsExactlyWhen (Pure.pure a : Except Fault α) false :=
  rfl

theorem StopsExactlyWhen.bind {x : Except Fault α} {f : α → Except Fault β} {first rest : Bool}
    (stopsFirst : StopsExactlyWhen x first) (stopsRest : ∀ a, StopsExactlyWhen (f a) rest) :
    StopsExactlyWhen (x >>= f) (first || rest) := by
  cases x with
  | error e =>
    obtain ⟨broke, fault⟩ := stopsFirst
    exact ⟨by simp [broke], fault⟩
  | ok a =>
    have fine : first = false := stopsFirst
    rw [fine, Bool.false_or]
    exact stopsRest a

theorem StopsExactlyWhen.bind_pure {x : Except Fault α} {breaks : Bool}
    (stops : StopsExactlyWhen x breaks) (g : α → β) :
    StopsExactlyWhen (x >>= fun a => Pure.pure (g a)) breaks := by
  have built := stops.bind fun a => StopsExactlyWhen.pure (g a)
  rwa [Bool.or_false] at built

theorem StopsExactlyWhen.map {x : Except Fault α} {breaks : Bool}
    (stops : StopsExactlyWhen x breaks) (g : α → β) : StopsExactlyWhen (g <$> x) breaks := by
  cases x with
  | error e => exact stops
  | ok a => exact stops

theorem StopsExactlyWhen.mapM {f : α → Except Fault β} {breaks : α → Bool}
    (each : ∀ a, StopsExactlyWhen (f a) (breaks a)) (items : List α) :
    StopsExactlyWhen (items.mapM f) (items.any breaks) := by
  induction items with
  | nil => exact StopsExactlyWhen.pure []
  | cons a rest ih =>
    rw [List.mapM_cons, List.any_cons]
    exact (each a).bind fun b => ih.bind_pure (b :: ·)

end Composing

/-! ## The members that stop a reading -/

theorem stopsExactlyWhen_double? (v : Value) :
    StopsExactlyWhen v.double? v.overflowsDouble := by
  cases v with
  | int n =>
    cases fits : Binary64.ofInt? n with
    | none =>
      have large : Binary64.overflowBound ≤ n.natAbs := (Binary64.ofInt?_eq_none_iff n).mp fits
      simp [Value.double?, Value.overflowsDouble, fits, large, Fault.outOfRange]
    | some x =>
      have small : ¬ Binary64.overflowBound ≤ n.natAbs := fun large => by
        simp [(Binary64.ofInt?_eq_none_iff n).mpr large] at fits
      simp [Value.double?, Value.overflowsDouble, fits, small]
  | null | bool _ | float _ | str _ | arr _ | obj _ => rfl

theorem stopsExactlyWhen_timestampOf (v : Value) :
    StopsExactlyWhen (timestampOf v) v.stampOutOfRange := by
  cases v with
  | str s =>
    simp only [timestampOf, readTimestamp, Value.stampOutOfRange]
    cases instant : Value.stampInstant? s with
    | none =>
      have unread : (TimestampText.parse? s).bind TimestampText.moment? = none := instant
      simp [unread]
    | some m =>
      have read : (TimestampText.parse? s).bind TimestampText.moment? = some m := instant
      by_cases inside : m.toUtc.inRange <;> simp [read, inside, Fault.outOfRange]
  | null | bool _ | int _ | float _ | arr _ | obj _ => rfl

/-! ## Entities -/

def movieStops (r : Value) : Bool :=
  (r.field "popularity").overflowsDouble || (r.field "vote_average").overflowsDouble

def personStops (r : Value) : Bool := (r.field "popularity").overflowsDouble

def authorStops (r : Value) : Bool := (r.field "rating").overflowsDouble

def reviewStops (r : Value) : Bool :=
  authorStops (r.field "author_details") ||
    ((r.field "created_at").stampOutOfRange || (r.field "updated_at").stampOutOfRange)

def pageStops (r : Value) : Bool := (r.field "results").asItems.any movieStops

def creditsStops (r : Value) : Bool :=
  (r.field "cast").asItems.any personStops || (r.field "crew").asItems.any personStops

def reviewPageStops (r : Value) : Bool := (r.field "results").asItems.any reviewStops

variable (images : ImageSettings)

theorem MovieSummary.stopsExactlyWhen_ofRecord (r : Value) :
    StopsExactlyWhen (MovieSummary.ofRecord images r) (movieStops r) :=
  (stopsExactlyWhen_double? _).bind fun _ => (stopsExactlyWhen_double? _).bind_pure _

theorem MovieSummary.stopsExactlyWhen_listOf (v : Value) :
    StopsExactlyWhen (MovieSummary.listOf images v) (v.asItems.any movieStops) :=
  StopsExactlyWhen.mapM (MovieSummary.stopsExactlyWhen_ofRecord images) v.asItems

theorem MoviePage.stopsExactlyWhen_ofRecord (r : Value) :
    StopsExactlyWhen (MoviePage.ofRecord images r) (pageStops r) :=
  (MovieSummary.stopsExactlyWhen_listOf images _).bind_pure _

theorem DatedMoviePage.stopsExactlyWhen_ofRecord (r : Value) :
    StopsExactlyWhen (DatedMoviePage.ofRecord images r) (pageStops r) :=
  (MoviePage.stopsExactlyWhen_ofRecord images r).bind_pure _

theorem MovieDetails.stopsExactlyWhen_ofRecord (r : Value) :
    StopsExactlyWhen (MovieDetails.ofRecord images r) (movieStops r) :=
  (stopsExactlyWhen_double? _).bind fun _ => (stopsExactlyWhen_double? _).bind_pure _

theorem CastMember.stopsExactlyWhen_ofRecord (r : Value) :
    StopsExactlyWhen (CastMember.ofRecord images r) (personStops r) :=
  (stopsExactlyWhen_double? _).bind_pure _

theorem CrewMember.stopsExactlyWhen_ofRecord (r : Value) :
    StopsExactlyWhen (CrewMember.ofRecord images r) (personStops r) :=
  (stopsExactlyWhen_double? _).bind_pure _

theorem Credits.stopsExactlyWhen_ofRecord (r : Value) :
    StopsExactlyWhen (Credits.ofRecord images r) (creditsStops r) :=
  (StopsExactlyWhen.mapM (CastMember.stopsExactlyWhen_ofRecord images) _).bind fun _ =>
    (StopsExactlyWhen.mapM (CrewMember.stopsExactlyWhen_ofRecord images) _).bind_pure _

theorem Author.stopsExactlyWhen_ofRecord (r : Value) :
    StopsExactlyWhen (Author.ofRecord images r) (authorStops r) :=
  (stopsExactlyWhen_double? _).bind_pure _

theorem CriticReview.stopsExactlyWhen_ofRecord (r : Value) :
    StopsExactlyWhen (CriticReview.ofRecord images r) (reviewStops r) :=
  (Author.stopsExactlyWhen_ofRecord images _).bind fun _ =>
    (stopsExactlyWhen_timestampOf _).bind fun _ => (stopsExactlyWhen_timestampOf _).bind_pure _

theorem ReviewPage.stopsExactlyWhen_ofRecord (r : Value) :
    StopsExactlyWhen (ReviewPage.ofRecord images r) (reviewPageStops r) :=
  (StopsExactlyWhen.mapM (CriticReview.stopsExactlyWhen_ofRecord images) _).bind_pure _

def Query.answerStops (q : Query) (r : Value) : Bool :=
  match q with
  | .topRated .. | .popular .. | .nowPlaying .. | .upcoming .. | .similar .. | .search ..
  | .discover _ => pageStops r
  | .details .. => movieStops r
  | .credits .. => creditsStops r
  | .reviews .. => reviewPageStops r
  | .genres _ => false

theorem Query.stopsExactlyWhen_answer (q : Query) (body : List (String × Value)) :
    StopsExactlyWhen (q.answer images body) (q.answerStops (.obj body)) := by
  cases q with
  | topRated | popular | similar | search | discover =>
    exact (MoviePage.stopsExactlyWhen_ofRecord images _).map _
  | nowPlaying | upcoming => exact (DatedMoviePage.stopsExactlyWhen_ofRecord images _).map _
  | details => exact (MovieDetails.stopsExactlyWhen_ofRecord images _).map _
  | credits => exact (Credits.stopsExactlyWhen_ofRecord images _).map _
  | reviews => exact (ReviewPage.stopsExactlyWhen_ofRecord images _).map _
  | genres => rfl

/-- Every reader of an entity that can fail, for all image settings and every JSON value as the
record, gives its entity exactly when no member it reads as a double holds an integer of
magnitude `overflowBound` or more and no review stamp it reads names an instant outside the years
1 to 9999 in UTC; otherwise it stops with one of those two faults. So does the answer of every
catalog query read from any JSON object. -/
theorem entity_readers_stop_exactly_on_range_faults (r : Value) :
    StopsExactlyWhen (MovieSummary.ofRecord images r) (movieStops r) ∧
    StopsExactlyWhen (MovieSummary.listOf images r) (r.asItems.any movieStops) ∧
    StopsExactlyWhen (MoviePage.ofRecord images r) (pageStops r) ∧
    StopsExactlyWhen (DatedMoviePage.ofRecord images r) (pageStops r) ∧
    StopsExactlyWhen (MovieDetails.ofRecord images r) (movieStops r) ∧
    StopsExactlyWhen (CastMember.ofRecord images r) (personStops r) ∧
    StopsExactlyWhen (CrewMember.ofRecord images r) (personStops r) ∧
    StopsExactlyWhen (Credits.ofRecord images r) (creditsStops r) ∧
    StopsExactlyWhen (Author.ofRecord images r) (authorStops r) ∧
    StopsExactlyWhen (CriticReview.ofRecord images r) (reviewStops r) ∧
    StopsExactlyWhen (ReviewPage.ofRecord images r) (reviewPageStops r) ∧
    ∀ (q : Query) (body : List (String × Value)),
      StopsExactlyWhen (q.answer images body) (q.answerStops (.obj body)) :=
  ⟨MovieSummary.stopsExactlyWhen_ofRecord images r, MovieSummary.stopsExactlyWhen_listOf images r,
    MoviePage.stopsExactlyWhen_ofRecord images r, DatedMoviePage.stopsExactlyWhen_ofRecord images r,
    MovieDetails.stopsExactlyWhen_ofRecord images r, CastMember.stopsExactlyWhen_ofRecord images r,
    CrewMember.stopsExactlyWhen_ofRecord images r, Credits.stopsExactlyWhen_ofRecord images r,
    Author.stopsExactlyWhen_ofRecord images r, CriticReview.stopsExactlyWhen_ofRecord images r,
    ReviewPage.stopsExactlyWhen_ofRecord images r, Query.stopsExactlyWhen_answer images⟩

/-- A review created at midnight of the year 1, five hours east of UTC, names an instant in the
year 0 in UTC, and reading it stops. -/
theorem review_created_before_year_one_is_refused :
    CriticReview.ofRecord {} (.obj [("created_at", .str "0001-01-01T00:00:00+05:00")]) =
      .error .dateOutOfRange := by
  rfl

end Catalog

end Cinema
