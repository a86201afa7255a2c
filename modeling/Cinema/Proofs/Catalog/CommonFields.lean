import Cinema.Proofs.Catalog.ImageAddresses

/-!
# Two views of one movie, two of one person

The catalog reads a movie twice over, as a listed movie and as a movie in full, and a person
twice over, as a member of the cast and of the crew, each time by a reader of its own. Read from
the same record, the two views of a movie fail alike or tell the same of the movie: whether it is
for adults, its id, languages, titles, overview, popularity, release date and ratings
(`MovieFacts`). Their posters are both absent, or two addresses of the same image that differ only
in the width. The two views of a person fail alike or tell the same of the person (`PersonFacts`),
and give the same picture when the cast and the crew share a width. A dated page of movies is the
page of movies read from the same record, with its release window beside it.

The main statement is `entity_views_agree_on_common_fields`.
-/

set_option autoImplicit false
set_option relaxedAutoImplicit false

namespace Cinema.Catalog

open Cinema.Json Cinema.Calendar

/-- What a listed movie and a movie in full both tell of the movie, its poster apart. -/
structure MovieFacts where
  adult : Bool
  id : Int
  originalLanguage : String
  originalTitle : String
  overview : String
  popularity : Option Float
  releaseDate : Option Moment
  title : String
  ratingAverage : Option Float
  ratingCount : Int

def MovieSummary.facts (m : MovieSummary) : MovieFacts :=
  ⟨m.adult, m.id, m.originalLanguage, m.originalTitle, m.overview, m.popularity, m.releaseDate,
    m.title, m.ratingAverage, m.ratingCount⟩

def MovieDetails.facts (m : MovieDetails) : MovieFacts :=
  ⟨m.adult, m.id, m.originalLanguage, m.originalTitle, m.overview, m.popularity, m.releaseDate,
    m.title, m.ratingAverage, m.ratingCount⟩

/-- What a person of the cast and of the crew both tell of the person, the picture apart. -/
structure PersonFacts where
  adult : Bool
  gender : Gender
  id : Int
  knownDepartment : String
  name : String
  originalName : String
  popularity : Option Float
  creditId : String

def CastMember.facts (p : CastMember) : PersonFacts :=
  ⟨p.adult, p.gender, p.id, p.knownDepartment, p.name, p.originalName, p.popularity, p.creditId⟩

def CrewMember.facts (p : CrewMember) : PersonFacts :=
  ⟨p.adult, p.gender, p.id, p.knownDepartment, p.name, p.originalName, p.popularity, p.creditId⟩

variable (s : ImageSettings)

/-! ## Movies -/

/-- The two views of a movie read the popularity and the rating average in the same order and the
common fields from the same members, so they fail with the same fault or tell the same. -/
theorem MovieSummary.facts_ofRecord (r : Value) :
    (MovieSummary.ofRecord s r).map MovieSummary.facts =
      (MovieDetails.ofRecord s r).map MovieDetails.facts := by
  unfold MovieSummary.ofRecord MovieDetails.ofRecord
  cases (r.field "popularity").double? <;> cases (r.field "vote_average").double? <;> rfl

theorem ImageSettings.url_at_two_widths (path : Value) (w₁ w₂ : Int) :
    (s.url path w₁ = none ∧ s.url path w₂ = none) ∨
      ∃ base rel, s.url path w₁ = some (base ++ "/w" ++ toString w₁ ++ "/" ++ rel) ∧
        s.url path w₂ = some (base ++ "/w" ++ toString w₂ ++ "/" ++ rel) := by
  cases path with
  | str p =>
    rw [s.url_str, s.url_str]
    by_cases empty : relativePath p = ""
    · exact .inl ⟨if_pos empty, if_pos empty⟩
    · exact .inr ⟨_, _, if_neg empty, if_neg empty⟩
  | null | bool _ | int _ | float _ | arr _ | obj _ => exact .inl ⟨rfl, rfl⟩

/-! ## People -/

theorem CastMember.facts_ofRecord (r : Value) :
    (CastMember.ofRecord s r).map CastMember.facts =
      (CrewMember.ofRecord s r).map CrewMember.facts := by
  unfold CastMember.ofRecord CrewMember.ofRecord
  cases (r.field "popularity").double? <;> rfl

theorem CastMember.profileUrl_ofRecord {s : ImageSettings}
    (same : s.castProfileWidth = s.crewProfileWidth) (r : Value) :
    (CastMember.ofRecord s r).map (·.profileUrl) =
      (CrewMember.ofRecord s r).map (·.profileUrl) := by
  unfold CastMember.ofRecord CrewMember.ofRecord
  rw [same]
  cases (r.field "popularity").double? <;> rfl

/-! ## Pages -/

theorem DatedMoviePage.toMoviePage_ofRecord (r : Value) :
    (DatedMoviePage.ofRecord s r).map DatedMoviePage.toMoviePage = MoviePage.ofRecord s r := by
  unfold DatedMoviePage.ofRecord
  cases MoviePage.ofRecord s r <;> rfl

/-- For all image settings and every record: the listed movie and the movie in full read from it
fail with the same fault or agree on whether the movie is for adults, its id, original language
and title, overview, popularity, release date, title and critics' rating average and count; when
both are read, their posters are both absent or two addresses that differ only in the width. The
person of the cast and of the crew read from it fail with the same fault or agree on whether the
person is for adults, gender, id, known department, name, original name, popularity and credit
id, and on the picture whenever the two widths are equal. A dated page read from any record, less
its release window, is the page of movies read from that record. -/
theorem entity_views_agree_on_common_fields (r : Value) :
    (MovieSummary.ofRecord s r).map MovieSummary.facts =
      (MovieDetails.ofRecord s r).map MovieDetails.facts ∧
    (∀ m d, MovieSummary.ofRecord s r = .ok m → MovieDetails.ofRecord s r = .ok d →
      (m.posterUrl = none ∧ d.posterUrl = none) ∨
        ∃ base rel,
          m.posterUrl = some (base ++ "/w" ++ toString s.summaryPosterWidth ++ "/" ++ rel) ∧
            d.posterUrl = some (base ++ "/w" ++ toString s.detailsPosterWidth ++ "/" ++ rel)) ∧
    (CastMember.ofRecord s r).map CastMember.facts =
      (CrewMember.ofRecord s r).map CrewMember.facts ∧
    (s.castProfileWidth = s.crewProfileWidth →
      (CastMember.ofRecord s r).map (·.profileUrl) =
        (CrewMember.ofRecord s r).map (·.profileUrl)) ∧
    ∀ page : Value,
      (DatedMoviePage.ofRecord s page).map DatedMoviePage.toMoviePage =
        MoviePage.ofRecord s page := by
  refine ⟨MovieSummary.facts_ofRecord s r, fun m d summary details => ?_,
    CastMember.facts_ofRecord s r, fun same => CastMember.profileUrl_ofRecord same r,
    DatedMoviePage.toMoviePage_ofRecord s⟩
  rw [MovieSummary.posterUrl_of_ofRecord summary, MovieDetails.posterUrl_of_ofRecord details]
  exact s.url_at_two_widths _ _ _

/-- At the default settings a record with a poster path and a profile path reads as a listed movie
and a movie in full whose posters differ only in the width, and the cast and the crew share a
width, so the person's two views give the same picture. -/
theorem listed_and_full_posters_differ_in_width :
    MovieSummary.ofRecord {}
          (.obj [("poster_path", .str "/p.jpg"), ("profile_path", .str "/q.jpg")]) =
        .ok { posterUrl := some "https://image.tmdb.org/t/p/w342/p.jpg" } ∧
      MovieDetails.ofRecord {}
          (.obj [("poster_path", .str "/p.jpg"), ("profile_path", .str "/q.jpg")]) =
        .ok { posterUrl := some "https://image.tmdb.org/t/p/w500/p.jpg" } ∧
      ({} : ImageSettings).castProfileWidth = ({} : ImageSettings).crewProfileWidth ∧
      (∃ base rel,
        "https://image.tmdb.org/t/p/w342/p.jpg" =
          base ++ "/w" ++ toString ({} : ImageSettings).summaryPosterWidth ++ "/" ++ rel ∧
        "https://image.tmdb.org/t/p/w500/p.jpg" =
          base ++ "/w" ++ toString ({} : ImageSettings).detailsPosterWidth ++ "/" ++ rel) ∧
      (CastMember.ofRecord {}
          (.obj [("poster_path", .str "/p.jpg"), ("profile_path", .str "/q.jpg")])).map
          (·.profileUrl) =
        (CrewMember.ofRecord {}
          (.obj [("poster_path", .str "/p.jpg"), ("profile_path", .str "/q.jpg")])).map
          (·.profileUrl) := by
  have summary : MovieSummary.ofRecord {}
      (.obj [("poster_path", .str "/p.jpg"), ("profile_path", .str "/q.jpg")]) =
        .ok { posterUrl := some "https://image.tmdb.org/t/p/w342/p.jpg" } := rfl
  have details : MovieDetails.ofRecord {}
      (.obj [("poster_path", .str "/p.jpg"), ("profile_path", .str "/q.jpg")]) =
        .ok { posterUrl := some "https://image.tmdb.org/t/p/w500/p.jpg" } := rfl
  obtain ⟨-, posters, -, pictures, -⟩ := entity_views_agree_on_common_fields {}
    (.obj [("poster_path", .str "/p.jpg"), ("profile_path", .str "/q.jpg")])
  refine ⟨summary, details, rfl, ?_, pictures rfl⟩
  rcases posters _ _ summary details with ⟨absent, -⟩ | ⟨base, rel, listed, full⟩
  · cases absent
  · exact ⟨base, rel, Option.some.inj listed, Option.some.inj full⟩

end Cinema.Catalog
