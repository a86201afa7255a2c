import Cinema.Catalog.Model
import Cinema.Catalog.Image
import Cinema.Json.Lenient
import Cinema.Calendar.Read

/-!
# Entities from provider records

Each entity is read from a provider record member by member, leniently (`Json.Value.asText` and
its kin): a record that is not an object reads as one with no members, and a list member that is
not a list as an empty list, one entity per item otherwise. Images get absolute addresses at the
width of their tier, release dates are read by `Calendar.readDate` and review stamps by
`Calendar.readTimestamp`.

Reading stops at the first fault in member order: a number too large for a double where a double
is wanted, or a review stamp outside the years 1 to 9999 once moved to UTC.
-/

namespace Cinema.Catalog

open Cinema.Json Cinema.Calendar

/-- A release date member: a text read by `readDate`, nothing otherwise. -/
def releaseDateOf (v : Value) : Option Moment :=
  match v with
  | .str s => readDate s
  | _ => none

/-- A timestamp member: a text read by `readTimestamp`, nothing otherwise. -/
def timestampOf (v : Value) : Except Fault (Option Moment) :=
  match v with
  | .str s => readTimestamp s
  | _ => .ok none

def Genre.ofRecord (r : Value) : Genre :=
  { id := (r.field "id").asWhole, name := (r.field "name").asText }

def Company.ofRecord (images : ImageSettings) (r : Value) : Company :=
  { id := (r.field "id").asWhole
    logoUrl := images.url (r.field "logo_path") images.companyLogoWidth
    name := (r.field "name").asText
    originCountry := (r.field "origin_country").asText }

def Country.ofRecord (r : Value) : Country :=
  { isoCode := (r.field "iso_3166_1").asText, name := (r.field "name").asText }

def MovieSummary.ofRecord (images : ImageSettings) (r : Value) : Except Fault MovieSummary := do
  let popularity ← (r.field "popularity").double?
  let ratingAverage ← (r.field "vote_average").double?
  pure
    { adult := (r.field "adult").asFlag
      genreIds := (r.field "genre_ids").wholes
      id := (r.field "id").asWhole
      originalLanguage := (r.field "original_language").asText
      originalTitle := (r.field "original_title").asText
      overview := (r.field "overview").asText
      popularity
      posterUrl := images.url (r.field "poster_path") images.summaryPosterWidth
      releaseDate := releaseDateOf (r.field "release_date")
      title := (r.field "title").asText
      ratingAverage
      ratingCount := (r.field "vote_count").asWhole }

def MovieSummary.listOf (images : ImageSettings) (v : Value) : Except Fault (List MovieSummary) :=
  v.asItems.mapM (MovieSummary.ofRecord images)

def DateRange.ofRecord (r : Value) : DateRange :=
  { maximum := releaseDateOf (r.field "maximum"), minimum := releaseDateOf (r.field "minimum") }

def MoviePage.ofRecord (images : ImageSettings) (r : Value) : Except Fault MoviePage := do
  let results ← MovieSummary.listOf images (r.field "results")
  pure
    { page := (r.field "page").asWhole
      results
      totalPages := (r.field "total_pages").asWhole
      totalResults := (r.field "total_results").asWhole }

def DatedMoviePage.ofRecord (images : ImageSettings) (r : Value) : Except Fault DatedMoviePage := do
  let dates := DateRange.ofRecord (r.field "dates")
  let page ← MoviePage.ofRecord images r
  pure { page with dates }

def Genre.listOf (v : Value) : List Genre := v.asItems.map Genre.ofRecord

def GenreList.ofRecord (r : Value) : GenreList := { genres := Genre.listOf (r.field "genres") }

def MovieDetails.ofRecord (images : ImageSettings) (r : Value) : Except Fault MovieDetails := do
  let popularity ← (r.field "popularity").double?
  let ratingAverage ← (r.field "vote_average").double?
  pure
    { adult := (r.field "adult").asFlag
      budget := (r.field "budget").asWhole
      genres := Genre.listOf (r.field "genres")
      homepage := (r.field "homepage").asText
      id := (r.field "id").asWhole
      imdbId := (r.field "imdb_id").asText
      originalLanguage := (r.field "original_language").asText
      originalTitle := (r.field "original_title").asText
      overview := (r.field "overview").asText
      popularity
      posterUrl := images.url (r.field "poster_path") images.detailsPosterWidth
      companies := (r.field "production_companies").asItems.map (Company.ofRecord images)
      countries := (r.field "production_countries").asItems.map Country.ofRecord
      releaseDate := releaseDateOf (r.field "release_date")
      revenue := (r.field "revenue").asWhole
      runtime := (r.field "runtime").whole?
      status := (r.field "status").asText
      tagline := (r.field "tagline").asText
      title := (r.field "title").asText
      ratingAverage
      ratingCount := (r.field "vote_count").asWhole }

def CastMember.ofRecord (images : ImageSettings) (r : Value) : Except Fault CastMember := do
  let popularity ← (r.field "popularity").double?
  pure
    { adult := (r.field "adult").asFlag
      gender := Gender.ofProvider (r.field "gender")
      id := (r.field "id").asWhole
      knownDepartment := (r.field "known_for_department").asText
      name := (r.field "name").asText
      originalName := (r.field "original_name").asText
      popularity
      profileUrl := images.url (r.field "profile_path") images.castProfileWidth
      castId := (r.field "cast_id").asWhole
      character := (r.field "character").asText
      creditId := (r.field "credit_id").asText
      order := (r.field "order").asWhole }

def CrewMember.ofRecord (images : ImageSettings) (r : Value) : Except Fault CrewMember := do
  let popularity ← (r.field "popularity").double?
  pure
    { adult := (r.field "adult").asFlag
      gender := Gender.ofProvider (r.field "gender")
      id := (r.field "id").asWhole
      knownDepartment := (r.field "known_for_department").asText
      name := (r.field "name").asText
      originalName := (r.field "original_name").asText
      popularity
      profileUrl := images.url (r.field "profile_path") images.crewProfileWidth
      creditId := (r.field "credit_id").asText
      department := (r.field "department").asText
      job := (r.field "job").asText }

def Credits.ofRecord (images : ImageSettings) (r : Value) : Except Fault Credits := do
  let cast ← (r.field "cast").asItems.mapM (CastMember.ofRecord images)
  let crew ← (r.field "crew").asItems.mapM (CrewMember.ofRecord images)
  pure { cast, crew }

def Author.ofRecord (images : ImageSettings) (r : Value) : Except Fault Author := do
  let rating ← (r.field "rating").double?
  pure
    { name := (r.field "name").asText
      username := (r.field "username").asText
      avatarUrl := images.url (r.field "avatar_path") images.avatarWidth
      rating }

def CriticReview.ofRecord (images : ImageSettings) (r : Value) : Except Fault CriticReview := do
  let authorDetails ← Author.ofRecord images (r.field "author_details")
  let createdAt ← timestampOf (r.field "created_at")
  let updatedAt ← timestampOf (r.field "updated_at")
  pure
    { id := (r.field "id").asText
      author := (r.field "author").asText
      authorDetails
      content := (r.field "content").asText
      createdAt
      updatedAt
      url := (r.field "url").asText }

def ReviewPage.ofRecord (images : ImageSettings) (r : Value) : Except Fault ReviewPage := do
  let reviews ← (r.field "results").asItems.mapM (CriticReview.ofRecord images)
  pure
    { reviews
      page := (r.field "page").asWhole
      totalPages := (r.field "total_pages").asWhole
      totalResults := (r.field "total_results").asWhole }

end Cinema.Catalog
