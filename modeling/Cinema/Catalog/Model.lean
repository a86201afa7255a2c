import Cinema.Json.Value
import Cinema.Binary64.Parts
import Cinema.Calendar.Moment
import Cinema.Catalog.Choice

/-!
# Wire entities of the catalog

The entities the catalog answers with, and their JSON form. Every field is always present in
the JSON form: an absent optional value is `null`, a moment is its ISO 8601 text, a gender its
code, and a double is kept as it is, infinite or not a number included.
-/

namespace Cinema.Catalog

open Cinema.Json Cinema.Calendar

structure Genre where
  id : Int := 0
  name : String := ""
  deriving Inhabited

structure Company where
  id : Int := 0
  logoUrl : Option String := none
  name : String := ""
  originCountry : String := ""
  deriving Inhabited

structure Country where
  isoCode : String := ""
  name : String := ""
  deriving Inhabited

/-- A movie as listed in a page of results. -/
structure MovieSummary where
  adult : Bool := false
  genreIds : List Int := []
  id : Int := 0
  originalLanguage : String := ""
  originalTitle : String := ""
  overview : String := ""
  popularity : Option Float := none
  posterUrl : Option String := none
  releaseDate : Option Moment := none
  title : String := ""
  ratingAverage : Option Float := none
  ratingCount : Int := 0
  deriving Inhabited

/-- The release window of a dated list. -/
structure DateRange where
  maximum : Option Moment := none
  minimum : Option Moment := none
  deriving Inhabited

structure MoviePage where
  page : Int := 0
  results : List MovieSummary := []
  totalPages : Int := 0
  totalResults : Int := 0
  deriving Inhabited

structure DatedMoviePage extends MoviePage where
  dates : DateRange := {}
  deriving Inhabited

structure MovieDetails where
  adult : Bool := false
  budget : Int := 0
  genres : List Genre := []
  homepage : String := ""
  id : Int := 0
  imdbId : String := ""
  originalLanguage : String := ""
  originalTitle : String := ""
  overview : String := ""
  popularity : Option Float := none
  posterUrl : Option String := none
  companies : List Company := []
  countries : List Country := []
  releaseDate : Option Moment := none
  revenue : Int := 0
  runtime : Option Int := none
  status : String := ""
  tagline : String := ""
  title : String := ""
  ratingAverage : Option Float := none
  ratingCount : Int := 0
  deriving Inhabited

structure CastMember where
  adult : Bool := false
  gender : Gender := .notSet
  id : Int := 0
  knownDepartment : String := ""
  name : String := ""
  originalName : String := ""
  popularity : Option Float := none
  profileUrl : Option String := none
  castId : Int := 0
  character : String := ""
  creditId : String := ""
  order : Int := 0
  deriving Inhabited

structure CrewMember where
  adult : Bool := false
  gender : Gender := .notSet
  id : Int := 0
  knownDepartment : String := ""
  name : String := ""
  originalName : String := ""
  popularity : Option Float := none
  profileUrl : Option String := none
  creditId : String := ""
  department : String := ""
  job : String := ""
  deriving Inhabited

structure Credits where
  cast : List CastMember := []
  crew : List CrewMember := []
  deriving Inhabited

structure Author where
  name : String := ""
  username : String := ""
  avatarUrl : Option String := none
  rating : Option Float := none
  deriving Inhabited

structure CriticReview where
  id : String := ""
  author : String := ""
  authorDetails : Author := {}
  content : String := ""
  createdAt : Option Moment := none
  updatedAt : Option Moment := none
  url : String := ""
  deriving Inhabited

structure ReviewPage where
  reviews : List CriticReview := []
  page : Int := 0
  totalPages : Int := 0
  totalResults : Int := 0
  deriving Inhabited

structure GenreList where
  genres : List Genre := []
  deriving Inhabited

/-! ## JSON forms -/

def optValue {α : Type} (f : α → Value) : Option α → Value
  | some a => f a
  | none => .null

def momentValue (m : Moment) : Value := .str m.render

def Genre.toValue (g : Genre) : Value := .obj [("id", .int g.id), ("name", .str g.name)]

def Company.toValue (c : Company) : Value :=
  .obj [("id", .int c.id), ("logo_url", optValue .str c.logoUrl), ("name", .str c.name),
    ("origin_country", .str c.originCountry)]

def Country.toValue (c : Country) : Value :=
  .obj [("iso_3166_1", .str c.isoCode), ("name", .str c.name)]

def MovieSummary.toValue (m : MovieSummary) : Value :=
  .obj [("adult", .bool m.adult), ("genre_ids", .arr (m.genreIds.map .int)), ("id", .int m.id),
    ("original_language", .str m.originalLanguage), ("original_title", .str m.originalTitle),
    ("overview", .str m.overview), ("popularity", optValue .float m.popularity),
    ("poster_url", optValue .str m.posterUrl), ("release_date", optValue momentValue m.releaseDate),
    ("title", .str m.title), ("rating_average_critics", optValue .float m.ratingAverage),
    ("rating_count_critics", .int m.ratingCount)]

def DateRange.toValue (d : DateRange) : Value :=
  .obj [("maximum", optValue momentValue d.maximum), ("minimum", optValue momentValue d.minimum)]

def MoviePage.fields (p : MoviePage) : List (String × Value) :=
  [("page", .int p.page), ("results", .arr (p.results.map MovieSummary.toValue)),
    ("total_pages", .int p.totalPages), ("total_results", .int p.totalResults)]

def MoviePage.toValue (p : MoviePage) : Value := .obj p.fields

def DatedMoviePage.toValue (p : DatedMoviePage) : Value :=
  .obj (p.toMoviePage.fields ++ [("dates", p.dates.toValue)])

def MovieDetails.toValue (m : MovieDetails) : Value :=
  .obj [("adult", .bool m.adult), ("budget", .int m.budget),
    ("genres", .arr (m.genres.map Genre.toValue)), ("homepage", .str m.homepage),
    ("id", .int m.id), ("imdb_id", .str m.imdbId), ("original_language", .str m.originalLanguage),
    ("original_title", .str m.originalTitle), ("overview", .str m.overview),
    ("popularity", optValue .float m.popularity), ("poster_url", optValue .str m.posterUrl),
    ("production_companies", .arr (m.companies.map Company.toValue)),
    ("production_countries", .arr (m.countries.map Country.toValue)),
    ("release_date", optValue momentValue m.releaseDate), ("revenue", .int m.revenue),
    ("runtime", optValue .int m.runtime), ("status", .str m.status), ("tagline", .str m.tagline),
    ("title", .str m.title), ("rating_average_critics", optValue .float m.ratingAverage),
    ("rating_count_critics", .int m.ratingCount)]

def CastMember.toValue (p : CastMember) : Value :=
  .obj [("adult", .bool p.adult), ("gender", .int (Choice.code p.gender)), ("id", .int p.id),
    ("known_department", .str p.knownDepartment), ("name", .str p.name),
    ("original_name", .str p.originalName), ("popularity", optValue .float p.popularity),
    ("profile_url", optValue .str p.profileUrl), ("cast_id", .int p.castId),
    ("character", .str p.character), ("credit_id", .str p.creditId), ("order", .int p.order)]

def CrewMember.toValue (p : CrewMember) : Value :=
  .obj [("adult", .bool p.adult), ("gender", .int (Choice.code p.gender)), ("id", .int p.id),
    ("known_department", .str p.knownDepartment), ("name", .str p.name),
    ("original_name", .str p.originalName), ("popularity", optValue .float p.popularity),
    ("profile_url", optValue .str p.profileUrl), ("credit_id", .str p.creditId),
    ("department", .str p.department), ("job", .str p.job)]

def Credits.toValue (c : Credits) : Value :=
  .obj [("cast", .arr (c.cast.map CastMember.toValue)), ("crew", .arr (c.crew.map CrewMember.toValue))]

def Author.toValue (a : Author) : Value :=
  .obj [("name", .str a.name), ("username", .str a.username),
    ("avatar_url", optValue .str a.avatarUrl), ("rating", optValue .float a.rating)]

def CriticReview.toValue (r : CriticReview) : Value :=
  .obj [("id", .str r.id), ("author", .str r.author), ("author_details", r.authorDetails.toValue),
    ("content", .str r.content), ("created_at", optValue momentValue r.createdAt),
    ("updated_at", optValue momentValue r.updatedAt), ("url", .str r.url)]

def ReviewPage.toValue (p : ReviewPage) : Value :=
  .obj [("critic_reviews", .arr (p.reviews.map CriticReview.toValue)), ("page", .int p.page),
    ("total_pages", .int p.totalPages), ("total_results", .int p.totalResults)]

def GenreList.toValue (g : GenreList) : Value := .obj [("genres", .arr (g.genres.map Genre.toValue))]

end Cinema.Catalog
