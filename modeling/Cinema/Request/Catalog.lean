import Cinema.Request.Lax

/-!
# Requests of the catalog methods

The checked requests of the eleven catalog methods, each read from a JSON object by the lenient
rules of `Request.Lax`. Members not listed are ignored; a missing optional member is none. A page
is from 1 to 500, a movie id above 0, and a search text at least one character long.
-/

namespace Cinema.Request

open Cinema.Json

structure ListQuery where
  language : Option String
  page : Option Int
  region : Option String
  deriving DecidableEq, Repr

structure SimilarQuery where
  language : Option String
  page : Option Int
  id : Int
  deriving DecidableEq, Repr

structure SearchQuery where
  language : Option String
  page : Option Int
  region : Option String
  query : String
  includeAdult : Option Bool
  year : Option String
  primaryReleaseYear : Option String
  deriving DecidableEq, Repr

structure MovieQuery where
  id : Int
  language : Option String
  deriving DecidableEq, Repr

structure ReviewsQuery where
  language : Option String
  page : Option Int
  id : Int
  deriving DecidableEq, Repr

structure GenresQuery where
  language : Option String
  deriving DecidableEq, Repr

structure DiscoverQuery where
  language : Option String
  page : Option Int
  region : Option String
  certification : Option String
  certificationCountry : Option String
  certificationGte : Option String
  certificationLte : Option String
  includeAdult : Option Bool
  includeVideo : Option Bool
  primaryReleaseYear : Option Int
  primaryReleaseDateGte : Option String
  primaryReleaseDateLte : Option String
  releaseDateGte : Option String
  releaseDateLte : Option String
  sortBy : Option CodeOrName
  voteAverageGte : Option Float
  voteAverageLte : Option Float
  voteCountGte : Option Float
  voteCountLte : Option Float
  watchRegion : Option String
  withCast : Option String
  withCompanies : Option String
  withCrew : Option String
  withGenres : Option String
  withKeywords : Option String
  withOriginCountry : Option String
  withOriginalLanguage : Option String
  withPeople : Option String
  withRuntimeGte : Option Int
  withRuntimeLte : Option Int
  withWatchMonetizationTypes : List CodeOrName
  withWatchProviders : Option String
  withoutCompanies : Option String
  withoutGenres : Option String
  withoutKeywords : Option String
  year : Option Int

def pageNumber (v : Value) : Checked Int := within 1 500 v

def catalogMovieId (v : Value) : Checked Int := (laxInt v).andThen (above 0)

/-- A text of at least one character, every one of them whole. -/
def nonEmptyText (v : Value) : Checked String :=
  ((strictText v).andThen readableText).andThen fun s =>
    if s.isEmpty then Checked.fail .stringTooShort else .ok s

def ListQuery.read (v : Value) : Checked ListQuery :=
  (requestFields v).andThen fun f =>
    ListQuery.mk <$> optionalField f "language" strictText <*> optionalField f "page" pageNumber
      <*> optionalField f "region" strictText

def SimilarQuery.read (v : Value) : Checked SimilarQuery :=
  (requestFields v).andThen fun f =>
    SimilarQuery.mk <$> optionalField f "language" strictText
      <*> optionalField f "page" pageNumber <*> required f "id" catalogMovieId

def SearchQuery.read (v : Value) : Checked SearchQuery :=
  (requestFields v).andThen fun f =>
    SearchQuery.mk <$> optionalField f "language" strictText
      <*> optionalField f "page" pageNumber <*> optionalField f "region" strictText
      <*> required f "query" nonEmptyText <*> optionalField f "include_adult" laxBool
      <*> optionalField f "year" strictText <*> optionalField f "primary_release_year" strictText

def MovieQuery.read (v : Value) : Checked MovieQuery :=
  (requestFields v).andThen fun f =>
    MovieQuery.mk <$> required f "id" catalogMovieId <*> optionalField f "language" strictText

def ReviewsQuery.read (v : Value) : Checked ReviewsQuery :=
  (requestFields v).andThen fun f =>
    ReviewsQuery.mk <$> optionalField f "language" strictText
      <*> optionalField f "page" pageNumber <*> required f "id" catalogMovieId

def GenresQuery.read (v : Value) : Checked GenresQuery :=
  (requestFields v).andThen fun f => GenresQuery.mk <$> optionalField f "language" strictText

def DiscoverQuery.read (v : Value) : Checked DiscoverQuery :=
  (requestFields v).andThen fun f =>
    DiscoverQuery.mk <$> optionalField f "language" strictText
      <*> optionalField f "page" pageNumber
      <*> optionalField f "region" strictText
      <*> optionalField f "certification" strictText
      <*> optionalField f "certification_country" strictText
      <*> optionalField f "certification_gte" strictText
      <*> optionalField f "certification_lte" strictText
      <*> optionalField f "include_adult" laxBool
      <*> optionalField f "include_video" laxBool
      <*> optionalField f "primary_release_year" laxInt
      <*> optionalField f "primary_release_date_gte" strictText
      <*> optionalField f "primary_release_date_lte" strictText
      <*> optionalField f "release_date_gte" strictText
      <*> optionalField f "release_date_lte" strictText
      <*> optionalField f "sort_by" codeOrName
      <*> optionalField f "vote_average_gte" laxFloat
      <*> optionalField f "vote_average_lte" laxFloat
      <*> optionalField f "vote_count_gte" laxFloat
      <*> optionalField f "vote_count_lte" laxFloat
      <*> optionalField f "watch_region" strictText
      <*> optionalField f "with_cast" strictText
      <*> optionalField f "with_companies" strictText
      <*> optionalField f "with_crew" strictText
      <*> optionalField f "with_genres" strictText
      <*> optionalField f "with_keywords" strictText
      <*> optionalField f "with_origin_country" strictText
      <*> optionalField f "with_original_language" strictText
      <*> optionalField f "with_people" strictText
      <*> optionalField f "with_runtime_gte" laxInt
      <*> optionalField f "with_runtime_lte" laxInt
      <*> withDefault f "with_watch_monetization_types" [] (listOf codeOrName)
      <*> optionalField f "with_watch_providers" strictText
      <*> optionalField f "without_companies" strictText
      <*> optionalField f "without_genres" strictText
      <*> optionalField f "without_keywords" strictText
      <*> optionalField f "year" laxInt

end Cinema.Request
