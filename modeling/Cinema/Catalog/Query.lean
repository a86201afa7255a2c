import Cinema.Catalog.Normalize
import Cinema.Provider.Request
import Cinema.Provider.Reply
import Cinema.Request.Catalog

/-!
# Catalog queries

The eleven queries of the catalog. Each sends one request to the provider, on its own path, with
its arguments as query parameters in a fixed order, and reads the JSON object that comes back as
its entity. Arguments are loose values, sent as given; a discovery query takes checked filters,
whose order and ways to watch are sent in the provider's spelling.

The queries about one movie (similar movies, details, credits, reviews) answer a provider status
404 as "movie not found"; every other failure of the provider passes through.
-/

namespace Cinema.Catalog

open Cinema.Json Cinema.Provider

inductive Query where
  | topRated (language page region : Value)
  | popular (language page region : Value)
  | nowPlaying (language page region : Value)
  | upcoming (language page region : Value)
  | similar (movieId language page : Value)
  | search (text includeAdult language page year region primaryReleaseYear : Value)
  | discover (filters : Request.DiscoverQuery)
  | details (movieId language : Value)
  | credits (movieId language : Value)
  | reviews (movieId language page : Value)
  | genres (language : Value)

/-- The movie a query is about, for the queries about one movie. -/
def Query.movieId? : Query → Option Value
  | .similar id _ _ | .details id _ | .credits id _ | .reviews id _ _ => some id
  | _ => none

def Query.path : Query → String
  | .topRated .. => "/movie/top_rated"
  | .popular .. => "/movie/popular"
  | .nowPlaying .. => "/movie/now_playing"
  | .upcoming .. => "/movie/upcoming"
  | .similar id _ _ => "/movie/" ++ id.display ++ "/similar"
  | .search .. => "/search/movie"
  | .discover _ => "/discover/movie"
  | .details id _ => "/movie/" ++ id.display
  | .credits id _ => "/movie/" ++ id.display ++ "/credits"
  | .reviews id _ _ => "/movie/" ++ id.display ++ "/reviews"
  | .genres _ => "/genre/movie/list"

def optionValue {α : Type} (f : α → Value) : Option α → Value
  | some a => f a
  | none => .null

/-- The query parameters of discovery filters, in the provider's names and order. -/
def discoverParams (q : Request.DiscoverQuery) : Except Fault (List (String × Value)) := do
  let watchKeys ← Monetization.providerKeys (.arr (q.withWatchMonetizationTypes.map (·.toValue)))
  let order ← Choice.resolve (α := SortOrder) (optionValue Request.CodeOrName.toValue q.sortBy)
  let text := optionValue Value.str
  let whole := optionValue Value.int
  let flag := optionValue Value.bool
  let double := optionValue Value.float
  pure
    [("certification", text q.certification),
     ("certification_country", text q.certificationCountry),
     ("certification.gte", text q.certificationGte),
     ("certification.lte", text q.certificationLte),
     ("include_adult", flag q.includeAdult),
     ("include_video", flag q.includeVideo),
     ("language", text q.language),
     ("page", whole q.page),
     ("primary_release_year", whole q.primaryReleaseYear),
     ("primary_release_date.gte", text q.primaryReleaseDateGte),
     ("primary_release_date.lte", text q.primaryReleaseDateLte),
     ("region", text q.region),
     ("release_date.gte", text q.releaseDateGte),
     ("release_date.lte", text q.releaseDateLte),
     ("sort_by", text order.providerKey?),
     ("vote_average.gte", double q.voteAverageGte),
     ("vote_average.lte", double q.voteAverageLte),
     ("vote_count.gte", double q.voteCountGte),
     ("vote_count.lte", double q.voteCountLte),
     ("watch_region", text q.watchRegion),
     ("with_cast", text q.withCast),
     ("with_companies", text q.withCompanies),
     ("with_crew", text q.withCrew),
     ("with_genres", text q.withGenres),
     ("with_keywords", text q.withKeywords),
     ("with_origin_country", text q.withOriginCountry),
     ("with_original_language", text q.withOriginalLanguage),
     ("with_people", text q.withPeople),
     ("with_runtime.gte", whole q.withRuntimeGte),
     ("with_runtime.lte", whole q.withRuntimeLte),
     ("with_watch_monetization_types", .str ("|".intercalate watchKeys)),
     ("with_watch_providers", text q.withWatchProviders),
     ("without_companies", text q.withoutCompanies),
     ("without_genres", text q.withoutGenres),
     ("without_keywords", text q.withoutKeywords),
     ("year", whole q.year)]

/-- The query parameters of a query, before unset ones are dropped. -/
def Query.params : Query → Except Fault (List (String × Value))
  | .topRated l p r | .popular l p r | .nowPlaying l p r | .upcoming l p r =>
    .ok [("language", l), ("page", p), ("region", r)]
  | .similar _ l p => .ok [("language", l), ("page", p)]
  | .search t a l p y r pry =>
    .ok [("query", t), ("include_adult", a), ("language", l), ("page", p), ("year", y),
      ("region", r), ("primary_release_year", pry)]
  | .discover q => discoverParams q
  | .details _ l | .credits _ l => .ok [("language", l)]
  | .reviews _ l p => .ok [("language", l), ("page", p)]
  | .genres l => .ok [("language", l)]

inductive Answer where
  | page (p : MoviePage)
  | datedPage (p : DatedMoviePage)
  | details (d : MovieDetails)
  | credits (c : Credits)
  | reviews (r : ReviewPage)
  | genres (g : GenreList)

def Answer.toValue : Answer → Value
  | .page p => p.toValue
  | .datedPage p => p.toValue
  | .details d => d.toValue
  | .credits c => c.toValue
  | .reviews r => r.toValue
  | .genres g => g.toValue

def Query.answer (images : ImageSettings) (q : Query) (body : List (String × Value)) :
    Except Fault Answer :=
  let r := Value.obj body
  match q with
  | .topRated .. | .popular .. | .similar .. | .search .. | .discover _ =>
    Answer.page <$> MoviePage.ofRecord images r
  | .nowPlaying .. | .upcoming .. => Answer.datedPage <$> DatedMoviePage.ofRecord images r
  | .details .. => Answer.details <$> MovieDetails.ofRecord images r
  | .credits .. => Answer.credits <$> Credits.ofRecord images r
  | .reviews .. => Answer.reviews <$> ReviewPage.ofRecord images r
  | .genres _ => .ok (.genres (GenreList.ofRecord r))

/-- Why a catalog query gave no answer. -/
inductive Failure where
  | provider (f : Provider.Failure)
  /-- The provider does not know the movie a query is about. -/
  | movieNotFound (movieId : Value)
  /-- A value could not be carried, before the request or in the answer. -/
  | fault (f : Fault)

def Failure.message : Failure → String
  | .provider f => f.message
  | .movieNotFound id => "movie not found for the given ID and this request: " ++ id.display
  | .fault f => f.message

/-- The request a query sends, or the fault that stops it before it is sent. -/
def Query.request (client : Client) (q : Query) : Except Fault Request :=
  q.params >>= client.request q.path

/-- The calls a query makes down to the client's request: its own, the lookup of one movie for
the queries about one movie, and the request. -/
def Query.calls (q : Query) : Nat := if q.movieId?.isSome then 3 else 2

/-- What a query answers once its request got `reply`, the query being called under `calls`
calls of its task. -/
def Query.outcomeUnder (images : ImageSettings) (calls : Nat) (q : Query) (reply : Reply) :
    Except Failure Answer :=
  match reply.objectUnder (calls + q.calls) q.path with
  | .ok body => (q.answer images body).mapError .fault
  | .error (.status 404 path snippet) =>
    match q.movieId? with
    | some id => .error (.movieNotFound id)
    | none => .error (.provider (.status 404 path snippet))
  | .error f => .error (.provider f)

/-- What a query called by the caller answers once its request got `reply`: the query starts
its task. -/
def Query.outcome (images : ImageSettings) (q : Query) (reply : Reply) : Except Failure Answer :=
  q.outcomeUnder images 0 reply

end Cinema.Catalog
