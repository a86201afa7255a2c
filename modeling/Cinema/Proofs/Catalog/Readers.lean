import Mathlib.Data.List.Forall2
import Cinema.Catalog.Normalize

/-!
# What an entity reader looks at

The readers of `Catalog.Normalize` take a provider record apart with `Json.Value.field` alone, one
member at a time. Three facts follow for each of them.

* A reader looks at no member but the ones it names (`ReadsOnly`), so a record may carry any
  other member, with any value, and read the same.
* A value without members, one that is no object or the empty object, reads as the entity whose
  every field is at the default its structure declares (`LenientReader`).
* A list member gives one entity per item, in order, each read from its own item (`ItemsRead`):
  an item of the wrong kind gives the entity of no members in its place and none is skipped. The
  one list that selects is the genre ids, which keeps the items that `Json.Value.whole?` reads.

The main statement is `entity_readers_are_lenient`.
-/

set_option autoImplicit false
set_option relaxedAutoImplicit false

namespace Cinema

namespace Json.Value

theorem field_of_asFields_nil {r : Value} (empty : r.asFields = []) (key : String) :
    r.field key = .null := by
  rw [field, empty]
  rfl

theorem asFields_of_not_object {r : Value} (notObject : ∀ fields, r ≠ .obj fields) :
    r.asFields = [] := by
  cases r with
  | obj fields => exact absurd rfl (notObject fields)
  | null | bool _ | int _ | float _ | str _ | arr _ => rfl

theorem asItems_of_not_array {v : Value} (notArray : ∀ items, v ≠ .arr items) :
    v.asItems = [] := by
  cases v with
  | arr items => exact absurd rfl (notArray items)
  | null | bool _ | int _ | float _ | str _ | obj _ => rfl

/-- The integers of a list member are its integers and its doubles with a whole value; a boolean
is neither. -/
theorem whole?_eq_some_iff (v : Value) (n : Int) :
    v.whole? = some n ↔ v = .int n ∨ ∃ x, v = .float x ∧ Binary64.wholeValue? x = some n := by
  cases v with
  | int m => simp [whole?, eq_comm]
  | float x => simp [whole?]
  | null | bool _ | str _ | arr _ | obj _ => simp [whole?]

end Json.Value

namespace Catalog

open Cinema.Json

/-! ## Readers that look at some members only -/

section Lenient

variable {α β : Type}

/-- A reader of records that looks at no member but `keys`: two records that agree on those
members read the same, so adding or changing any other member changes nothing. -/
def ReadsOnly (keys : List String) (read : Value → α) : Prop :=
  ∀ r r' : Value, (∀ k ∈ keys, r.field k = r'.field k) → read r = read r'

/-- How every entity reader of the normalizer treats a record: it looks at the members `keys`
only, and a value that is no object, like the empty object, reads as `zero`. -/
structure LenientReader (keys : List String) (read : Value → α) (zero : α) : Prop where
  readsOnly : ReadsOnly keys read
  notObject : ∀ r : Value, (∀ fields, r ≠ .obj fields) → read r = zero
  empty : read (.obj []) = zero

theorem LenientReader.of_empty {keys : List String} {read : Value → α} {zero : α}
    (readsOnly : ReadsOnly keys read) (empty : read (.obj []) = zero) :
    LenientReader keys read zero where
  readsOnly := readsOnly
  notObject r notObject := by
    rw [← empty]
    apply readsOnly
    intro k _
    rw [Value.field_of_asFields_nil (Value.asFields_of_not_object notObject),
      Value.field_of_asFields_nil rfl]
  empty := empty

/-- `out` holds one entity per item of the member `v`, in order, each what `read` gives for its
own item. -/
def ItemsRead (read : Value → Except Fault β) (v : Value) (out : List β) : Prop :=
  List.Forall₂ (fun item b => read item = .ok b) v.asItems out

theorem mapM_eq_ok_iff {ε : Type} {f : α → Except ε β} {items : List α} {out : List β} :
    items.mapM f = .ok out ↔ List.Forall₂ (fun a b => f a = .ok b) items out := by
  induction items generalizing out with
  | nil =>
    cases out with
    | nil => exact ⟨fun _ => .nil, fun _ => rfl⟩
    | cons b bs => exact ⟨fun h => (nomatch h), fun h => (nomatch h)⟩
  | cons a rest ih =>
    rw [List.mapM_cons, List.forall₂_cons_left_iff]
    cases f a with
    | error e => exact ⟨fun h => (nomatch h), fun ⟨_, _, head, _, _⟩ => (nomatch head)⟩
    | ok b =>
      cases listed : rest.mapM f with
      | error e =>
        refine ⟨fun h => (nomatch h), fun ⟨_, _, _, tail, _⟩ => ?_⟩
        exact nomatch listed.symm.trans (ih.mpr tail)
      | ok bs =>
        show Except.ok (b :: bs) = .ok out ↔ _
        constructor
        · rintro ⟨⟩
          exact ⟨b, bs, rfl, ih.mp listed, rfl⟩
        · rintro ⟨b', bs', head, tail, rfl⟩
          have sameTail : bs = bs' := Except.ok.inj (listed.symm.trans (ih.mpr tail))
          rw [Except.ok.inj head, sameTail]

theorem itemsRead_map (read : Value → β) (v : Value) :
    ItemsRead (fun item => .ok (read item)) v (v.asItems.map read) := by
  unfold ItemsRead
  induction v.asItems with
  | nil => exact .nil
  | cons item rest ih => exact .cons rfl ih

end Lenient

/-! ## The members each reader looks at -/

def MovieSummary.members : List String :=
  ["adult", "genre_ids", "id", "original_language", "original_title", "overview", "popularity",
    "poster_path", "release_date", "title", "vote_average", "vote_count"]

def DateRange.members : List String := ["maximum", "minimum"]

def MoviePage.members : List String := ["page", "results", "total_pages", "total_results"]

def DatedMoviePage.members : List String := "dates" :: MoviePage.members

def Genre.members : List String := ["id", "name"]

def GenreList.members : List String := ["genres"]

def Company.members : List String := ["id", "logo_path", "name", "origin_country"]

def Country.members : List String := ["iso_3166_1", "name"]

def MovieDetails.members : List String :=
  ["adult", "budget", "genres", "homepage", "id", "imdb_id", "original_language",
    "original_title", "overview", "popularity", "poster_path", "production_companies",
    "production_countries", "release_date", "revenue", "runtime", "status", "tagline", "title",
    "vote_average", "vote_count"]

def CastMember.members : List String :=
  ["adult", "gender", "id", "known_for_department", "name", "original_name", "popularity",
    "profile_path", "cast_id", "character", "credit_id", "order"]

def CrewMember.members : List String :=
  ["adult", "gender", "id", "known_for_department", "name", "original_name", "popularity",
    "profile_path", "credit_id", "department", "job"]

def Credits.members : List String := ["cast", "crew"]

def Author.members : List String := ["name", "username", "avatar_path", "rating"]

def CriticReview.members : List String :=
  ["id", "author", "author_details", "content", "created_at", "updated_at", "url"]

def ReviewPage.members : List String := ["results", "page", "total_pages", "total_results"]

/-! ## Each reader -/

variable (images : ImageSettings)

-- Each reader below is `field` applied to its members and nothing else, so rewriting every
-- `r.field k` of a named member into `r'.field k` turns one reading into the other.

theorem MovieSummary.lenient :
    LenientReader MovieSummary.members (MovieSummary.ofRecord images) (.ok {}) :=
  .of_empty (fun _ _ agree => by simp (disch := decide) only [MovieSummary.ofRecord, agree]) rfl

theorem DateRange.lenient : LenientReader DateRange.members DateRange.ofRecord {} :=
  .of_empty (fun _ _ agree => by simp (disch := decide) only [DateRange.ofRecord, agree]) rfl

theorem MoviePage.lenient : LenientReader MoviePage.members (MoviePage.ofRecord images) (.ok {}) :=
  .of_empty (fun _ _ agree => by
    simp (disch := decide) only [MoviePage.ofRecord, MovieSummary.listOf, agree]) rfl

theorem DatedMoviePage.lenient :
    LenientReader DatedMoviePage.members (DatedMoviePage.ofRecord images) (.ok {}) := by
  refine .of_empty (fun r r' agree => ?_) rfl
  have samePage : MoviePage.ofRecord images r = MoviePage.ofRecord images r' :=
    (MoviePage.lenient images).readsOnly r r' fun k named =>
      agree k (List.mem_cons_of_mem "dates" named)
  simp (disch := decide) only [DatedMoviePage.ofRecord, samePage, agree]

theorem Genre.lenient : LenientReader Genre.members Genre.ofRecord {} :=
  .of_empty (fun _ _ agree => by simp (disch := decide) only [Genre.ofRecord, agree]) rfl

theorem GenreList.lenient : LenientReader GenreList.members GenreList.ofRecord {} :=
  .of_empty (fun _ _ agree => by simp (disch := decide) only [GenreList.ofRecord, agree]) rfl

theorem Company.lenient : LenientReader Company.members (Company.ofRecord images) {} :=
  .of_empty (fun _ _ agree => by simp (disch := decide) only [Company.ofRecord, agree]) rfl

theorem Country.lenient : LenientReader Country.members Country.ofRecord {} :=
  .of_empty (fun _ _ agree => by simp (disch := decide) only [Country.ofRecord, agree]) rfl

theorem MovieDetails.lenient :
    LenientReader MovieDetails.members (MovieDetails.ofRecord images) (.ok {}) :=
  .of_empty (fun _ _ agree => by simp (disch := decide) only [MovieDetails.ofRecord, agree]) rfl

theorem CastMember.lenient :
    LenientReader CastMember.members (CastMember.ofRecord images) (.ok {}) :=
  .of_empty (fun _ _ agree => by simp (disch := decide) only [CastMember.ofRecord, agree]) rfl

theorem CrewMember.lenient :
    LenientReader CrewMember.members (CrewMember.ofRecord images) (.ok {}) :=
  .of_empty (fun _ _ agree => by simp (disch := decide) only [CrewMember.ofRecord, agree]) rfl

theorem Credits.lenient : LenientReader Credits.members (Credits.ofRecord images) (.ok {}) :=
  .of_empty (fun _ _ agree => by simp (disch := decide) only [Credits.ofRecord, agree]) rfl

theorem Author.lenient : LenientReader Author.members (Author.ofRecord images) (.ok {}) :=
  .of_empty (fun _ _ agree => by simp (disch := decide) only [Author.ofRecord, agree]) rfl

theorem CriticReview.lenient :
    LenientReader CriticReview.members (CriticReview.ofRecord images) (.ok {}) :=
  .of_empty (fun _ _ agree => by simp (disch := decide) only [CriticReview.ofRecord, agree]) rfl

theorem ReviewPage.lenient : LenientReader ReviewPage.members (ReviewPage.ofRecord images) (.ok {}) :=
  .of_empty (fun _ _ agree => by simp (disch := decide) only [ReviewPage.ofRecord, agree]) rfl

/-! ## Lists -/

theorem MovieSummary.listOf_of_not_array {v : Value} (notArray : ∀ items, v ≠ .arr items) :
    MovieSummary.listOf images v = .ok [] := by
  rw [MovieSummary.listOf, Value.asItems_of_not_array notArray]
  rfl

theorem Genre.listOf_of_not_array {v : Value} (notArray : ∀ items, v ≠ .arr items) :
    Genre.listOf v = [] := by
  rw [Genre.listOf, Value.asItems_of_not_array notArray]
  rfl

theorem MovieSummary.listOf_eq_ok_iff (v : Value) (out : List MovieSummary) :
    MovieSummary.listOf images v = .ok out ↔ ItemsRead (MovieSummary.ofRecord images) v out :=
  mapM_eq_ok_iff

theorem Genre.itemsRead_listOf (v : Value) :
    ItemsRead (fun item => .ok (Genre.ofRecord item)) v (Genre.listOf v) :=
  itemsRead_map Genre.ofRecord v

theorem MoviePage.results_of_ofRecord {r : Value} {p : MoviePage}
    (read : MoviePage.ofRecord images r = .ok p) :
    ItemsRead (MovieSummary.ofRecord images) (r.field "results") p.results := by
  cases listed : MovieSummary.listOf images (r.field "results") with
  | error e =>
    rw [MoviePage.ofRecord, listed] at read
    exact nomatch read
  | ok results =>
    rw [MoviePage.ofRecord, listed] at read
    cases read
    exact (MovieSummary.listOf_eq_ok_iff images _ _).mp listed

theorem DatedMoviePage.results_of_ofRecord {r : Value} {p : DatedMoviePage}
    (read : DatedMoviePage.ofRecord images r = .ok p) :
    ItemsRead (MovieSummary.ofRecord images) (r.field "results") p.results := by
  cases page : MoviePage.ofRecord images r with
  | error e =>
    rw [DatedMoviePage.ofRecord, page] at read
    exact nomatch read
  | ok undated =>
    rw [DatedMoviePage.ofRecord, page] at read
    cases read
    exact MoviePage.results_of_ofRecord images page

theorem MovieDetails.lists_of_ofRecord {r : Value} {d : MovieDetails}
    (read : MovieDetails.ofRecord images r = .ok d) :
    d.genres = (r.field "genres").asItems.map Genre.ofRecord ∧
    d.companies = (r.field "production_companies").asItems.map (Company.ofRecord images) ∧
    d.countries = (r.field "production_countries").asItems.map Country.ofRecord := by
  cases popular : (r.field "popularity").double? with
  | error e =>
    rw [MovieDetails.ofRecord, popular] at read
    exact nomatch read
  | ok popularity =>
    cases rated : (r.field "vote_average").double? with
    | error e =>
      rw [MovieDetails.ofRecord, popular, rated] at read
      exact nomatch read
    | ok ratingAverage =>
      rw [MovieDetails.ofRecord, popular, rated] at read
      cases read
      exact ⟨rfl, rfl, rfl⟩

theorem Credits.lists_of_ofRecord {r : Value} {c : Credits}
    (read : Credits.ofRecord images r = .ok c) :
    ItemsRead (CastMember.ofRecord images) (r.field "cast") c.cast ∧
    ItemsRead (CrewMember.ofRecord images) (r.field "crew") c.crew := by
  cases cast : (r.field "cast").asItems.mapM (CastMember.ofRecord images) with
  | error e =>
    rw [Credits.ofRecord, cast] at read
    exact nomatch read
  | ok people =>
    cases crew : (r.field "crew").asItems.mapM (CrewMember.ofRecord images) with
    | error e =>
      rw [Credits.ofRecord, cast, crew] at read
      exact nomatch read
    | ok staff =>
      rw [Credits.ofRecord, cast, crew] at read
      cases read
      exact ⟨mapM_eq_ok_iff.mp cast, mapM_eq_ok_iff.mp crew⟩

theorem ReviewPage.reviews_of_ofRecord {r : Value} {p : ReviewPage}
    (read : ReviewPage.ofRecord images r = .ok p) :
    ItemsRead (CriticReview.ofRecord images) (r.field "results") p.reviews := by
  cases listed : (r.field "results").asItems.mapM (CriticReview.ofRecord images) with
  | error e =>
    rw [ReviewPage.ofRecord, listed] at read
    exact nomatch read
  | ok reviews =>
    rw [ReviewPage.ofRecord, listed] at read
    cases read
    exact mapM_eq_ok_iff.mp listed

theorem MovieSummary.genreIds_of_ofRecord {r : Value} {s : MovieSummary}
    (read : MovieSummary.ofRecord images r = .ok s) :
    s.genreIds = (r.field "genre_ids").asItems.filterMap Value.whole? := by
  cases popular : (r.field "popularity").double? with
  | error e =>
    rw [MovieSummary.ofRecord, popular] at read
    exact nomatch read
  | ok popularity =>
    cases rated : (r.field "vote_average").double? with
    | error e =>
      rw [MovieSummary.ofRecord, popular, rated] at read
      exact nomatch read
    | ok ratingAverage =>
      rw [MovieSummary.ofRecord, popular, rated] at read
      cases read
      rfl

/-- Every entity reader, for all image settings: it looks at no member but the ones it names, and
a value that is no object, like the empty object, reads as the entity with every field at its
declared default. The two list readers give no entity for a value that is no array. Every list of
an entity holds one entity per item of its member, in order, each read from its own item; the
genre ids alone select, keeping exactly the items that are integers or doubles with a whole
value. -/
theorem entity_readers_are_lenient :
    LenientReader MovieSummary.members (MovieSummary.ofRecord images) (.ok {}) ∧
    LenientReader DateRange.members DateRange.ofRecord {} ∧
    LenientReader MoviePage.members (MoviePage.ofRecord images) (.ok {}) ∧
    LenientReader DatedMoviePage.members (DatedMoviePage.ofRecord images) (.ok {}) ∧
    LenientReader Genre.members Genre.ofRecord {} ∧
    LenientReader GenreList.members GenreList.ofRecord {} ∧
    LenientReader Company.members (Company.ofRecord images) {} ∧
    LenientReader Country.members Country.ofRecord {} ∧
    LenientReader MovieDetails.members (MovieDetails.ofRecord images) (.ok {}) ∧
    LenientReader CastMember.members (CastMember.ofRecord images) (.ok {}) ∧
    LenientReader CrewMember.members (CrewMember.ofRecord images) (.ok {}) ∧
    LenientReader Credits.members (Credits.ofRecord images) (.ok {}) ∧
    LenientReader Author.members (Author.ofRecord images) (.ok {}) ∧
    LenientReader CriticReview.members (CriticReview.ofRecord images) (.ok {}) ∧
    LenientReader ReviewPage.members (ReviewPage.ofRecord images) (.ok {}) ∧
    (∀ v : Value, (∀ items, v ≠ .arr items) →
      MovieSummary.listOf images v = .ok [] ∧ Genre.listOf v = []) ∧
    (∀ (v : Value) (out : List MovieSummary),
      MovieSummary.listOf images v = .ok out ↔ ItemsRead (MovieSummary.ofRecord images) v out) ∧
    (∀ v : Value, ItemsRead (fun item => .ok (Genre.ofRecord item)) v (Genre.listOf v)) ∧
    (∀ (r : Value) (p : MoviePage), MoviePage.ofRecord images r = .ok p →
      ItemsRead (MovieSummary.ofRecord images) (r.field "results") p.results) ∧
    (∀ (r : Value) (p : DatedMoviePage), DatedMoviePage.ofRecord images r = .ok p →
      ItemsRead (MovieSummary.ofRecord images) (r.field "results") p.results) ∧
    (∀ r : Value, (GenreList.ofRecord r).genres = (r.field "genres").asItems.map Genre.ofRecord) ∧
    (∀ (r : Value) (d : MovieDetails), MovieDetails.ofRecord images r = .ok d →
      d.genres = (r.field "genres").asItems.map Genre.ofRecord ∧
      d.companies = (r.field "production_companies").asItems.map (Company.ofRecord images) ∧
      d.countries = (r.field "production_countries").asItems.map Country.ofRecord) ∧
    (∀ (r : Value) (c : Credits), Credits.ofRecord images r = .ok c →
      ItemsRead (CastMember.ofRecord images) (r.field "cast") c.cast ∧
      ItemsRead (CrewMember.ofRecord images) (r.field "crew") c.crew) ∧
    (∀ (r : Value) (p : ReviewPage), ReviewPage.ofRecord images r = .ok p →
      ItemsRead (CriticReview.ofRecord images) (r.field "results") p.reviews) ∧
    (∀ (r : Value) (s : MovieSummary), MovieSummary.ofRecord images r = .ok s →
      s.genreIds = (r.field "genre_ids").asItems.filterMap Value.whole?) ∧
    (∀ (v : Value) (n : Int),
      v.whole? = some n ↔ v = .int n ∨ ∃ x, v = .float x ∧ Binary64.wholeValue? x = some n) :=
  ⟨MovieSummary.lenient images, DateRange.lenient, MoviePage.lenient images,
    DatedMoviePage.lenient images, Genre.lenient, GenreList.lenient, Company.lenient images,
    Country.lenient, MovieDetails.lenient images, CastMember.lenient images,
    CrewMember.lenient images, Credits.lenient images, Author.lenient images,
    CriticReview.lenient images, ReviewPage.lenient images,
    fun _ notArray =>
      ⟨MovieSummary.listOf_of_not_array images notArray, Genre.listOf_of_not_array notArray⟩,
    MovieSummary.listOf_eq_ok_iff images, Genre.itemsRead_listOf,
    fun _ _ => MoviePage.results_of_ofRecord images,
    fun _ _ => DatedMoviePage.results_of_ofRecord images, fun _ => rfl,
    fun _ _ => MovieDetails.lists_of_ofRecord images, fun _ _ => Credits.lists_of_ofRecord images,
    fun _ _ => ReviewPage.reviews_of_ofRecord images,
    fun _ _ => MovieSummary.genreIds_of_ofRecord images, Value.whole?_eq_some_iff⟩

end Catalog

end Cinema
