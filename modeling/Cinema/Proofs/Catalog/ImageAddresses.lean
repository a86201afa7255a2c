import Cinema.Catalog.Normalize

/-!
# Image addresses of the catalog's entities

Six fields of the catalog's entities hold the address of an image: the poster of a listed movie
and of a movie in full, the logo of a production company, the profile picture of a person of the
cast and of the crew, and the avatar of a review's author (`ImageField`). Each is read from its
own member of the record, at the width of its own tier.

A path member gives an address exactly when it is a text that keeps a character once blanks are
trimmed from both of its ends and then slashes from its front. The address is the host's base
address less the slashes at its end, `/w`, the width, `/` and what is left of the path. So it is
never empty, and neither of its two joins doubles a slash: the base part ends in no slash and the
path part starts with none.

The main statement is `image_fields_address_their_paths`.
-/

set_option autoImplicit false
set_option relaxedAutoImplicit false

namespace Cinema.Catalog

open Cinema.Json

/-! ## Slashes at the ends -/

theorem slashes_dropWhile (cs : List Char) :
    (∃ k, cs = List.replicate k '/' ++ cs.dropWhile (· == '/')) ∧
      (cs.dropWhile (· == '/')).head? ≠ some '/' := by
  refine ⟨⟨(cs.takeWhile (· == '/')).length, ?_⟩, ?_⟩
  · -- the part taken off is made of slashes only
    have slashes :
        cs.takeWhile (· == '/') = List.replicate (cs.takeWhile (· == '/')).length '/' := by
      refine List.eq_replicate_iff.mpr ⟨rfl, fun c mem => ?_⟩
      simpa using List.all_eq_true.mp (List.all_takeWhile (p := (· == '/'))) c mem
    rw [← slashes, List.takeWhile_append_dropWhile]
  · intro first
    have stop := List.head?_dropWhile_not (· == '/') cs
    rw [first] at stop
    exact absurd stop (by decide)

theorem relativePath_spec (p : String) :
    (∃ k, Text.trimList p.toList = List.replicate k '/' ++ (relativePath p).toList) ∧
      (relativePath p).toList.head? ≠ some '/' := by
  rw [relativePath, String.toList_ofList]
  exact slashes_dropWhile _

theorem withoutTrailingSlashes_spec (b : String) :
    (∃ k, b.toList = (withoutTrailingSlashes b).toList ++ List.replicate k '/') ∧
      (withoutTrailingSlashes b).toList.getLast? ≠ some '/' := by
  obtain ⟨⟨k, split⟩, first⟩ := slashes_dropWhile b.toList.reverse
  rw [withoutTrailingSlashes, String.toList_ofList, List.getLast?_reverse]
  refine ⟨⟨k, ?_⟩, first⟩
  calc b.toList = b.toList.reverse.reverse := (List.reverse_reverse _).symm
    _ = (List.replicate k '/' ++ b.toList.reverse.dropWhile (· == '/')).reverse := by
      rw [← split]
    _ = (b.toList.reverse.dropWhile (· == '/')).reverse ++ List.replicate k '/' := by
      rw [List.reverse_append, List.reverse_replicate]

/-! ## The address of a path -/

namespace ImageSettings

variable (s : ImageSettings) (w : Int)

theorem url_str (p : String) :
    s.url (.str p) w =
      if relativePath p = "" then none
      else
        some (withoutTrailingSlashes s.baseUrl ++ "/w" ++ toString w ++ "/" ++ relativePath p) := by
  rw [url]
  by_cases empty : relativePath p = ""
  · simp [empty]
  · simp [empty, String.isEmpty_iff]

theorem url_eq_none_iff (path : Value) :
    s.url path w = none ↔ ∀ p, path = .str p → relativePath p = "" := by
  cases path with
  | str p =>
    rw [url_str]
    by_cases empty : relativePath p = "" <;> simp [empty]
  | null | bool _ | int _ | float _ | arr _ | obj _ => simp [url]

/-- An address is the base address less its trailing slashes, `/w`, the width, `/` and the path
trimmed of blanks and leading slashes, which keeps a character. -/
theorem url_eq_some_iff (path : Value) (address : String) :
    s.url path w = some address ↔
      ∃ p, path = .str p ∧ relativePath p ≠ "" ∧
        address =
          withoutTrailingSlashes s.baseUrl ++ "/w" ++ toString w ++ "/" ++ relativePath p := by
  cases path with
  | str p =>
    rw [url_str]
    by_cases empty : relativePath p = ""
    · simp [empty]
    · simp only [empty, if_false, Option.some.injEq, Value.str.injEq]
      constructor
      · rintro rfl
        exact ⟨p, rfl, empty, rfl⟩
      · rintro ⟨q, rfl, -, rfl⟩
        rfl
  | null | bool _ | int _ | float _ | arr _ | obj _ => simp [url]

end ImageSettings

/-! ## The six image fields -/

/-- The fields of the catalog's entities that hold the address of an image. -/
inductive ImageField where
  | summaryPoster
  | detailsPoster
  | companyLogo
  | castProfile
  | crewProfile
  | authorAvatar
  deriving DecidableEq, Repr

namespace ImageField

def member : ImageField → String
  | summaryPoster | detailsPoster => "poster_path"
  | companyLogo => "logo_path"
  | castProfile | crewProfile => "profile_path"
  | authorAvatar => "avatar_path"

def width (s : ImageSettings) : ImageField → Int
  | summaryPoster => s.summaryPosterWidth
  | detailsPoster => s.detailsPosterWidth
  | companyLogo => s.companyLogoWidth
  | castProfile => s.castProfileWidth
  | crewProfile => s.crewProfileWidth
  | authorAvatar => s.avatarWidth

def read (s : ImageSettings) (r : Value) : ImageField → Except Fault (Option String)
  | summaryPoster => (MovieSummary.ofRecord s r).map (·.posterUrl)
  | detailsPoster => (MovieDetails.ofRecord s r).map (·.posterUrl)
  | companyLogo => .ok (Company.ofRecord s r).logoUrl
  | castProfile => (CastMember.ofRecord s r).map (·.profileUrl)
  | crewProfile => (CrewMember.ofRecord s r).map (·.profileUrl)
  | authorAvatar => (Author.ofRecord s r).map (·.avatarUrl)

end ImageField

section Readers

variable {s : ImageSettings} {r : Value}

theorem bind_eq_ok {ε α β : Type} {x : Except ε α} {f : α → Except ε β} {b : β}
    (bound : x >>= f = .ok b) : ∃ a, x = .ok a ∧ f a = .ok b := by
  cases x with
  | error e => cases bound
  | ok a => exact ⟨a, rfl, bound⟩

-- Each reader reads its doubles first and then builds its entity, whose image field is the
-- address of its member at its tier's width.

theorem MovieSummary.posterUrl_of_ofRecord {m : MovieSummary}
    (read : MovieSummary.ofRecord s r = .ok m) :
    m.posterUrl = s.url (r.field "poster_path") s.summaryPosterWidth := by
  obtain ⟨popularity, -, read⟩ := bind_eq_ok read
  obtain ⟨ratingAverage, -, read⟩ := bind_eq_ok read
  cases read
  rfl

theorem MovieDetails.posterUrl_of_ofRecord {m : MovieDetails}
    (read : MovieDetails.ofRecord s r = .ok m) :
    m.posterUrl = s.url (r.field "poster_path") s.detailsPosterWidth := by
  obtain ⟨popularity, -, read⟩ := bind_eq_ok read
  obtain ⟨ratingAverage, -, read⟩ := bind_eq_ok read
  cases read
  rfl

theorem CastMember.profileUrl_of_ofRecord {p : CastMember}
    (read : CastMember.ofRecord s r = .ok p) :
    p.profileUrl = s.url (r.field "profile_path") s.castProfileWidth := by
  obtain ⟨popularity, -, read⟩ := bind_eq_ok read
  cases read
  rfl

theorem CrewMember.profileUrl_of_ofRecord {p : CrewMember}
    (read : CrewMember.ofRecord s r = .ok p) :
    p.profileUrl = s.url (r.field "profile_path") s.crewProfileWidth := by
  obtain ⟨popularity, -, read⟩ := bind_eq_ok read
  cases read
  rfl

theorem Author.avatarUrl_of_ofRecord {a : Author} (read : Author.ofRecord s r = .ok a) :
    a.avatarUrl = s.url (r.field "avatar_path") s.avatarWidth := by
  obtain ⟨rating, -, read⟩ := bind_eq_ok read
  cases read
  rfl

theorem map_eq_ok {α β ε : Type} {f : α → β} {x : Except ε α} {b : β}
    (mapped : x.map f = .ok b) :
    ∃ a, x = .ok a ∧ f a = b := by
  cases x with
  | error e => cases mapped
  | ok a => exact ⟨a, rfl, Except.ok.inj mapped⟩

/-- Whenever the entity is read, its image field is the address of the field's own member at the
width of the field's own tier. -/
theorem ImageField.eq_url_of_read {f : ImageField} {u : Option String} (read : f.read s r = .ok u) :
    u = s.url (r.field f.member) (f.width s) := by
  cases f with
  | summaryPoster =>
    obtain ⟨m, summary, rfl⟩ := map_eq_ok read
    exact MovieSummary.posterUrl_of_ofRecord summary
  | detailsPoster =>
    obtain ⟨m, details, rfl⟩ := map_eq_ok read
    exact MovieDetails.posterUrl_of_ofRecord details
  | companyLogo => exact (Except.ok.inj read).symm
  | castProfile =>
    obtain ⟨p, cast, rfl⟩ := map_eq_ok read
    exact CastMember.profileUrl_of_ofRecord cast
  | crewProfile =>
    obtain ⟨p, crew, rfl⟩ := map_eq_ok read
    exact CrewMember.profileUrl_of_ofRecord crew
  | authorAvatar =>
    obtain ⟨a, author, rfl⟩ := map_eq_ok read
    exact Author.avatarUrl_of_ofRecord author

end Readers

/-- For all image settings, every record and each of the six image fields, whenever the entity is
read: the field is absent exactly when its member is no text, or a text with nothing left once
trimmed of blanks at both ends and then of slashes at its front. Otherwise it is the base address
less its trailing slashes, `/w`, the width of the field's own tier, `/` and that trimmed path, so
it is not empty. The base part is the configured one less a run of slashes at its end and ends in
no slash; the path part is the trimmed path less a run of slashes at its front and starts with no
slash; so neither join doubles a slash. -/
theorem image_fields_address_their_paths (s : ImageSettings) (r : Value) (f : ImageField)
    (u : Option String) (read : f.read s r = .ok u) :
    (u = none ↔ ∀ p, r.field f.member = .str p → relativePath p = "") ∧
    (∀ address, u = some address →
      ∃ p, r.field f.member = .str p ∧ relativePath p ≠ "" ∧
        address = withoutTrailingSlashes s.baseUrl ++ "/w" ++ toString (f.width s) ++ "/" ++
          relativePath p ∧ address ≠ "") ∧
    ((∃ k, s.baseUrl.toList =
        (withoutTrailingSlashes s.baseUrl).toList ++ List.replicate k '/') ∧
      (withoutTrailingSlashes s.baseUrl).toList.getLast? ≠ some '/') ∧
    ∀ p : String,
      (∃ k, Text.trimList p.toList = List.replicate k '/' ++ (relativePath p).toList) ∧
        (relativePath p).toList.head? ≠ some '/' := by
  have field := ImageField.eq_url_of_read read
  refine ⟨by rw [field]; exact s.url_eq_none_iff _ _, fun address addressed => ?_,
    withoutTrailingSlashes_spec s.baseUrl, relativePath_spec⟩
  obtain ⟨p, text, kept, rfl⟩ := (s.url_eq_some_iff _ _ address).mp (field ▸ addressed)
  refine ⟨p, text, kept, rfl, fun empty => ?_⟩
  have length := congrArg String.length empty
  simp [String.length_append] at length

/-- A poster path with blanks around it and two slashes in front reads, at the default settings,
as the address at the listed movies' width, with one slash at each join. -/
theorem padded_poster_path_gets_summary_address :
    ImageField.read {} (.obj [("poster_path", .str " //abc.jpg ")]) .summaryPoster =
        .ok (some "https://image.tmdb.org/t/p/w342/abc.jpg") ∧
      "https://image.tmdb.org/t/p/w342/abc.jpg" ≠ "" := by
  have read : ImageField.read {} (.obj [("poster_path", .str " //abc.jpg ")]) .summaryPoster =
      .ok (some "https://image.tmdb.org/t/p/w342/abc.jpg") := by
    rfl
  obtain ⟨-, addressed, -⟩ := image_fields_address_their_paths {} _ .summaryPoster _ read
  obtain ⟨p, -, -, -, nonempty⟩ := addressed _ rfl
  exact ⟨read, nonempty⟩

end Cinema.Catalog
