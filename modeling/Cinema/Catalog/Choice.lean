import Cinema.Json.Lenient
import Cinema.Text.Blank
import Cinema.Text.Upper
import Cinema.Text.Integer

/-!
# Choices of the wire protocol

Three closed choices travel on the wire as numbers: a person's gender, the order of a discovery
query and the way a title can be watched. Each has a member with code `0` that stands for "not
given", and each member has a name.

A loose value resolves to a member by number or by name: an integer by its code; a text that is
`-` and ASCII digits after trimming and capitalising, by the integer it writes; any other text by
the member's name; everything else, booleans included, and every unknown code or name, to the
member `0`.
-/

namespace Cinema.Catalog

open Cinema.Json

/-- A closed choice with numbered, named members, member `0` meaning "not given". -/
class Choice (α : Type) where
  members : List α
  code : α → Nat
  name : α → String
  unspecified : α

namespace Choice

variable {α : Type} [Choice α]

def ofCode? (n : Int) : Option α := (members : List α).find? fun m => (code m : Int) == n

def ofName? (s : String) : Option α := (members : List α).find? fun m => name m == s

def isIntegerName (s : String) : Bool :=
  match s.toList with
  | '-' :: ds => !ds.isEmpty && ds.all Char.isDigit
  | ds => !ds.isEmpty && ds.all Char.isDigit

/-- The member a loose value names, by code or by name, else member `0`. -/
def resolve (v : Value) : Except Fault α :=
  match v with
  | .bool _ => .ok unspecified
  | .int n => .ok ((ofCode? n).getD unspecified)
  | .str s =>
    let n := Text.upperName (Text.trim s)
    if isIntegerName n then
      match Text.readInt n with
      | .ok k => .ok ((ofCode? k).getD unspecified)
      | .error (.tooManyDigits count) => .error (.tooManyDigits count)
      | .error .malformed => .ok unspecified
    else .ok ((ofName? n).getD unspecified)
  | _ => .ok unspecified

end Choice

inductive Gender where
  | notSet
  | female
  | male
  | nonBinary
  deriving DecidableEq, Repr

instance : Choice Gender where
  members := [.notSet, .female, .male, .nonBinary]
  code
    | .notSet => 0 | .female => 1 | .male => 2 | .nonBinary => 3
  name
    | .notSet => "NOT_SET_OR_NOT_SPECIFIED" | .female => "FEMALE" | .male => "MALE"
    | .nonBinary => "NON_BINARY"
  unspecified := .notSet

/-- The gender of a provider code: `1`, `2` and `3` (also as whole doubles), else not set. -/
def Gender.ofProvider (v : Value) : Gender :=
  match v.whole? with
  | some 1 => .female
  | some 2 => .male
  | some 3 => .nonBinary
  | _ => .notSet

inductive SortOrder where
  | unspecified
  | popularityAsc | popularityDesc
  | revenueAsc | revenueDesc
  | primaryReleaseDateAsc | primaryReleaseDateDesc
  | originalTitleAsc | originalTitleDesc
  | voteAverageAsc | voteAverageDesc
  | voteCountAsc | voteCountDesc
  deriving DecidableEq, Repr

instance : Choice SortOrder where
  members := [.unspecified, .popularityAsc, .popularityDesc, .revenueAsc, .revenueDesc,
    .primaryReleaseDateAsc, .primaryReleaseDateDesc, .originalTitleAsc, .originalTitleDesc,
    .voteAverageAsc, .voteAverageDesc, .voteCountAsc, .voteCountDesc]
  code
    | .unspecified => 0 | .popularityAsc => 1 | .popularityDesc => 2 | .revenueAsc => 3
    | .revenueDesc => 4 | .primaryReleaseDateAsc => 5 | .primaryReleaseDateDesc => 6
    | .originalTitleAsc => 7 | .originalTitleDesc => 8 | .voteAverageAsc => 9
    | .voteAverageDesc => 10 | .voteCountAsc => 11 | .voteCountDesc => 12
  name
    | .unspecified => "SORT_BY_UNSPECIFIED" | .popularityAsc => "POPULARITY_ASC"
    | .popularityDesc => "POPULARITY_DESC" | .revenueAsc => "REVENUE_ASC"
    | .revenueDesc => "REVENUE_DESC" | .primaryReleaseDateAsc => "PRIMARY_RELEASE_DATE_ASC"
    | .primaryReleaseDateDesc => "PRIMARY_RELEASE_DATE_DESC"
    | .originalTitleAsc => "ORIGINAL_TITLE_ASC" | .originalTitleDesc => "ORIGINAL_TITLE_DESC"
    | .voteAverageAsc => "VOTE_AVERAGE_ASC" | .voteAverageDesc => "VOTE_AVERAGE_DESC"
    | .voteCountAsc => "VOTE_COUNT_ASC" | .voteCountDesc => "VOTE_COUNT_DESC"
  unspecified := .unspecified

def SortOrder.providerKey? : SortOrder → Option String
  | .unspecified => none
  | .popularityAsc => some "popularity.asc"
  | .popularityDesc => some "popularity.desc"
  | .revenueAsc => some "revenue.asc"
  | .revenueDesc => some "revenue.desc"
  | .primaryReleaseDateAsc => some "primary_release_date.asc"
  | .primaryReleaseDateDesc => some "primary_release_date.desc"
  | .originalTitleAsc => some "original_title.asc"
  | .originalTitleDesc => some "original_title.desc"
  | .voteAverageAsc => some "vote_average.asc"
  | .voteAverageDesc => some "vote_average.desc"
  | .voteCountAsc => some "vote_count.asc"
  | .voteCountDesc => some "vote_count.desc"

inductive Monetization where
  | unspecified
  | flatrate
  | free
  | ads
  | rent
  | buy
  deriving DecidableEq, Repr

instance : Choice Monetization where
  members := [.unspecified, .flatrate, .free, .ads, .rent, .buy]
  code
    | .unspecified => 0 | .flatrate => 1 | .free => 2 | .ads => 3 | .rent => 4 | .buy => 5
  name
    | .unspecified => "WATCH_MONETIZATION_TYPE_UNSPECIFIED" | .flatrate => "FLATRATE"
    | .free => "FREE" | .ads => "ADS" | .rent => "RENT" | .buy => "BUY"
  unspecified := .unspecified

def Monetization.providerKey? : Monetization → Option String
  | .unspecified => none
  | .flatrate => some "flatrate"
  | .free => some "free"
  | .ads => some "ads"
  | .rent => some "rent"
  | .buy => some "buy"

/-- The items a loose value yields when walked as a sequence: a list its items, a text its
characters, an object its keys; a value that counts as false yields nothing, and any other value
cannot be walked. -/
def sequenceItems (v : Value) : Except Fault (List Value) :=
  if !v.truthy then .ok []
  else match v with
    | .arr items => .ok items
    | .str s => .ok (s.toList.map fun c => .str c.toString)
    | .obj fields => .ok (fields.map fun kv => .str kv.1)
    | other => .error (.notIterable other.kindName)

def Monetization.providerKeys (v : Value) : Except Fault (List String) := do
  let items ← sequenceItems v
  let resolved ← items.mapM (Choice.resolve (α := Monetization))
  pure (resolved.filterMap Monetization.providerKey?)

end Cinema.Catalog
