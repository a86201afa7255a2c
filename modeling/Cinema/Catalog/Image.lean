import Cinema.Json.Value
import Cinema.Text.Blank

/-!
# Image addresses

The provider gives image paths relative to an image host; the service answers with absolute
addresses. An address is the host's base address without trailing slashes, `/w` and the width
of the image's size tier, `/`, and the path without blanks at either end and without leading
slashes. A path that is not text, or is empty once trimmed so, gives no address.
-/

namespace Cinema.Catalog

open Cinema.Json

structure ImageSettings where
  baseUrl : String := "https://image.tmdb.org/t/p"
  castProfileWidth : Int := 185
  crewProfileWidth : Int := 185
  summaryPosterWidth : Int := 342
  companyLogoWidth : Int := 92
  detailsPosterWidth : Int := 500
  avatarWidth : Int := 45
  deriving Repr

def relativePath (path : String) : String :=
  String.ofList ((Text.trimList path.toList).dropWhile (· == '/'))

def withoutTrailingSlashes (s : String) : String :=
  String.ofList (s.toList.reverse.dropWhile (· == '/')).reverse

/-- The absolute address of an image path at a width, if the path names an image. -/
def ImageSettings.url (s : ImageSettings) (path : Value) (width : Int) : Option String :=
  match path with
  | .str p =>
    let rel := relativePath p
    if rel.isEmpty then none
    else some (withoutTrailingSlashes s.baseUrl ++ "/w" ++ toString width ++ "/" ++ rel)
  | _ => none

end Cinema.Catalog
