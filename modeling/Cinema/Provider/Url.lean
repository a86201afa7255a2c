import Cinema.Json.Display
import Cinema.Text.Encoding
import Cinema.Text.Integer
import Cinema.Fault
import Cinema.Provider.Host
import Cinema.Text.Wide

/-!
# Request targets

A request names its target by a URL reference, which the client resolves against its base path.
A reference splits into scheme, authority (user information, host, service number), path, query
and fragment. A reference with a scheme and a host is absolute and keeps its own path; any other
is relative, and its path, without leading slashes, is appended to the base path and a `/`. The
request's parameters take the query's place, and the fragment is dropped. Dot segments are
removed, and the path the request reaches is the percent-decoding of the result.

A reference is refused when it has more than 65536 code points, holds an ASCII control character,
names a host that `checkHost` refuses or a service number that is no integer, or has a part that
UTF-8 cannot write. No part of a URL may be written (`quote`) with more than 65536 characters.
-/
namespace Cinema.Provider

open Cinema.Json

/-- The parts of a URL reference; an absent authority is empty. -/
structure Reference where
  scheme : String
  authority : List Char
  path : List Char
  query : Option (List Char)
  fragment : Option (List Char)
  deriving DecidableEq, Repr

/-- The parts of an authority; `service` is what follows the host and its `:`, possibly nothing. -/
structure Authority where
  userinfo : List Char
  host : List Char
  service : List Char
  deriving DecidableEq, Repr

namespace Reference

def isSchemeChar (c : Char) : Bool := c.isAlphanum || c == '+' || c == '-' || c == '.'

/-- The scheme at the front of a reference and what follows its `:`; the empty scheme and the
whole reference when there is none. -/
def splitScheme (cs : List Char) : String × List Char :=
  match cs with
  | ':' :: rest => ("", rest)
  | c :: rest =>
    if c.isAlpha then
      let tail := rest.takeWhile isSchemeChar
      match rest.drop tail.length with
      | ':' :: more => (String.ofList (c :: tail), more)
      | _ => ("", cs)
    else ("", cs)
  | [] => ("", [])

def splitTail : List Char → Option (List Char) × Option (List Char)
  | '?' :: rest =>
    let query := rest.takeWhile (· != '#')
    match rest.drop query.length with
    | '#' :: frag => (some query, some frag)
    | _ => (some query, none)
  | '#' :: frag => (none, some frag)
  | _ => (none, none)

def split (cs : List Char) : Reference :=
  let (scheme, rest) := splitScheme cs
  let (authority, rest) := match rest with
    | '/' :: '/' :: more =>
      let a := more.takeWhile fun c => c != '/' && c != '?' && c != '#'
      (a, more.drop a.length)
    | _ => ([], rest)
  let path := rest.takeWhile fun c => c != '?' && c != '#'
  let (query, fragment) := splitTail (rest.drop path.length)
  ⟨scheme, authority, path, query, fragment⟩

end Reference

namespace Authority

def lastIndex? (c : Char) (cs : List Char) : Option Nat :=
  (cs.zipIdx.filter (·.1 == c)).getLast?.map (·.2)

/-- Splits an authority: user information up to the last `@`; a host in brackets up to the last
`]`, or else up to `:`; and the service number after one `:`. -/
def split (cs : List Char) : Authority :=
  let (userinfo, rest) := match lastIndex? '@' cs with
    | some i => (cs.take i, cs.drop (i + 1))
    | none => ([], cs)
  let (host, rest) := match rest, lastIndex? ']' rest with
    | '[' :: _, some j => (rest.take (j + 1), rest.drop (j + 1))
    | _, _ =>
      let h := rest.takeWhile fun c => c != ':' && c != '@'
      (h, rest.drop h.length)
  let service := match rest with
    | ':' :: p => p
    | p => p
  ⟨userinfo, host, service⟩

end Authority

def invalid {α : Type} (message : String) : Except Fault α := .error (.invalidUrl message)

def readService (service : List Char) : Except Fault (Option Int) :=
  if service.isEmpty then .ok none
  else match Text.readInt (String.ofList service) with
    | .ok n => .ok (some n)
    | .error _ => invalid ("Invalid port: " ++ quoted (String.ofList service))

def firstControl? (ns : List Nat) : Option (Nat × Nat) :=
  ns.zipIdx.find? fun (n, _) => n < 0x20 || n == 0x7F

def firstRun? (p : Nat → Bool) (ns : List Nat) : Option (List Nat × Nat) :=
  (ns.findIdx? p).map fun i => ((ns.drop i).takeWhile p, i)

/-- The characters of a part of a reference, which must be writable in UTF-8: a lone surrogate
half is refused. The part is written one character at a time, so the half is alone at place `0`
of what was being written. -/
def writable (part : List Char) : Except Fault (List Char) :=
  let codes := Text.Wide.codes part
  match codes.find? Text.Wide.isHalf with
  | some n => .error (.unencodable .utf8 [n] 0)
  | none => .ok (codes.map Char.ofNat)

/-- A path without its dot segments: split at `/`, each `.` dropped, each `..` dropping the
segment before it unless only the leading empty one is left, joined again by `/`. -/
def removeDotSegments (path : List Char) : List Char :=
  let step (kept : List String) (seg : String) : List String :=
    if seg == "." then kept
    else if seg == ".." then
      match kept with
      | [] | [""] => kept
      | _ :: rest => rest
    else seg :: kept
  ("/".intercalate (((String.ofList path).splitOn "/").foldl step []).reverse).toList

def hexValue? (c : Char) : Option Nat :=
  if c.isDigit then some (c.toNat - 48)
  else if 'a' ≤ c ∧ c ≤ 'f' then some (c.toNat - 87)
  else if 'A' ≤ c ∧ c ≤ 'F' then some (c.toNat - 55)
  else none

/-- The octets of a path: each `%XX` one octet, every other character its UTF-8 octets. -/
def pathOctets : List Char → List UInt8
  | '%' :: h :: l :: rest =>
    match hexValue? h, hexValue? l with
    | some a, some b => UInt8.ofNat (16 * a + b) :: pathOctets rest
    | _, _ => String.utf8EncodeChar '%' ++ pathOctets (h :: l :: rest)
  | c :: rest => String.utf8EncodeChar c ++ pathOctets rest
  | [] => []

/-- The percent-decoded text of a path, `/` when it is empty. -/
def decodePath (path : List Char) : String :=
  if path.isEmpty then "/" else Text.decodeUtf8Lenient (pathOctets path)

/-! ## Written parts -/

/-- The most code points a reference, and the most characters a written part of a URL, may
have. -/
def maxUrlLength : Nat := 65536

def isUnreserved (c : Char) : Bool := c.isAlphanum || c == '-' || c == '.' || c == '_' || c == '~'

/-- The sub-delimiters, which stay as they are in every part but a query value. -/
def subDelims : List Char := "!$&'()*+,;=".toList

/-- The characters that stay as they are in a path besides the unreserved ones; a query keeps
`?` too, and a fragment `?` and `#`. -/
def pathSafe : List Char := subDelims ++ "`\x7b\x7d%|^\\\":/[]@".toList

def querySafe : List Char := pathSafe ++ ['?']

def fragmentSafe : List Char := querySafe ++ ['#']

def userinfoSafe : List Char := subDelims ++ [':']

def hostSafe : List Char := subDelims ++ "\"`\x7b\x7d%|\\".toList

def hexDigit (d : Nat) : Char := Char.ofNat (if d < 10 then 48 + d else 55 + d)

def percentOctets (c : Char) : List Char :=
  (String.utf8EncodeChar c).flatMap fun b => ['%', hexDigit (b.toNat / 16), hexDigit (b.toNat % 16)]

def quoteChar (safe : List Char) (c : Char) : List Char :=
  if isUnreserved c || safe.contains c then [c] else percentOctets c

/-- A part of a URL as written: a `%` with two hexadecimal digits stays as it is, and every other
character is written by `quoteChar`. -/
def quote (safe : List Char) : List Char → List Char
  | '%' :: h :: l :: rest =>
    if (hexValue? h).isSome && (hexValue? l).isSome then '%' :: h :: l :: quote safe rest
    else quoteChar safe '%' ++ quote safe (h :: l :: rest)
  | c :: rest => quoteChar safe c ++ quote safe rest
  | [] => []

def defaultService? (scheme : String) : Option Int :=
  match scheme with
  | "ftp" => some 21
  | "http" | "ws" => some 80
  | "https" | "wss" => some 443
  | _ => none

/-- A checked host as a URL writes it: an IPv4 address or a host in brackets as it stands, any
other ASCII host lowercased and quoted, and a domain name by its ASCII form. -/
def hostForm (host : List Nat) : List Char :=
  if looksLikeIPv4 host || isBracketed host then host.map Char.ofNat
  else if host.all (· < 0x80) then quote hostSafe ((Domain.asciiLower host).map Char.ofNat)
  else (Domain.toAscii? (Text.lowerCodes host)).getD []

/-- An authority as a URL writes it: the user information quoted and followed by `@` when there
is any, the host, and `:` with the service number when one is written that the scheme does not
stand for. -/
def authorityForm (scheme : String) (userinfo : List Char) (host : List Nat) (service : Option Int) :
    List Char :=
  (if userinfo.isEmpty then [] else quote userinfoSafe userinfo ++ ['@']) ++ hostForm host ++
    match service with
    | some n => if defaultService? scheme = some n then [] else ':' :: (toString n).toList
    | none => []

/-- Checks the written length of each part of a URL, in order: the first that has more than
`maxUrlLength` characters is refused by its name. -/
def checkWidths : List (String × Nat) → Except Fault Unit
  | [] => .ok ()
  | (part, width) :: rest =>
    if maxUrlLength < width then invalid ("URL component '" ++ part ++ "' too long")
    else checkWidths rest

/-- Where a request goes: the host its reference names when the reference is absolute (none for
the client's own host), as code points, and the path it reaches. An absolute reference keeps
its own parts, named with their written lengths: the authority and the path, which the URL
writes before the query, and the fragment after it. A relative reference keeps none: the URL
has the client's scheme and host and the merged path, checked when it was merged. -/
structure Target where
  host : Option (List Nat)
  path : String
  leading : List (String × Nat)
  trailing : List (String × Nat)
  deriving DecidableEq, Repr

/-- Where a request for reference `ref`, a wide text, goes, relative references below
`basePath`. -/
def resolveTarget (basePath : String) (ref : String) : Except Fault Target := do
  let cs := ref.toList
  let codes := Text.Wide.codes cs
  if maxUrlLength < codes.length then invalid "URL too long"
  else match firstControl? codes with
    | some (n, i) =>
      invalid ("Invalid non-printable ASCII character in URL, " ++ quoted (Char.ofNat n).toString ++
        " at position " ++ toString i ++ ".")
    | none =>
      let r := Reference.split cs
      let a := Authority.split r.authority
      let userinfo ← writable a.userinfo
      checkHost (Text.Wide.codes a.host)
      let service ← readService a.service
      let hasScheme := !r.scheme.isEmpty
      let hasAuthority := !a.userinfo.isEmpty || !a.host.isEmpty || service.isSome
      if !hasScheme && !hasAuthority && r.path.take 2 == ['/', '/'] then
        invalid "Relative URLs cannot have a path starting with '//'"
      else if !hasScheme && !hasAuthority && r.path.head? == some ':' then
        invalid "Relative URLs cannot have a path starting with ':'"
      else
        let path ← writable (if hasScheme || hasAuthority then removeDotSegments r.path else r.path)
        let query ← r.query.mapM writable
        let fragment ← r.fragment.mapM writable
        if hasScheme && !a.host.isEmpty then
          let authority := authorityForm r.scheme userinfo (Text.Wide.codes a.host) service
          pure ⟨some (Text.Wide.codes a.host), decodePath path,
            [("authority", authority.length), ("path", (quote pathSafe path).length)],
            (fragment.map fun f => ("fragment", (quote fragmentSafe f).length)).toList⟩
        else
          let rest := path.dropWhile (· == '/')
          -- the base path ends in `/` once merged, and the query stays with the merged path
          checkWidths (("path", basePath.length + 1 + (quote pathSafe rest).length) ::
            (query.map fun q => ("query", (quote querySafe q).length)).toList)
          pure ⟨none, decodePath (removeDotSegments (basePath.toList ++ '/' :: rest)), [], []⟩

end Cinema.Provider
