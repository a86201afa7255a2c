import Cinema.Fault
import Cinema.Json.Display
import Cinema.Text.Wide
import Cinema.Text.Lower
import Cinema.Domain.Label

/-!
# Hosts of a URL

The host of a URL reference is checked by its shape, in this order:

* four runs of ASCII digits between dots must be an IPv4 address: each run of one to three
  digits, no leading zero, at most 255;
* text in brackets must be an IPv6 address: up to eight groups of one to four hexadecimal
  digits between colons, one `::` standing for one or more groups of zeros, the last two groups
  possibly written as an IPv4 address, and after a `%` a zone that is neither empty nor holds
  another `%`;
* an ASCII host is taken as it is;
* any other host, lowercased, must be a domain name that has an ASCII form.

Hosts are texts of code points, so a lone surrogate half can stand in one; it is no letter of
any label.
-/

namespace Cinema.Provider

open Cinema.Json

def isAsciiDigit (n : Nat) : Bool := 0x30 ≤ n && n ≤ 0x39

def isHexDigit (n : Nat) : Bool :=
  isAsciiDigit n || (0x41 ≤ n && n ≤ 0x46) || (0x61 ≤ n && n ≤ 0x66)

def splitAt (sep : Nat) (ns : List Nat) : List (List Nat) :=
  ns.foldr (fun n acc =>
    if n == sep then [] :: acc
    else match acc with
      | l :: rest => (n :: l) :: rest
      | [] => [[n]]) [[]]

def looksLikeIPv4 (host : List Nat) : Bool :=
  let parts := splitAt 0x2E host
  parts.length == 4 && parts.all fun p => !p.isEmpty && p.all isAsciiDigit

def digitsValue (ds : List Nat) : Nat := ds.foldl (fun v d => 10 * v + (d - 0x30)) 0

/-- Whether a part of an IPv4 address is one: one to three ASCII digits, no leading zero unless
it is `0`, at most 255. -/
def isOctet (part : List Nat) : Bool :=
  !part.isEmpty && part.length ≤ 3 && part.all isAsciiDigit &&
    (part == [0x30] || part.head? != some 0x30) && digitsValue part ≤ 255

def isIPv4 (s : List Nat) : Bool :=
  let parts := splitAt 0x2E s
  parts.length == 4 && parts.all isOctet

def isGroup (part : List Nat) : Bool := !part.isEmpty && part.length ≤ 4 && part.all isHexDigit

/-- Whether the parts of an IPv6 address between colons, an IPv4 tail already counted as two
groups, make an address. -/
def groupsOk (parts : List (List Nat)) : Bool :=
  let count := parts.length
  let inner := (parts.drop 1).take (count - 2)
  let gaps := (inner.zipIdx.filter (·.1.isEmpty)).map (·.2 + 1)
  if 9 < count then false
  else match gaps with
    | [] =>
      count == 8 && parts.all isGroup
    | [gap] =>
      let head := parts.take gap
      let tail := parts.drop (gap + 1)
      let head := if head == [[]] then [] else head
      let tail := if tail == [[]] then [] else tail
      head.length + tail.length < 8 && head.all isGroup && tail.all isGroup
    | _ => false

def isIPv6Groups (s : List Nat) : Bool :=
  let parts := splitAt 0x3A s
  if s.isEmpty || parts.length < 3 then false
  else match parts.getLast? with
    | some last =>
      if last.contains 0x2E then isIPv4 last && groupsOk (parts.dropLast ++ [[0x30], [0x30]])
      else groupsOk parts
    | none => false

def isIPv6 (s : List Nat) : Bool :=
  match s.findIdx? (· == 0x25) with
  | some i =>
    let zone := s.drop (i + 1)
    !zone.isEmpty && !zone.contains 0x25 && isIPv6Groups (s.take i)
  | none => isIPv6Groups s

def badHost (what : String) (host : List Nat) : Except Fault Unit :=
  .error (.invalidUrl (what ++ quoted (Text.Wide.ofCodes host)))

def isBracketed (host : List Nat) : Bool :=
  2 ≤ host.length && host.head? == some 0x5B && host.getLast? == some 0x5D

def checkHost (host : List Nat) : Except Fault Unit :=
  if host.isEmpty then .ok ()
  else if looksLikeIPv4 host then
    if isIPv4 host then .ok () else badHost "Invalid IPv4 address: " host
  else if isBracketed host then
    if isIPv6 ((host.drop 1).dropLast) then .ok () else badHost "Invalid IPv6 address: " host
  else if host.all (· < 0x80) then .ok ()
  else if (Domain.toAscii? (Text.lowerCodes host)).isSome then .ok ()
  else badHost "Invalid IDNA hostname: " host

end Cinema.Provider
