import Cinema.Text.Composed
import Cinema.Text.Mark
import Cinema.Text.Direction
import Cinema.Domain.Property
import Cinema.Domain.Punycode

/-!
# Labels and domain names

The rules for the labels of an internationalized domain name, and the ASCII form of a name. A
valid label is not empty and has at most 254 code points, is in normalization form C, keeps the
rules on hyphens, does not start with a mark, holds only code points valid there by their
property and context rules, and keeps the bidi rule when it holds a right-to-left character.
An ASCII label stands for itself once lowercased, unless it starts with `xn--`: then the rest must
be the Punycode of a label, written as that label's own Punycode is. Any other label is written
`xn--` and its Punycode; no ASCII form may pass 63 characters. A name splits into labels at the
four full stops, and its ASCII form may not pass 253 characters, or 254 with a final full stop.
-/

namespace Cinema.Domain

open Cinema.Text

def hyphen : Nat := 0x2D

def hyphensOk (label : List Nat) : Bool :=
  (label.drop 2).take 2 != [hyphen, hyphen] && label.head? != some hyphen &&
    label.getLast? != some hyphen

/-- Whether a code point, seen from a joiner, allows the joiner on its side: characters that
let joining pass are skipped, and the first other one must join towards the joiner. -/
def joinsTowards (sides : List Joining) : List Nat → Bool
  | [] => false
  | n :: rest =>
    match joining? n with
    | some .transparent => joinsTowards sides rest
    | some j => sides.contains j
    | none => false

/-- Whether the joiner at place `pos` of a label keeps its rule: after a virama, or for the zero
width non-joiner also between a character joining to the right and one joining to the left. -/
def joinerOk (label : List Nat) (pos : Nat) : Bool :=
  let before := (label.take pos).reverse
  let afterVirama := before.head?.any fun p => combiningClass p == 9
  if label[pos]? == some 0x200C then
    afterVirama ||
      (joinsTowards [.left, .dual] before && joinsTowards [.right, .dual] (label.drop (pos + 1)))
  else if label[pos]? == some 0x200D then afterVirama
  else false

/-- Whether the code point at place `pos` of a label keeps its context rule: a middle dot
between two `l`, a Greek numeral sign before Greek, a Hebrew punctuation after Hebrew, a
Katakana middle dot in a label with kana or Han, and Arabic-Indic digits of one kind only. -/
def contextOk (label : List Nat) (pos : Nat) : Bool :=
  let n := label[pos]?.getD 0
  let before := if pos = 0 then none else label[pos - 1]?
  let after := label[pos + 1]?
  if n = 0xB7 then before == some 0x6C && after == some 0x6C
  else if n = 0x375 then after.any (inRanges greekRanges)
  else if n = 0x5F3 ∨ n = 0x5F4 then before.any (inRanges hebrewRanges)
  else if n = 0x30FB then
    label.any fun m => m != 0x30FB &&
      (inRanges hiraganaRanges m || inRanges katakanaRanges m || inRanges hanRanges m)
  else if 0x660 ≤ n ∧ n ≤ 0x669 then !label.any fun m => 0x6F0 ≤ m && m ≤ 0x6F9
  else if 0x6F0 ≤ n ∧ n ≤ 0x6F9 then !label.any fun m => 0x660 ≤ m && m ≤ 0x669
  else false

def codePointOk (label : List Nat) (pos : Nat) (n : Nat) : Bool :=
  inRanges validRanges n || (inRanges joinerRanges n && joinerOk label pos) ||
    (inRanges contextRanges n && contextOk label pos)

def rightToLeftAllowed : List Direction :=
  [.rightToLeft, .arabicLetter, .arabicNumber, .europeanNumber, .europeanSeparator,
    .commonSeparator, .europeanTerminator, .otherNeutral, .boundaryNeutral, .nonspacingMark]

def leftToRightAllowed : List Direction :=
  [.leftToRight, .europeanNumber, .europeanSeparator, .commonSeparator, .europeanTerminator,
    .otherNeutral, .boundaryNeutral, .nonspacingMark]

def isRightToLeft (d : Direction) : Bool :=
  d == .rightToLeft || d == .arabicLetter || d == .arabicNumber

/-- Whether the classes of a label end well: the last one that is no nonspacing mark is one of
`endings`. -/
def endsWith (endings : List Direction) (ds : List Direction) : Bool :=
  match ds.reverse.dropWhile (· == .nonspacingMark) with
  | d :: _ => endings.contains d
  | [] => false

def directionsOk (ds : List Direction) : Bool :=
  if !ds.any isRightToLeft then true
  else match ds.head? with
    | some .leftToRight =>
      ds.all leftToRightAllowed.contains && endsWith [.leftToRight, .europeanNumber] ds
    | some .rightToLeft | some .arabicLetter =>
      ds.all rightToLeftAllowed.contains &&
        endsWith [.rightToLeft, .arabicLetter, .europeanNumber, .arabicNumber] ds &&
        !(ds.contains .arabicNumber && ds.contains .europeanNumber)
    | _ => false

def isValidLabel (label : List Nat) : Bool :=
  !label.isEmpty && label.length ≤ 254 && isComposed label && hyphensOk label &&
    !(label.head?.any isMark) &&
    label.zipIdx.all (fun (n, pos) => codePointOk label pos n) &&
    (match label.mapM direction? with
      | some ds => directionsOk ds
      | none => false)

/-- The prefix of the ASCII form of a label that is not ASCII. -/
def acePrefix : List Char := ['x', 'n', '-', '-']

def maxLabelLength : Nat := 63

def asciiLower (ns : List Nat) : List Nat :=
  ns.map fun n => if 0x41 ≤ n ∧ n ≤ 0x5A then n + 32 else n

def labelToAscii? (label : List Nat) : Option (List Char) :=
  if label.all (· < 0x80) then
    let lower := asciiLower label
    let chars := label.map Char.ofNat
    let valid := match (lower.map Char.ofNat).splitAt 4 with
      | (pre, rest) =>
        if pre == acePrefix then
          !rest.isEmpty && rest.getLast? != some '-' &&
            (Punycode.decode rest).any fun u => isValidLabel u && Punycode.encode u == rest
        else isValidLabel lower
    if valid && chars.length ≤ maxLabelLength then some chars else none
  else if isValidLabel label then
    let ace := acePrefix ++ Punycode.encode label
    if ace.length ≤ maxLabelLength then some ace else none
  else none

def isFullStop (n : Nat) : Bool := n == 0x2E || n == 0x3002 || n == 0xFF0E || n == 0xFF61

/-- The labels of a name, split at full stops; a name without one is one label. -/
def labelsOf (name : List Nat) : List (List Nat) :=
  name.foldr (fun n acc =>
    if isFullStop n then [] :: acc
    else match acc with
      | l :: rest => (n :: l) :: rest
      | [] => [[n]]) [[]]

def toAscii? (name : List Nat) : Option (List Char) :=
  if 254 < name.length then none
  else
    let labels := labelsOf name
    let trailing := labels.length > 1 && labels.getLast? == some []
    let labels := if trailing then labels.dropLast else labels
    match labels.mapM labelToAscii? with
    | none => none
    | some forms =>
      let joined := (forms.intersperse ['.']).flatten ++ (if trailing then ['.'] else [])
      if joined.length ≤ (if trailing then 254 else 253) then some joined else none

end Cinema.Domain
