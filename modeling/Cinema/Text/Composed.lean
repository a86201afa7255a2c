import Cinema.Text.Combining
import Cinema.Text.Canonical

/-!
# Composed texts

A text is composed (in Unicode normalization form C) when it is its own canonical composition:
decompose every code point fully, put each run of marks in order of combining class, then join
each starter with the marks and starters after it that compose with it and are not blocked from
it. A mark is blocked from the starter before it when a character between them is a starter or
has a class at least its own.

Hangul syllables decompose and compose by arithmetic: a syllable is a leading consonant, a vowel
and an optional trailing consonant, numbered in that order from U+AC00.
-/

namespace Cinema.Text

def syllableFirst : Nat := 0xAC00

def leadingFirst : Nat := 0x1100

def vowelFirst : Nat := 0x1161

/-- The code point before the first trailing consonant. -/
def trailingBase : Nat := 0x11A7

def leadingCount : Nat := 19

def vowelCount : Nat := 21

/-- The number of trailing consonants, counting none. -/
def trailingCount : Nat := 28

def syllableCount : Nat := leadingCount * vowelCount * trailingCount

def isSyllable (n : Nat) : Bool := syllableFirst ≤ n && n < syllableFirst + syllableCount

def decomposeStep? (n : Nat) : Option (List Nat) :=
  if isSyllable n then
    let s := n - syllableFirst
    let lead := leadingFirst + s / (vowelCount * trailingCount)
    let vowel := vowelFirst + s % (vowelCount * trailingCount) / trailingCount
    let trail := s % trailingCount
    some (if trail = 0 then [lead, vowel] else [lead, vowel, trailingBase + trail])
  else match canonicalSingletons.find? (·.1 == n) with
    | some (_, m) => some [m]
    | none => (canonicalPairs.find? (·.1 == n)).map fun (_, a, b) => [a, b]

/-- The full canonical decomposition of a code point, at most `depth` steps deep. -/
def decomposeWithin : Nat → Nat → List Nat
  | 0, n => [n]
  | depth + 1, n =>
    match decomposeStep? n with
    | some ms => ms.flatMap (decomposeWithin depth)
    | none => [n]

/-- No chain of decompositions is deeper than the number of mappings, since none repeats. -/
def decompositionDepth : Nat := canonicalSingletons.length + canonicalPairs.length + 1

def decompose (ns : List Nat) : List Nat := ns.flatMap (decomposeWithin decompositionDepth)

/-- A run of marks in order of combining class; marks of one class keep their order. -/
def sortMarks (run : List Nat) : List Nat :=
  run.mergeSort fun a b => combiningClass a ≤ combiningClass b

def reorderAfter (run : List Nat) : List Nat → List Nat
  | [] => sortMarks run
  | n :: rest =>
    if combiningClass n = 0 then sortMarks run ++ n :: reorderAfter [] rest
    else reorderAfter (run ++ [n]) rest

/-- The canonical order of a text: each run of marks sorted by combining class. -/
def reorder (ns : List Nat) : List Nat := reorderAfter [] ns

def composePair? (a b : Nat) : Option Nat :=
  if leadingFirst ≤ a ∧ a < leadingFirst + leadingCount ∧ vowelFirst ≤ b ∧
      b < vowelFirst + vowelCount then
    some (syllableFirst + ((a - leadingFirst) * vowelCount + (b - vowelFirst)) * trailingCount)
  else if isSyllable a ∧ (a - syllableFirst) % trailingCount = 0 ∧ trailingBase < b ∧
      b < trailingBase + trailingCount then
    some (a + (b - trailingBase))
  else
    (canonicalPairs.find? fun (c, x, y) =>
      x == a && y == b && !compositionExclusions.contains c).map (·.1)

/-- The state of composition: what is finished, the last starter if one was seen, and the
characters after that starter that did not compose with it. -/
structure Composing where
  done : List Nat
  starter : Option Nat
  after : List Nat

/-- Whether a character of combining class `k` is blocked from the starter by `after`. -/
def isBlocked (after : List Nat) (k : Nat) : Bool := after.any fun b => k ≤ combiningClass b

def Composing.push (st : Composing) (n : Nat) : Composing :=
  let k := combiningClass n
  match st.starter with
  | none => if k = 0 then { st with starter := some n } else { st with done := st.done ++ [n] }
  | some s =>
    match (if isBlocked st.after k then none else composePair? s n) with
    | some c => { st with starter := some c }
    | none =>
      if k = 0 then ⟨st.done ++ s :: st.after, some n, []⟩
      else { st with after := st.after ++ [n] }

def Composing.finish (st : Composing) : List Nat :=
  match st.starter with
  | some s => st.done ++ s :: st.after
  | none => st.done

def compose (ns : List Nat) : List Nat := (ns.foldl Composing.push ⟨[], none, []⟩).finish

def composed (ns : List Nat) : List Nat := compose (reorder (decompose ns))

def isComposed (ns : List Nat) : Bool := composed ns == ns

end Cinema.Text
