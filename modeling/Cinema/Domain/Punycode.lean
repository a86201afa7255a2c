/-!
# Punycode

The Punycode encoding: a label of code points is written in ASCII as its basic (ASCII) code
points, a `-` when there are any, and then the other code points in increasing order, each as the
distance from the last insertion, a variable-length integer in base 36 whose digits are `a` to
`z` and `0` to `9`. The threshold of each digit follows a bias that adapts to the distances seen
so far.

Decoding reads the basic code points up to the last `-` and inserts the others; digits may be
of either case. It fails when an integer is cut short, a digit is no digit, or a code point
would pass U+10FFFF.
-/

namespace Cinema.Domain.Punycode

/-- The digit that writes a value below 36. -/
def digitChar (d : Nat) : Char :=
  if d < 26 then Char.ofNat (0x61 + d) else Char.ofNat (0x16 + d)

/-- The value of a digit, of either case. -/
def digitValue? (c : Char) : Option Nat :=
  let n := c.toNat
  if 0x61 ≤ n ∧ n ≤ 0x7A then some (n - 0x61)
  else if 0x41 ≤ n ∧ n ≤ 0x5A then some (n - 0x41)
  else if 0x30 ≤ n ∧ n ≤ 0x39 then some (n - 0x16)
  else none

/-- The threshold of the digit at weight position `k` (36, 72, …): `k - bias` kept within 1
to 26. -/
def threshold (k bias : Nat) : Nat :=
  if k ≤ bias then 1 else if bias + 26 ≤ k then 26 else k - bias

theorem one_le_threshold (k bias : Nat) : 1 ≤ threshold k bias := by
  unfold threshold
  split
  · omega
  · split <;> omega

/-- Scales a distance down by 35 until it is at most 455, counting 36 for each step. -/
def scaleDown (delta steps : Nat) : Nat × Nat :=
  if 455 < delta then scaleDown (delta / 35) (steps + 36) else (delta, steps)
termination_by delta
decreasing_by omega

/-- The bias after a distance `delta`, with `count` code points written so far; the first
distance is damped by 700, the others by 2. -/
def adapt (delta count : Nat) (first : Bool) : Nat :=
  let d := if first then delta / 700 else delta / 2
  let (d, steps) := scaleDown (d + d / count) 0
  steps + 36 * d / (d + 38)

def integerDigits (bias k q : Nat) : List Char :=
  if q < threshold k bias then [digitChar q]
  else
    digitChar (threshold k bias + (q - threshold k bias) % (36 - threshold k bias)) ::
      integerDigits bias (k + 36) ((q - threshold k bias) / (36 - threshold k bias))
termination_by q
decreasing_by
  have h1 := one_le_threshold k bias
  have : (q - threshold k bias) / (36 - threshold k bias) ≤ q - threshold k bias :=
    Nat.div_le_self _ _
  omega

/-- The state of encoding: the digits written, the distance counted, the bias and how many
code points are written. -/
structure Encoding where
  out : List Char
  delta : Nat
  bias : Nat
  written : Nat

/-- Passes one code point of the input while code point `m` is being inserted; `basic` is the
number of basic code points. -/
def Encoding.visit (basic m : Nat) (st : Encoding) (c : Nat) : Encoding :=
  if c < m then { st with delta := st.delta + 1 }
  else if c = m then
    { out := st.out ++ integerDigits st.bias 36 st.delta, delta := 0,
      bias := adapt st.delta (st.written + 1) (st.written == basic), written := st.written + 1 }
  else st

/-- Inserts the code points `todo`, in increasing order, the last inserted being below `n`. -/
def Encoding.insertAll (input : List Nat) (basic : Nat) :
    List Nat → Nat → Encoding → Encoding
  | [], _, st => st
  | m :: rest, n, st =>
    let st := { st with delta := st.delta + (m - n) * (st.written + 1) }
    let st := input.foldl (Encoding.visit basic m) st
    Encoding.insertAll input basic rest (m + 1) { st with delta := st.delta + 1 }

def sortedDistinct (ns : List Nat) : List Nat :=
  (ns.mergeSort fun a b => a ≤ b).foldr
    (fun n acc => if acc.head? == some n then acc else n :: acc) []

def encode (input : List Nat) : List Char :=
  let basic := input.filter (· < 0x80)
  let others := sortedDistinct (input.filter (0x80 ≤ ·))
  let st := Encoding.insertAll input basic.length others 0x80 ⟨[], 0, 72, basic.length⟩
  (if basic.isEmpty then [] else basic.map Char.ofNat ++ ['-']) ++ st.out

/-- Reads a variable-length integer from weight position `k`, where digits so far weigh `w`
and add to `acc`: the integer and the rest of the text. -/
def readInteger (bias k w acc : Nat) : List Char → Option (Nat × List Char)
  | [] => none
  | c :: rest =>
    match digitValue? c with
    | none => none
    | some d =>
      if d < threshold k bias then some (acc + d * w, rest)
      else readInteger bias (k + 36) (w * (36 - threshold k bias)) (acc + d * w) rest

theorem readInteger_shorter (bias : Nat) :
    ∀ (cs : List Char) (k w acc : Nat) (r : Nat × List Char),
      readInteger bias k w acc cs = some r → r.2.length < cs.length
  | [], _, _, _, _, h => by simp [readInteger] at h
  | c :: rest, k, w, acc, r, h => by
    unfold readInteger at h
    split at h
    · simp at h
    · split at h
      · rw [← Option.some.inj h]
        simp
      · have := readInteger_shorter bias rest _ _ _ r h
        simp only [List.length_cons]
        omega

/-- Inserts the code points the integers of `ext` describe into `out`; `n` is the code point
and `i` the place reached. -/
def insertEach (bias n i : Nat) (first : Bool) (out : List Nat) (ext : List Char) :
    Option (List Nat) :=
  match ext with
  | [] => some out
  | c :: cs =>
    match h : readInteger bias 36 1 0 (c :: cs) with
    | none => none
    | some (delta, rest) =>
      let i := i + delta
      let len := out.length + 1
      let n := n + i / len
      if 0x10FFFF < n then none
      else
        let i := i % len
        insertEach (adapt delta len first) n (i + 1) false (out.insertIdx i n) rest
termination_by ext.length
decreasing_by
  have := readInteger_shorter bias (c :: cs) 36 1 0 (delta, rest) h
  simpa using this

def decode (text : List Char) : Option (List Nat) :=
  match (text.reverse.findIdx? (· == '-')) with
  | some j =>
    let cut := text.length - 1 - j
    insertEach 72 0x80 0 true ((text.take cut).map Char.toNat) (text.drop (cut + 1))
  | none => insertEach 72 0x80 0 true [] text

end Cinema.Domain.Punycode
