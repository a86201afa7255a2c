import Mathlib.Data.List.TakeWhile
import Cinema.Proofs.Catalog.Choices
import Cinema.Proofs.Service.Guards

/-!
# The query a catalog request carries

Every catalog method past its entry guards writes one request to the provider. Its query is the
method's set parameters, in the catalog's order and each with the text of its value, then the
client's API key, sent once and last. A parameter is set unless it is `null`, the empty text or
the empty list. The request is written only if UTF-8 can write all of it, its merged path has at
most 65536 characters and its query, written as a form, at most 65536; otherwise nothing is sent
and the method answers "internal". A discovery query sends its order and its ways to watch in the
provider's spellings, exactly when they are known. The main statement is
`catalog_query_carries_set_fields_then_key`.
-/

set_option autoImplicit false
set_option relaxedAutoImplicit false

namespace Cinema.Text.Wide

/-- Whether a wide text holds a lone surrogate half, which UTF-8 cannot write. -/
def HoldsHalf (s : String) : Prop := ∃ n ∈ codes s.toList, isHalf n = true

theorem isHalf_toNat (c : Char) : isHalf c.toNat = false := by
  have valid := c.valid
  simp only [UInt32.isValidChar, Nat.isValidChar] at valid
  simp only [isHalf, Char.toNat, Bool.and_eq_false_imp, decide_eq_true_eq,
    decide_eq_false_iff_not, Nat.not_lt]
  omega

theorem codes_of_no_mark {cs : List Char} (plain : ∀ c ∈ cs, c ≠ mark) :
    codes cs = cs.map Char.toNat := by
  induction cs with
  | nil => rfl
  | cons c rest ih =>
    have notMark : c ≠ mark := plain c (by simp)
    simp only [codes, codesAfter, if_neg notMark, List.map_cons]
    rw [← codes, ih fun d mem => plain d (by simp [mem])]

/-- A text without the mark that opens a two-character code: each character stands for itself. -/
def Unmarked (s : String) : Prop := ∀ c ∈ s.toList, c ≠ mark

-- decided along the text: a search over every character would be found first otherwise
instance : DecidablePred Unmarked := fun s => List.decidableBAll (· ≠ mark) s.toList

theorem Unmarked.not_holdsHalf {s : String} (plain : Unmarked s) : ¬HoldsHalf s := by
  rintro ⟨n, mem, half⟩
  rw [codes_of_no_mark plain, List.mem_map] at mem
  obtain ⟨c, -, rfl⟩ := mem
  rw [isHalf_toNat] at half
  cases half

@[simp]
theorem unmarked_append {s t : String} : Unmarked (s ++ t) ↔ Unmarked s ∧ Unmarked t := by
  simp only [Unmarked, String.toList_append, List.mem_append, or_imp, forall_and]

@[simp]
theorem unmarked_ofList {cs : List Char} : Unmarked (String.ofList cs) ↔ ∀ c ∈ cs, c ≠ mark := by
  simp only [Unmarked, String.toList_ofList]

theorem ne_mark_of_isDigit {c : Char} (digit : c.isDigit = true) : c ≠ mark := by
  rintro rfl
  cases digit

theorem ne_mark_of_mem_toDigits {n : Nat} {c : Char} (mem : c ∈ Nat.toDigits 10 n) : c ≠ mark :=
  ne_mark_of_isDigit (Nat.isDigit_of_mem_toDigits (by decide) (by decide) mem)

theorem unmarked_toString (n : Nat) : Unmarked (toString n) := by
  intro c mem
  rw [Nat.toString_eq_repr, Nat.toList_repr] at mem
  exact ne_mark_of_mem_toDigits mem

end Cinema.Text.Wide

namespace Cinema.Binary64

open Cinema.Text.Wide

theorem layout_unmarked {ds : List Char} (digits : ∀ c ∈ ds, c ≠ mark) (point : Int) :
    Unmarked (layout ds point) := by
  have whole : Unmarked (String.ofList ds) := unmarked_ofList.mpr digits
  have take : ∀ n, Unmarked (String.ofList (ds.take n)) := fun n =>
    unmarked_ofList.mpr fun c mem => digits c (List.mem_of_mem_take mem)
  have drop : ∀ n, Unmarked (String.ofList (ds.drop n)) := fun n =>
    unmarked_ofList.mpr fun c mem => digits c (List.mem_of_mem_drop mem)
  have zeros : ∀ n, Unmarked (String.ofList (List.replicate n '0')) := by
    intro n
    refine unmarked_ofList.mpr fun c mem => ?_
    rw [List.eq_of_mem_replicate mem]
    decide
  have pieces : Unmarked "" ∧ Unmarked "." ∧ Unmarked "e" ∧ Unmarked "-" ∧ Unmarked "+" ∧
      Unmarked "0" ∧ Unmarked "0." ∧ Unmarked ".0" := by decide
  unfold layout
  dsimp only
  split_ifs <;>
    simp only [unmarked_append, -String.reduceAppend, pieces, whole, take, drop, zeros,
      unmarked_toString, and_self]

theorem render_unmarked {style : Style} (words : Unmarked style.infinity ∧ Unmarked style.notANumber)
    (x : Float) : Unmarked (render style x) := by
  have digits : ∀ n, ∀ c ∈ digitChars n, c ≠ mark := fun _ _ => ne_mark_of_mem_toDigits
  have pieces : Unmarked "" ∧ Unmarked "-" ∧ Unmarked "0.0" := by decide
  unfold render
  split
  · split_ifs <;> simp only [unmarked_append, -String.reduceAppend, pieces, words, and_self]
  · dsimp only
    split_ifs <;>
      simp only [unmarked_append, -String.reduceAppend, pieces, layout_unmarked (digits _), and_self]

end Cinema.Binary64

namespace Cinema.Provider

open Cinema.Json Cinema.Text.Wide

/-! ## Plain paths resolve -/

def isPathChar (c : Char) : Bool :=
  let n := c.toNat
  (48 ≤ n && n ≤ 57) || (65 ≤ n && n ≤ 90) || (97 ≤ n && n ≤ 122) || n == 47 || n == 95 || n == 45

/-- A plain relative path: a `/` not followed by another, then path characters only. -/
structure PlainPath (cs : List Char) : Prop where
  chars : ∀ c ∈ cs, isPathChar c = true
  rooted : ∃ c rest, cs = '/' :: c :: rest ∧ c ≠ '/'

section PathChar

variable {c : Char} (path : isPathChar c = true)
include path

theorem ne_mark_of_isPathChar : c ≠ mark := by
  intro same
  subst same
  simp [isPathChar, mark] at path

theorem not_control_of_isPathChar : 0x20 ≤ c.toNat ∧ c.toNat ≠ 0x7F := by
  simp only [isPathChar, Bool.or_eq_true, Bool.and_eq_true, decide_eq_true_eq, beq_iff_eq] at path
  omega

theorem ne_query_of_isPathChar : c ≠ '?' ∧ c ≠ '#' := by
  constructor <;> intro same <;> subst same <;> simp [isPathChar] at path

end PathChar

theorem PlainPath.append {cs ds : List Char} (plain : PlainPath cs)
    (chars : ∀ c ∈ ds, isPathChar c = true) : PlainPath (cs ++ ds) := by
  obtain ⟨c, rest, rfl, second⟩ := plain.rooted
  refine ⟨fun x mem => ?_, c, rest ++ ds, rfl, second⟩
  rcases List.mem_append.mp mem with early | late
  · exact plain.chars x early
  · exact chars x late

/-- The test for a plain path, so that a written path is checked by evaluation. -/
def isPlainPath : List Char → Bool
  | '/' :: c :: rest => c != '/' && ('/' :: c :: rest).all isPathChar
  | _ => false

theorem PlainPath.of_isPlainPath {cs : List Char} (plain : isPlainPath cs = true) : PlainPath cs := by
  unfold isPlainPath at plain
  split at plain
  · rename_i c rest
    simp only [Bool.and_eq_true, bne_iff_ne, ne_eq, List.all_eq_true] at plain
    exact ⟨plain.2, c, rest, rfl, plain.1⟩
  · cases plain

theorem isPathChar_of_mem_toDigits {n : Nat} {c : Char} (mem : c ∈ Nat.toDigits 10 n) :
    isPathChar c = true := by
  have range : 48 ≤ c.toNat ∧ c.toNat ≤ 57 :=
    Char.isDigit_iff_toNat.mp (Nat.isDigit_of_mem_toDigits (by decide) (by decide) mem)
  simp [isPathChar, range.1, range.2]

theorem isPathChar_of_mem_toString {n : Int} {c : Char} (mem : c ∈ (toString n).toList) :
    isPathChar c = true := by
  rw [Int.toString_eq_repr, Int.repr_eq_if] at mem
  split at mem
  · rw [Nat.toList_repr] at mem
    exact isPathChar_of_mem_toDigits mem
  · rw [String.toList_append, Nat.toList_repr] at mem
    rcases List.mem_append.mp mem with sign | digits
    · rw [show "-".toList = ['-'] from rfl, List.mem_singleton] at sign
      subst sign
      rfl
    · exact isPathChar_of_mem_toDigits digits

namespace Reference

theorem split_plain {cs : List Char} (plain : PlainPath cs) : split cs = ⟨"", [], cs, none, none⟩ := by
  obtain ⟨c, rest, rfl, second⟩ := plain.rooted
  have toEnd : ('/' :: c :: rest).takeWhile (fun x => x != '?' && x != '#') = '/' :: c :: rest := by
    rw [List.takeWhile_eq_self_iff]
    intro x mem
    obtain ⟨noQuery, noFragment⟩ := ne_query_of_isPathChar (plain.chars x mem)
    simp [noQuery, noFragment]
  have scheme : splitScheme ('/' :: c :: rest) = ("", '/' :: c :: rest) := rfl
  simp only [split, scheme]
  split
  · rename_i more same
    simp only [List.cons.injEq, true_and] at same
    exact absurd same.1 second
  · simp only [toEnd, List.drop_length]
    rfl

end Reference

theorem Authority.split_nil : Authority.split [] = ⟨[], [], []⟩ := rfl

theorem writable_of_no_mark {cs : List Char} (plain : ∀ c ∈ cs, c ≠ mark) : writable cs = .ok cs := by
  have whole : (cs.map Char.toNat).find? isHalf = none :=
    List.find?_eq_none.mpr fun n mem => by
      obtain ⟨c, -, rfl⟩ := List.mem_map.mp mem
      simp [isHalf_toNat]
  simp [writable, codes_of_no_mark plain, whole, Function.comp_def]

theorem firstControl?_plain {cs : List Char} (plain : ∀ c ∈ cs, isPathChar c = true) :
    firstControl? (cs.map Char.toNat) = none := by
  rw [firstControl?, List.find?_eq_none]
  rintro ⟨n, i⟩ mem
  obtain ⟨c, inPath, rfl⟩ := List.mem_map.mp (List.fst_mem_of_mem_zipIdx mem)
  simpa using not_control_of_isPathChar (plain c inPath)

theorem quote_cons_of_ne (safe : List Char) {c : Char} (rest : List Char) (notPercent : c ≠ '%') :
    quote safe (c :: rest) = quoteChar safe c ++ quote safe rest :=
  quote.eq_2 safe c rest fun _ _ _ same => absurd same notPercent

theorem quote_of_kept {safe cs : List Char} (kept : ∀ c ∈ cs, quoteChar safe c = [c])
    (noPercent : '%' ∉ cs) : quote safe cs = cs := by
  induction cs with
  | nil => rfl
  | cons c rest ih =>
    have notPercent : c ≠ '%' := fun same => noPercent (same ▸ List.mem_cons_self)
    rw [quote_cons_of_ne safe rest notPercent, kept c List.mem_cons_self,
      ih (fun d mem => kept d (List.mem_cons_of_mem c mem))
        (fun mem => noPercent (List.mem_cons_of_mem c mem))]
    rfl

theorem quoteChar_pathSafe {c : Char} (path : isPathChar c = true) : quoteChar pathSafe c = [c] := by
  have alnum : (48 ≤ c.toNat ∧ c.toNat ≤ 57) ∨ (65 ≤ c.toNat ∧ c.toNat ≤ 90) ∨
      (97 ≤ c.toNat ∧ c.toNat ≤ 122) → isUnreserved c = true := by
    intro ranges
    -- unfolded in place, so that no equation lemma of the core classifiers is made here
    delta isUnreserved Char.isAlphanum Char.isAlpha Char.isUpper Char.isLower Char.isDigit
    simp [UInt32.le_iff_toNat_le]
    omega
  have kept : (isUnreserved c || pathSafe.contains c) = true := by
    simp only [isPathChar, Bool.or_eq_true, Bool.and_eq_true, decide_eq_true_eq, beq_iff_eq] at path
    rcases path with ((((digit | upper) | lower) | slash) | low) | dash
    · simp [alnum (.inl digit)]
    · simp [alnum (.inr (.inl upper))]
    · simp [alnum (.inr (.inr lower))]
    · rw [Char.toNat_inj.mp (show c.toNat = '/'.toNat from slash)]
      decide
    · rw [Char.toNat_inj.mp (show c.toNat = '_'.toNat from low)]
      decide
    · rw [Char.toNat_inj.mp (show c.toNat = '-'.toNat from dash)]
      decide
  rw [quoteChar, if_pos kept]

/-- A plain path resolves below the base path, on the client's own host, unless it is longer
than a URL may be, or the merged path is longer than a written part may be. -/
theorem resolveTarget_plain (base : String) {s : String} (plain : PlainPath s.toList) :
    resolveTarget base s =
      if 65536 < s.length then invalid "URL too long"
      else if 65536 < base.length + s.length then invalid "URL component 'path' too long"
      else .ok ⟨none, decodePath (removeDotSegments (base.toList ++ s.toList)), [], []⟩ := by
  have noMark : ∀ c ∈ s.toList, c ≠ mark := fun c mem => ne_mark_of_isPathChar (plain.chars c mem)
  have noControl := firstControl?_plain plain.chars
  have whole := writable_of_no_mark noMark
  obtain ⟨c, rest, eq, second⟩ := plain.rooted
  simp only [resolveTarget, maxUrlLength, codes_of_no_mark noMark, List.length_map,
    String.length_toList, noControl, Reference.split_plain plain, Authority.split_nil]
  split
  · rfl
  · -- a relative path, neither `//` nor `:` at its start, written as it is and merged
    have start : s.toList.take 2 = ['/', c] ∧ s.toList.head? = some '/' := by simp [eq]
    have dropped : s.toList.dropWhile (· == '/') = c :: rest := by simp [eq, second]
    have written : quote pathSafe (c :: rest) = c :: rest :=
      quote_of_kept (fun d mem => quoteChar_pathSafe (plain.chars d (by rw [eq]; simp [mem])))
        fun mem => absurd (plain.chars '%' (by rw [eq]; simp [mem])) (by decide)
    have width : base.length + 1 + (rest.length + 1) = base.length + s.length := by
      rw [← String.length_toList (s := s), eq, List.length_cons, List.length_cons]
      omega
    have empty : writable [] = .ok [] := rfl
    have noHost : checkHost (codes []) = .ok () := rfl
    have noService : readService [] = .ok none := rfl
    have merged : '/' :: c :: rest = s.toList := eq.symm
    simp [empty, noHost, noService, whole, start, second, dropped, written, width, merged,
      checkWidths, maxUrlLength, bind, Except.bind, pure, Except.pure]
    by_cases long : 65536 < base.length + s.length <;> simp [long, invalid]

/-! ## The query of a request -/

/-- The query a request sends for parameters that are neither lists nor objects and none of which
is named `api_key`: the set ones with the texts of their values, in their order, then the key. -/
def sentQuery (ps : List (String × Value)) (key : String) : List (String × String) :=
  (ps.filter fun kv => isSet kv.2).map (fun kv => (kv.1, paramText kv.2)) ++ [("api_key", key)]

def sentText? (v : Value) : Option String := if isSet v then some (paramText v) else none

theorem sentText?_str (t : String) : sentText? (.str t) = if t = "" then none else some t := by
  by_cases empty : t = "" <;> simp [sentText?, isSet, empty, paramText, Value.display]

theorem sentQuery_cons (kv : String × Value) (ps : List (String × Value)) (key : String) :
    sentQuery (kv :: ps) key =
      if isSet kv.2 then (kv.1, paramText kv.2) :: sentQuery ps key else sentQuery ps key := by
  unfold sentQuery
  split <;> simp_all

/-- Only `null`, the empty text and the empty list are left out; `false`, `0` and `0.0` are
sent. -/
theorem isSet_eq_false_iff (v : Value) :
    isSet v = false ↔ v = .null ∨ v = .str "" ∨ v = .arr [] := by
  cases v <;> simp [isSet, String.isEmpty_iff]

def isScalar : Value → Bool
  | .arr _ | .obj _ => false
  | _ => true

theorem isScalar_of_plain : isScalar .null = true ∧ (∀ b, isScalar (.bool b) = true) ∧
    (∀ n, isScalar (.int n) = true) ∧ (∀ x, isScalar (.float x) = true) ∧
    (∀ s, isScalar (.str s) = true) :=
  ⟨rfl, fun _ => rfl, fun _ => rfl, fun _ => rfl, fun _ => rfl⟩

theorem paramText_unmarked {v : Value} (scalar : isScalar v = true) (notText : ∀ s, v ≠ .str s) :
    Unmarked (paramText v) := by
  cases v with
  | null => decide
  | bool b => cases b <;> decide
  | int n => exact fun c mem => ne_mark_of_isPathChar (isPathChar_of_mem_toString mem)
  | float x => exact Binary64.render_unmarked (by decide) x
  | str s => exact absurd rfl (notText s)
  | arr items => cases scalar
  | obj fields => cases scalar

/-- A name a catalog query gives a parameter: not `api_key`, and written as it stands. -/
def FormedName (name : String) : Prop := name ≠ "api_key" ∧ Unmarked name

instance : DecidablePred FormedName := fun _ => inferInstanceAs (Decidable (_ ∧ _))

/-- The parameters of a catalog query: distinct names, each formed, and values that are neither
lists nor objects. -/
structure CatalogParams (ps : List (String × Value)) : Prop where
  nodup : (ps.map Prod.fst).Nodup
  names : ∀ n ∈ ps.map Prod.fst, FormedName n
  scalar : ∀ kv ∈ ps, isScalar kv.2 = true

theorem setField_of_absent {fields : List (String × Value)} {key : String} (v : Value)
    (absent : ∀ kv ∈ fields, kv.1 ≠ key) : Value.setField fields key v = fields ++ [(key, v)] := by
  have none : fields.any (·.1 == key) = false := by
    simpa using absent
  simp [Value.setField, none]

theorem flatMap_expandParam {ps : List (String × Value)} (scalar : ∀ kv ∈ ps, isScalar kv.2 = true) :
    ps.flatMap expandParam = ps.map fun kv => (kv.1, paramText kv.2) := by
  induction ps with
  | nil => rfl
  | cons kv rest ih =>
    have single : expandParam kv = [(kv.1, paramText kv.2)] := by
      have head := scalar kv (by simp)
      obtain ⟨k, v⟩ := kv
      cases v <;> simp_all [expandParam, isScalar]
    simp [single, ih fun kv mem => scalar kv (by simp [mem])]

theorem keyed_eq_sentQuery {ps : List (String × Value)} (catalog : CatalogParams ps) (key : String) :
    (Value.setField (ps.filter fun kv => isSet kv.2) "api_key" (.str key)).flatMap expandParam =
      sentQuery ps key := by
  have absent : ∀ kv ∈ ps.filter (fun kv => isSet kv.2), kv.1 ≠ "api_key" := fun kv mem =>
    (catalog.names kv.1 (List.mem_map_of_mem (List.mem_filter.mp mem).1)).1
  have scalar : ∀ kv ∈ ps.filter (fun kv => isSet kv.2) ++ [("api_key", .str key)],
      isScalar kv.2 = true := by
    intro kv mem
    rcases List.mem_append.mp mem with kept | last
    · exact catalog.scalar kv (List.mem_filter.mp kept).1
    · rw [List.mem_singleton.mp last]
      rfl
  rw [setField_of_absent _ absent, flatMap_expandParam scalar, List.map_append]
  rfl

theorem firstHalves?_eq_none_iff (s : String) : firstHalves? s = none ↔ ¬HoldsHalf s := by
  simp [firstHalves?, firstRun?, List.findIdx?_eq_none_iff, HoldsHalf]

theorem checkWritable_eq_ok_iff (kvs : List (String × String)) :
    checkWritable kvs = .ok () ↔ ∀ kv ∈ kvs, ¬HoldsHalf kv.1 ∧ ¬HoldsHalf kv.2 := by
  induction kvs with
  | nil => simp [checkWritable]
  | cons kv rest ih =>
    obtain ⟨k, v⟩ := kv
    rw [checkWritable, List.forall_mem_cons, ← ih, ← firstHalves?_eq_none_iff,
      ← firstHalves?_eq_none_iff]
    cases firstHalves? k <;> cases firstHalves? v <;> simp

/-- The query of a catalog request can be written exactly when the key and every text among the
values can: names, numbers and flags always can. -/
theorem checkWritable_sentQuery_iff {ps : List (String × Value)} (catalog : CatalogParams ps)
    (key : String) :
    checkWritable (sentQuery ps key) = .ok () ↔
      ¬HoldsHalf key ∧ ∀ k s, (k, Value.str s) ∈ ps → ¬HoldsHalf s := by
  rw [checkWritable_eq_ok_iff]
  simp only [sentQuery, List.mem_append, List.mem_map, List.mem_filter, List.mem_singleton]
  constructor
  · intro writable
    refine ⟨(writable ("api_key", key) (.inr rfl)).2, fun k s mem => ?_⟩
    by_cases empty : s = ""
    · rw [empty]
      exact Unmarked.not_holdsHalf (by decide)
    · exact (writable (k, s) (.inl ⟨(k, .str s), ⟨mem, by simp [isSet, empty]⟩, rfl⟩)).2
  · rintro ⟨keyWritable, texts⟩ kv (⟨⟨k, v⟩, ⟨mem, -⟩, rfl⟩ | rfl)
    · refine ⟨(catalog.names k (List.mem_map_of_mem mem)).2.not_holdsHalf, ?_⟩
      by_cases text : ∃ s, v = .str s
      · obtain ⟨s, rfl⟩ := text
        exact texts k s mem
      · exact (paramText_unmarked (catalog.scalar _ mem) fun s same => text ⟨s, same⟩).not_holdsHalf
    · exact ⟨(show Unmarked "api_key" by decide).not_holdsHalf, keyWritable⟩

theorem lookup_sentQuery_of_not_mem {ps : List (String × Value)} {k : String} (key : String)
    (absent : k ∉ ps.map Prod.fst) (notKey : k ≠ "api_key") : (sentQuery ps key).lookup k = none := by
  induction ps with
  | nil => simp [sentQuery, notKey]
  | cons kv rest ih =>
    simp only [List.map_cons, List.mem_cons, not_or] at absent
    rw [sentQuery_cons]
    have differ : (k == kv.1) = false := beq_eq_false_iff_ne.mpr absent.1
    split
    · simp [List.lookup_cons, differ, ih absent.2]
    · exact ih absent.2

theorem lookup_sentQuery {ps : List (String × Value)} {k : String} {v : Value} (key : String)
    (nodup : (ps.map Prod.fst).Nodup) (mem : (k, v) ∈ ps) (notKey : k ≠ "api_key") :
    (sentQuery ps key).lookup k = sentText? v := by
  induction ps with
  | nil => cases mem
  | cons kv rest ih =>
    rw [List.map_cons, List.nodup_cons] at nodup
    rw [sentQuery_cons]
    rcases List.mem_cons.mp mem with rfl | later
    · split
      · simp_all [sentText?]
      · simp_all [lookup_sentQuery_of_not_mem, sentText?]
    · have other : (k == kv.1) = false :=
        beq_eq_false_iff_ne.mpr fun same => nodup.1 (same ▸ List.mem_map_of_mem later)
      split
      · simp [List.lookup_cons, other, ih nodup.2 later]
      · exact ih nodup.2 later

/-- A request for a plain path and the parameters of a catalog query goes out exactly when the
merged path is short enough and the query can be written, and written short enough; it goes to
the path below the base path and carries that query. -/
theorem Client.request_eq_ok_iff (c : Client) {path : String} {ps : List (String × Value)}
    (plain : PlainPath path.toList) (catalog : CatalogParams ps) (req : Request) :
    c.request path ps = .ok req ↔
      c.basePath.length + path.length ≤ 65536 ∧ checkWritable (sentQuery ps c.apiKey) = .ok () ∧
        (queryText (sentQuery ps c.apiKey)).length ≤ 65536 ∧
        req = ⟨decodePath (removeDotSegments (c.basePath.toList ++ path.toList)),
          sentQuery ps c.apiKey⟩ := by
  by_cases fits : c.basePath.length + path.length ≤ 65536
  · have resolved : resolveTarget c.basePath path =
        .ok ⟨none, decodePath (removeDotSegments (c.basePath.toList ++ path.toList)), [], []⟩ := by
      rw [resolveTarget_plain c.basePath plain, if_neg (by omega), if_neg (by omega)]
    have noHost : checkHostName none = .ok () := rfl
    simp only [Client.request, resolved, keyed_eq_sentQuery catalog, bind, Except.bind]
    cases checkWritable (sentQuery ps c.apiKey) with
    | error f => simp
    | ok u =>
      -- the query is the one part the URL of a relative reference can still find too long
      by_cases short : (queryText (sentQuery ps c.apiKey)).length ≤ 65536
      · simp [checkWidths, maxUrlLength, Nat.not_lt.mpr short, noHost, pure, Except.pure, fits,
          short, eq_comm]
      · simp [checkWidths, maxUrlLength, Nat.lt_of_not_le short, invalid, short]
  · have refused : ∃ f, resolveTarget c.basePath path = .error f := by
      rw [resolveTarget_plain c.basePath plain]
      split_ifs
      · exact ⟨_, rfl⟩
      · exact ⟨_, rfl⟩
      · omega
    obtain ⟨f, refused⟩ := refused
    simp [Client.request, refused, bind, Except.bind, fits]

end Cinema.Provider

namespace Cinema.Catalog

open Cinema.Json Cinema.Provider Cinema.Text.Wide

/-! ## The parameters of the catalog queries -/

theorem sequenceItems_arr (items : List Value) : sequenceItems (.arr items) = .ok items := by
  cases items <;> rfl

theorem Monetization.providerKeys_arr {items : List Value} {keys : List String}
    (resolved : Monetization.providerKeys (.arr items) = .ok keys) :
    ∃ ways, items.mapM (Choice.resolve (α := Monetization)) = .ok ways ∧
      keys = ways.filterMap Monetization.providerKey? := by
  simp only [Monetization.providerKeys, sequenceItems_arr, bind, Except.bind] at resolved
  split at resolved
  · cases resolved
  · rename_i ways found
    simp only [pure, Except.pure, Except.ok.injEq] at resolved
    exact ⟨ways, found, resolved.symm⟩

theorem isScalar_optionValue {α : Type} {f : α → Value} (scalar : ∀ a, isScalar (f a) = true) :
    ∀ o : Option α, isScalar (optionValue f o) = true
  | some a => scalar a
  | none => rfl

/-- The parameters of a discovery query whose order and ways to watch resolve are those of a
catalog query, with the provider spelling of the order under `sort_by` and the provider
spellings of the known ways to watch, joined by `|`, under `with_watch_monetization_types`. -/
theorem discoverParams_spec {d : Request.DiscoverQuery} {ps : List (String × Value)}
    (formed : discoverParams d = .ok ps) :
    ∃ order ways,
      Choice.resolve (α := SortOrder) (optionValue Request.CodeOrName.toValue d.sortBy) = .ok order ∧
      (d.withWatchMonetizationTypes.map (·.toValue)).mapM (Choice.resolve (α := Monetization)) =
        .ok ways ∧
      ("sort_by", optionValue Value.str order.providerKey?) ∈ ps ∧
      ("with_watch_monetization_types",
        Value.str ("|".intercalate (ways.filterMap Monetization.providerKey?))) ∈ ps ∧
      CatalogParams ps := by
  simp only [discoverParams, bind, Except.bind] at formed
  split at formed
  · cases formed
  · rename_i keys keysFound
    split at formed
    · cases formed
    · rename_i order orderFound
      simp only [pure, Except.pure, Except.ok.injEq] at formed
      subst formed
      obtain ⟨ways, waysFound, rfl⟩ := Monetization.providerKeys_arr keysFound
      refine ⟨order, ways, orderFound, waysFound, by simp, by simp, ?_, ?_, ?_⟩
      · simp only [List.map_cons, List.map_nil]
        decide
      · simp only [List.map_cons, List.map_nil]
        decide
      · simp [isScalar_optionValue, isScalar_of_plain]

theorem SortOrder.providerKey?_filled {o : SortOrder} {s : String} (spelled : o.providerKey? = some s) :
    s ≠ "" := by
  cases o <;> simp only [SortOrder.providerKey?, reduceCtorEq, Option.some.injEq] at spelled <;>
    subst spelled <;> decide

theorem Monetization.providerKey?_spelling {w : Monetization} {s : String}
    (spelled : w.providerKey? = some s) : s ≠ "" ∧ '|' ∉ s.toList := by
  cases w <;> simp only [Monetization.providerKey?, reduceCtorEq, Option.some.injEq] at spelled <;>
    subst spelled <;> decide

theorem sentText?_optionValue_str {o : Option String} (filled : ∀ s, o = some s → s ≠ "") :
    sentText? (optionValue Value.str o) = o := by
  cases o with
  | none => rfl
  | some s => simp [optionValue, sentText?_str, filled s rfl]

theorem intercalate_eq_empty_iff {sep : String} {l : List String} (filled : ∀ s ∈ l, s ≠ "") :
    sep.intercalate l = "" ↔ l = [] := by
  cases l with
  | nil => simp
  | cons s rest =>
    have head : s ≠ "" := filled s (by simp)
    cases rest with
    | nil => simpa using head
    | cons t more => simp [String.append_eq_empty_iff, head]

/-- A discovery query sends the provider spelling of its order under `sort_by`, and nothing
there for the unspecified order; and under `with_watch_monetization_types` the provider
spellings of the known ways to watch it asks for, joined by `|`, so that splitting at `|` gives
them back in order, and nothing there when none is known. -/
theorem discover_sends_order_and_ways {d : Request.DiscoverQuery} {ps : List (String × Value)}
    (formed : discoverParams d = .ok ps) (key : String) :
    ∃ order ways,
      Choice.resolve (α := SortOrder) (optionValue Request.CodeOrName.toValue d.sortBy) = .ok order ∧
      (d.withWatchMonetizationTypes.map (·.toValue)).mapM (Choice.resolve (α := Monetization)) =
        .ok ways ∧
      (sentQuery ps key).lookup "sort_by" = order.providerKey? ∧
      (sentQuery ps key).lookup "with_watch_monetization_types" =
        (if ways.filterMap Monetization.providerKey? = [] then none
          else some ("|".intercalate (ways.filterMap Monetization.providerKey?))) ∧
      ∀ text, (sentQuery ps key).lookup "with_watch_monetization_types" = some text →
        (text.split '|').toList.map (·.copy) = ways.filterMap Monetization.providerKey? := by
  obtain ⟨order, ways, orderFound, waysFound, sortMem, watchMem, catalog⟩ :=
    discoverParams_spec formed
  have spellings : ∀ s ∈ ways.filterMap Monetization.providerKey?, s ≠ "" ∧ '|' ∉ s.toList := by
    intro s mem
    obtain ⟨w, -, spelled⟩ := List.mem_filterMap.mp mem
    exact Monetization.providerKey?_spelling spelled
  have sortBy := lookup_sentQuery key catalog.nodup sortMem (by decide)
  rw [sentText?_optionValue_str fun s spelled => SortOrder.providerKey?_filled spelled] at sortBy
  have watch := lookup_sentQuery key catalog.nodup watchMem (by decide)
  simp only [sentText?_str, intercalate_eq_empty_iff fun s mem => (spellings s mem).1] at watch
  refine ⟨order, ways, orderFound, waysFound, sortBy, watch, fun text found => ?_⟩
  rw [watch] at found
  split at found
  · cases found
  · rename_i known
    cases found
    -- the joined spellings split back at `|`, since no spelling holds one
    have back := String.toList_split_intercalate (c := '|') fun s mem => (spellings s mem).2
    rw [if_neg known] at back
    exact back

end Cinema.Catalog

namespace Cinema.Service

open Cinema.Json Cinema.Catalog Cinema.Provider Cinema.Reviews Cinema.Text.Wide

/-! ## The query every catalog method sends -/

theorem isScalar_textArg (o : Option String) : isScalar (textArg o) = true := by
  cases o <;> rfl

theorem isScalar_wholeArg (o : Option Int) : isScalar (wholeArg o) = true := by
  cases o <;> rfl

theorem isScalar_flagArg (o : Option Bool) : isScalar (flagArg o) = true := by
  cases o <;> rfl

theorem moviePath_plain (n : Int) : PlainPath ("/movie/" ++ (Value.int n).display).toList := by
  rw [String.toList_append]
  exact (PlainPath.of_isPlainPath (by decide)).append fun c mem => isPathChar_of_mem_toString mem

theorem Rpc.query_path_plain {rpc : Rpc} {identity : Option Int} {q : Query}
    (work : rpc.work? identity = some (.query q)) : PlainPath q.path.toList := by
  have suffixed : ∀ (n : Int) (suffix : String), suffix.toList.all isPathChar = true →
      PlainPath ("/movie/" ++ (Value.int n).display ++ suffix).toList := by
    intro n suffix chars
    rw [String.toList_append (s := _ ++ _)]
    exact (moviePath_plain n).append (List.all_eq_true.mp chars)
  cases rpc
  case similar r =>
    cases work
    exact suffixed r.id "/similar" (by decide)
  case details r =>
    cases work
    exact moviePath_plain r.id
  case credits r =>
    cases work
    exact suffixed r.id "/credits" (by decide)
  case reviews r =>
    cases work
    exact suffixed r.id "/reviews" (by decide)
  case addReview r | updateReview r | deleteReview r | getReview r =>
    cases identity <;> cases work
  all_goals
    cases work
    exact PlainPath.of_isPlainPath (by dsimp only [Query.path]; decide)

theorem Rpc.query_params_catalog {rpc : Rpc} {identity : Option Int} {q : Query}
    {ps : List (String × Value)} (work : rpc.work? identity = some (.query q))
    (formed : q.params = .ok ps) : CatalogParams ps := by
  cases rpc
  case discover d =>
    cases work
    obtain ⟨-, -, -, -, -, -, catalog⟩ := discoverParams_spec formed
    exact catalog
  case addReview r | updateReview r | deleteReview r | getReview r =>
    cases identity <;> cases work
  all_goals
    cases work
    simp only [Query.params, Except.ok.injEq] at formed
    subst formed
    refine ⟨?_, ?_, ?_⟩
    · simp only [List.map_cons, List.map_nil]
      decide
    · simp only [List.map_cons, List.map_nil]
      decide
    · simp [isScalar_textArg, isScalar_wholeArg, isScalar_flagArg, isScalar_of_plain]

theorem Rpc.calls_of_request_ok {rpc : Rpc} {env : Surroundings} {ctx : Context} {store : Store}
    {q : Query} {req : Provider.Request} (admitted : ctx.entryError? = none)
    (work : rpc.work? ctx.identity = some (.query q)) (sent : q.request env.client = .ok req) :
    (rpc.run env ctx store).calls = [.http req] := by
  simp [Rpc.run_of_work env store admitted work, Work.start, sent]

theorem Rpc.run_of_request_error {rpc : Rpc} {env : Surroundings} {ctx : Context} {store : Store}
    {q : Query} {f : Fault} (admitted : ctx.entryError? = none)
    (work : rpc.work? ctx.identity = some (.query q)) (refused : q.request env.client = .error f) :
    (rpc.run env ctx store).calls = [] ∧
      (rpc.run env ctx store).answer = some (.error (.ofCode .internal)) := by
  simp [Rpc.run_of_work env store admitted work, Work.start, refused]

theorem Query.request_of_params {q : Query} {ps : List (String × Value)} (c : Client)
    (formed : q.params = .ok ps) : q.request c = c.request q.path ps := by
  simp [Query.request, formed, bind, Except.bind]

theorem Rpc.calls_eq_http_iff {rpc : Rpc} {env : Surroundings} {ctx : Context} {store : Store}
    {q : Query} (admitted : ctx.entryError? = none)
    (work : rpc.work? ctx.identity = some (.query q)) (req : Provider.Request) :
    (rpc.run env ctx store).calls = [.http req] ↔ q.request env.client = .ok req := by
  cases made : q.request env.client with
  | error f =>
    rw [(Rpc.run_of_request_error admitted work made).1]
    simp
  | ok sent =>
    rw [Rpc.calls_of_request_ok admitted work made]
    simp [eq_comm]

/-- The request of every catalog method that passes its entry guards, for every client: its
parameters are distinct and none is named `api_key`. The one GET is sent exactly when the base
path and the query's path together have at most 65536 characters, neither the key nor a text
among the parameters holds a lone surrogate half, and the query written as a form has at most
65536 characters; it goes to the query's path below the base path and carries the set
parameters, in order and each with the text of its value, then the key. Only `null`, the empty text and the empty list are
not set. Otherwise nothing is sent and the method answers "internal". A discovery query sends
its order under `sort_by` exactly when the order is not the unspecified one, and the known ways
to watch joined by `|` exactly when there is one, which splitting at `|` gives back in order. -/
theorem catalog_query_carries_set_fields_then_key (rpc : Rpc) (env : Surroundings) (ctx : Context)
    (store : Store) (q : Query) (ps : List (String × Value)) (admitted : ctx.entryError? = none)
    (work : rpc.work? ctx.identity = some (.query q)) (formed : q.params = .ok ps) :
    (ps.map Prod.fst).Nodup ∧ "api_key" ∉ ps.map Prod.fst ∧
    ((∃ req, (rpc.run env ctx store).calls = [.http req]) ↔
      env.client.basePath.length + q.path.length ≤ 65536 ∧ ¬HoldsHalf env.client.apiKey ∧
        (∀ k s, (k, Value.str s) ∈ ps → ¬HoldsHalf s) ∧
        (queryText (sentQuery ps env.client.apiKey)).length ≤ 65536) ∧
    (∀ req, (rpc.run env ctx store).calls = [.http req] →
      req = ⟨decodePath (removeDotSegments (env.client.basePath.toList ++ q.path.toList)),
        sentQuery ps env.client.apiKey⟩) ∧
    ((¬∃ req, (rpc.run env ctx store).calls = [.http req]) →
      (rpc.run env ctx store).calls = [] ∧
        (rpc.run env ctx store).answer = some (.error (.ofCode .internal))) ∧
    (∀ v, isSet v = false ↔ v = .null ∨ v = .str "" ∨ v = .arr []) ∧
    (∀ d, rpc = .discover d → ∃ order ways,
      Choice.resolve (α := SortOrder) (optionValue Request.CodeOrName.toValue d.sortBy) = .ok order ∧
      (d.withWatchMonetizationTypes.map (·.toValue)).mapM (Choice.resolve (α := Monetization)) =
        .ok ways ∧
      (sentQuery ps env.client.apiKey).lookup "sort_by" = order.providerKey? ∧
      (order.providerKey? = none ↔ order = .unspecified) ∧
      (sentQuery ps env.client.apiKey).lookup "with_watch_monetization_types" =
        (if ways.filterMap Monetization.providerKey? = [] then none
          else some ("|".intercalate (ways.filterMap Monetization.providerKey?))) ∧
      (∀ w : Monetization, w.providerKey? = none ↔ w = .unspecified) ∧
      ∀ text, (sentQuery ps env.client.apiKey).lookup "with_watch_monetization_types" = some text →
        (text.split '|').toList.map (·.copy) = ways.filterMap Monetization.providerKey?) := by
  have catalog := Rpc.query_params_catalog work formed
  have made : ∀ req, (rpc.run env ctx store).calls = [.http req] ↔
      env.client.basePath.length + q.path.length ≤ 65536 ∧
        checkWritable (sentQuery ps env.client.apiKey) = .ok () ∧
        (queryText (sentQuery ps env.client.apiKey)).length ≤ 65536 ∧
        req = ⟨decodePath (removeDotSegments (env.client.basePath.toList ++ q.path.toList)),
          sentQuery ps env.client.apiKey⟩ := by
    intro req
    rw [Rpc.calls_eq_http_iff admitted work, Query.request_of_params env.client formed]
    exact Client.request_eq_ok_iff env.client (Rpc.query_path_plain work) catalog req
  refine ⟨catalog.nodup, fun named => (catalog.names _ named).1 rfl, ?_, fun req sent =>
    ((made req).mp sent).2.2.2, fun unsent => ?_, isSet_eq_false_iff, fun d discover => ?_⟩
  · constructor
    · rintro ⟨req, sent⟩
      obtain ⟨fits, writable, short, -⟩ := (made req).mp sent
      obtain ⟨key, texts⟩ := (checkWritable_sentQuery_iff catalog _).mp writable
      exact ⟨fits, key, texts, short⟩
    · rintro ⟨fits, key, texts, short⟩
      exact ⟨_, (made _).mpr
        ⟨fits, (checkWritable_sentQuery_iff catalog _).mpr ⟨key, texts⟩, short, rfl⟩⟩
  · cases refused : q.request env.client with
    | error f => exact Rpc.run_of_request_error admitted work refused
    | ok req => exact absurd ⟨req, Rpc.calls_of_request_ok admitted work refused⟩ unsent
  · subst discover
    cases work
    obtain ⟨order, ways, orderFound, waysFound, sortBy, watch, back⟩ :=
      discover_sends_order_and_ways formed env.client.apiKey
    exact ⟨order, ways, orderFound, waysFound, sortBy, SortOrder.providerKey?_eq_none_iff order,
      watch, Monetization.providerKey?_eq_none_iff, back⟩

/-- The genre list in English is sent, with its language and then the key. -/
theorem english_genre_list_sends_language_then_key :
    (⟨none, .none, .unwatched⟩ : Context).entryError? = none ∧
    (Rpc.genres ⟨some "en"⟩).work? none = some (.query (.genres (.str "en"))) ∧
    (Query.genres (.str "en")).params = .ok [("language", .str "en")] ∧
    ∃ req, ((Rpc.genres ⟨some "en"⟩).run ⟨{}, { apiKey := "key" }, none, .calm⟩
        ⟨none, .none, .unwatched⟩ Store.initial).calls = [.http req] ∧
      req.params = [("language", "en"), ("api_key", "key")] := by
  obtain ⟨-, -, sends, carries, -⟩ :=
    catalog_query_carries_set_fields_then_key (.genres ⟨some "en"⟩)
      ⟨{}, { apiKey := "key" }, none, .calm⟩ ⟨none, .none, .unwatched⟩ Store.initial _ _ rfl rfl rfl
  have texts : ∀ k s, (k, Value.str s) ∈ [("language", Value.str "en")] → ¬HoldsHalf s := by
    intro k s mem
    simp only [List.mem_singleton, Prod.mk.injEq, Value.str.injEq] at mem
    rw [mem.2]
    exact (show Unmarked "en" by decide).not_holdsHalf
  obtain ⟨req, sent⟩ :=
    sends.mpr ⟨by decide, (show Unmarked "key" by decide).not_holdsHalf, texts, by decide⟩
  refine ⟨rfl, rfl, rfl, req, sent, ?_⟩
  rw [carries req sent]
  rfl

/-- A language holding a lone surrogate half stops the genre list before its request is sent:
nothing is sent and the method answers "internal". -/
theorem genre_list_with_lone_half_sends_nothing :
    ((Rpc.genres ⟨some (ofCodes [0xD800])⟩).run ⟨{}, { apiKey := "key" }, none, .calm⟩
        ⟨none, .none, .unwatched⟩ Store.initial).calls = [] ∧
    ((Rpc.genres ⟨some (ofCodes [0xD800])⟩).run ⟨{}, { apiKey := "key" }, none, .calm⟩
        ⟨none, .none, .unwatched⟩ Store.initial).answer = some (.error (.ofCode .internal)) := by
  have half : HoldsHalf (ofCodes [0xD800]) := by
    refine ⟨0xD800, ?_, rfl⟩
    rw [ofCodes, String.toList_ofList]
    decide
  have work : (Rpc.genres ⟨some (ofCodes [0xD800])⟩).work? none =
      some (.query (.genres (.str (ofCodes [0xD800])))) := rfl
  have catalog := Rpc.query_params_catalog work rfl
  have refused : ∀ req, (Query.genres (.str (ofCodes [0xD800]))).request { apiKey := "key" } ≠
      .ok req := by
    intro req made
    rw [Query.request_of_params _ rfl,
      Client.request_eq_ok_iff _ (Rpc.query_path_plain work) catalog] at made
    exact ((checkWritable_sentQuery_iff catalog "key").mp made.2.1).2 "language" _ (by simp) half
  cases made : (Query.genres (.str (ofCodes [0xD800]))).request { apiKey := "key" } with
  | error f => exact Rpc.run_of_request_error rfl work made
  | ok req => exact absurd made (refused req)

end Cinema.Service
