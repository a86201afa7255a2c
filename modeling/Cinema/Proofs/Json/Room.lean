import Cinema.Json.Bytes

/-!
# The room of the JSON reader

The reader is given room for a number of nested containers, and the only thing the room decides
is whether it stops at a container nested deeper than that. A reading that does not stop so
gives the same result with more room: the room is checked at each `{` and `[` and nowhere else,
and every other step is the same. So two readings of the same octets that neither stop for depth
agree, whatever their rooms (`readBytes_eq_of_shallow`), and a text that reads as a value with
some room reads as that value, or stops for depth, with any other.
-/

set_option autoImplicit false
set_option relaxedAutoImplicit false

namespace Cinema.Json

/-- More room changes no reading of a value, of an object's members or of an array's items that
does not stop for depth. -/
theorem read_room (fuel : Nat) :
    (∀ room room' cs, room ≤ room' → (∀ k, readValue fuel room cs ≠ .error (.tooDeep k)) →
      readValue fuel room' cs = readValue fuel room cs) ∧
    (∀ room room' cs acc, room ≤ room' → (∀ k, readMembers fuel room cs acc ≠ .error (.tooDeep k)) →
      readMembers fuel room' cs acc = readMembers fuel room cs acc) ∧
    (∀ room room' cs acc, room ≤ room' → (∀ k, readItems fuel room cs acc ≠ .error (.tooDeep k)) →
      readItems fuel room' cs acc = readItems fuel room cs acc) := by
  induction fuel with
  | zero => simp [readValue, readMembers, readItems]
  | succ fuel ih =>
    obtain ⟨ihValue, ihMembers, ihItems⟩ := ih
    refine ⟨?_, ?_, ?_⟩
    · intro room room' cs grows shallow
      unfold readValue
      unfold readValue at shallow
      split
      case h_2 rest =>
        cases room with
        | zero => exact absurd rfl (shallow .object)
        | succ room =>
          obtain ⟨room', rfl⟩ : ∃ r, room' = r + 1 := ⟨room' - 1, by omega⟩
          simp only at shallow ⊢
          split
          · rfl
          · -- past the brace check, the members are read with the room left
            simp only at shallow
            exact ihMembers room room' _ [] (by omega) shallow
      case h_3 rest =>
        cases room with
        | zero => exact absurd rfl (shallow .array)
        | succ room =>
          obtain ⟨room', rfl⟩ : ∃ r, room' = r + 1 := ⟨room' - 1, by omega⟩
          simp only at shallow ⊢
          split
          · rfl
          · simp only at shallow
            exact ihItems room room' _ [] (by omega) shallow
      all_goals rfl
    · intro room room' cs acc grows shallow
      unfold readMembers
      unfold readMembers at shallow
      split
      case h_1 rest =>
        simp only at shallow
        cases hs : readString rest with
        | none => rfl
        | some kr =>
          obtain ⟨key, r⟩ := kr
          simp only [hs, malformed, bind, Except.bind] at shallow ⊢
          split
          · rename_i r' colon
            simp only [colon] at shallow
            -- the member's value does not stop for depth, so more room reads it the same
            have inner : ∀ k, readValue fuel room (skipBlanks r') ≠ .error (.tooDeep k) :=
              fun k deep => shallow k (by rw [deep])
            rw [ihValue room room' _ grows inner]
            split
            · rfl
            · rename_i v read
              simp only [read] at shallow
              split
              · rfl
              · rename_i r'' comma
                simp only [comma] at shallow
                exact ihMembers room room' _ _ grows shallow
              · rfl
          · rfl
      all_goals rfl
    · intro room room' cs acc grows shallow
      unfold readItems
      unfold readItems at shallow
      simp only [bind, Except.bind] at shallow ⊢
      have inner : ∀ k, readValue fuel room cs ≠ .error (.tooDeep k) :=
        fun k deep => shallow k (by rw [deep])
      rw [ihValue room room' cs grows inner]
      split
      · rfl
      · rename_i v read
        simp only [read] at shallow
        split
        · rfl
        · rename_i r' comma
          simp only [comma] at shallow
          exact ihItems room room' _ _ grows shallow
        · rfl

theorem readWideWithin_room {room room' : Nat} (grows : room ≤ room') {text : String}
    (shallow : ∀ k, readWideWithin room text ≠ .error (.tooDeep k)) :
    readWideWithin room' text = readWideWithin room text := by
  unfold readWideWithin at shallow ⊢
  simp only [bind, Except.bind] at shallow ⊢
  have inner : ∀ k, readValue (2 * text.toList.length + 2) room (skipBlanks text.toList) ≠
      .error (.tooDeep k) := fun k deep => shallow k (by rw [deep])
  rw [(read_room _).1 room room' _ grows inner]

theorem readBytes_room {room room' : Nat} (grows : room ≤ room') {bs : List UInt8}
    (shallow : ∀ k, readBytes room bs ≠ .error (.tooDeep k)) :
    readBytes room' bs = readBytes room bs := by
  unfold readBytes at shallow ⊢
  split
  · rename_i text decoded
    simp only [decoded] at shallow
    exact readWideWithin_room grows shallow
  · rfl

theorem readBytes_eq_of_shallow {room room' : Nat} {bs : List UInt8}
    (shallow : ∀ k, readBytes room bs ≠ .error (.tooDeep k))
    (shallow' : ∀ k, readBytes room' bs ≠ .error (.tooDeep k)) :
    readBytes room' bs = readBytes room bs := by
  rcases Nat.le_total room room' with grows | shrinks
  · exact readBytes_room grows shallow
  · exact (readBytes_room shrinks shallow').symm

/-- Octets that read as a value with some room read, with any other room, as that value or stop
at a container nested deeper than that room allows. -/
theorem readBytes_eq_ok_or_tooDeep {room : Nat} (room' : Nat) {bs : List UInt8} {v : Value}
    (reads : readBytes room bs = .ok v) :
    readBytes room' bs = .ok v ∨ ∃ k, readBytes room' bs = .error (.tooDeep k) := by
  by_cases deep : ∃ k, readBytes room' bs = .error (.tooDeep k)
  · exact .inr deep
  · have shallow' : ∀ k, readBytes room' bs ≠ .error (.tooDeep k) :=
      fun k stopped => deep ⟨k, stopped⟩
    have shallow : ∀ k, readBytes room bs ≠ .error (.tooDeep k) := by
      intro k stopped
      rw [reads] at stopped
      cases stopped
    left
    rw [readBytes_eq_of_shallow shallow shallow', reads]

end Cinema.Json
