import Mathlib.Logic.Function.Basic
import Cinema.Reviews.Repository

/-!
# The stored procedures, one lemma each

The review table is read through one view, `Store.find?`: the review of a key, if any. Each
procedure gets an equation saying what it reports and which store it leaves, once its argument
checks have passed, and a lemma for each check that can refuse it. A written rating from 1 to 10
passes every rating check, so what remains are a key outside the 64-bit columns and a text
holding U+0000.
-/

set_option autoImplicit false
set_option relaxedAutoImplicit false

namespace Cinema.Reviews

open Cinema.Calendar

/-- Whether the store takes a key: both ids fit its 64-bit columns. -/
def Key.storable (k : Key) : Bool := fitsBits 64 k.user && fitsBits 64 k.movie

/-- Whether the store takes a text: it holds no U+0000. -/
def textStorable (t : String) : Bool := !t.toList.contains (Char.ofNat 0)

/-- A written rating that the review requests allow: from 1 to 10. -/
def Operation.rated : Operation → Prop
  | .add _ _ r _ | .update _ _ r _ => 1 ≤ r ∧ r ≤ 10
  | .delete .. | .get .. => True

@[simp]
theorem require_true {e : StoreError} : require true e = .ok () := rfl

@[simp]
theorem require_false {e : StoreError} : require false e = .error e := rfl

theorem checkKey_eq (k : Key) :
    checkKey k = require k.storable (.rejected "bigint out of range") := rfl

theorem checkWrite_of_rated {r : Int} (rated : 1 ≤ r ∧ r ≤ 10) (t : String) :
    checkWrite r t = require (textStorable t)
      (.rejected "PostgreSQL text fields cannot contain NUL (0x00) bytes") := by
  have fits : fitsBits 32 r = true := by
    simp [fitsBits]
    omega
  simp [checkWrite, fits, textStorable, bind, Except.bind]

theorem checkStored_of_rated {r : Int} (rated : 1 ≤ r ∧ r ≤ 10) : checkStored r = .ok () := by
  have fits : fitsBits 16 r = true := by
    simp [fitsBits]
    omega
  have within : (1 ≤ r && r ≤ 10) = true := by simpa using rated
  simp [checkStored, fits, within, bind, Except.bind]

namespace Store

variable (s : Store)

/-! ## The view -/

theorem find?_append_fresh {s : Store} {k : Key} (fresh : s.find? k = none) (row : Row)
    (clock : Moment) :
    (⟨s.rows ++ [(k, row)], clock⟩ : Store).find? = Function.update s.find? k (some row) := by
  funext k'
  by_cases same : k' = k
  · subst same
    have absent : s.rows.find? (·.1 == k') = none := by simpa [find?] using fresh
    simp [find?, absent]
  · simp [find?, Function.update, same, Ne.symm same]

theorem find?_without (k : Key) (clock : Moment) :
    (⟨s.without k, clock⟩ : Store).find? = Function.update s.find? k none := by
  funext k'
  by_cases same : k' = k
  · subst same
    simp [find?, without]
  · -- away from `k` the filter never drops a row the search would stop at
    simp only [find?, without, List.find?_filter, Function.update, same, dite_false]
    congr 2
    funext kv
    by_cases hit : kv.1 = k' <;> simp [hit, same]

theorem find?_replace (k : Key) (row : Row) (clock : Moment) :
    (⟨s.without k ++ [(k, row)], clock⟩ : Store).find? = Function.update s.find? k (some row) := by
  have cleared : (⟨s.without k, clock⟩ : Store).find? = Function.update s.find? k none :=
    find?_without s k clock
  have fresh : (⟨s.without k, clock⟩ : Store).find? k = none := by simp [cleared]
  rw [find?_append_fresh fresh row clock, cleared, Function.update_idem]

/-! ## The procedures -/

theorem run_of_unstorable_key {p : Procedure} (refused : p.key.storable = false) :
    s.run p = .error (.rejected "bigint out of range") := by
  cases p <;> simp_all [Procedure.key, run, checkKey_eq, bind, Except.bind]

theorem run_create_of_unstorable_text {k : Key} {r : Int} {t : String} (rated : 1 ≤ r ∧ r ≤ 10)
    (keyOk : k.storable = true) (refused : textStorable t = false) :
    s.run (.create k r t) =
      .error (.rejected "PostgreSQL text fields cannot contain NUL (0x00) bytes") := by
  simp [run, checkKey_eq, keyOk, checkWrite_of_rated rated, refused, bind, Except.bind]

theorem run_update_of_unstorable_text {k : Key} {r : Int} {t : String} (rated : 1 ≤ r ∧ r ≤ 10)
    (keyOk : k.storable = true) (refused : textStorable t = false) :
    s.run (.update k r t) =
      .error (.rejected "PostgreSQL text fields cannot contain NUL (0x00) bytes") := by
  simp [run, checkKey_eq, keyOk, checkWrite_of_rated rated, refused, bind, Except.bind]

/-- `create` violates the key's uniqueness when the key has a review, and else appends one
stamped one second later at both times. -/
theorem run_create {k : Key} {r : Int} {t : String} (rated : 1 ≤ r ∧ r ≤ 10)
    (keyOk : k.storable = true) (textOk : textStorable t = true) :
    s.run (.create k r t) =
      match s.find? k with
      | some _ => .error (.uniqueViolation uniqueReviewConstraint)
      | none => .ok (.done, ⟨s.rows ++ [(k, ⟨r, t, s.tick, s.tick⟩)], s.tick⟩) := by
  cases found : s.find? k <;>
    simp [run, checkKey_eq, keyOk, checkWrite_of_rated rated, textOk, checkStored_of_rated rated,
      found, bind, Except.bind, pure, Except.pure]

/-- `update` reports a key without a review as not found and changes nothing; else it replaces
the rating and text, stamps the update and keeps the creation time. -/
theorem run_update {k : Key} {r : Int} {t : String} (rated : 1 ≤ r ∧ r ≤ 10)
    (keyOk : k.storable = true) (textOk : textStorable t = true) :
    s.run (.update k r t) =
      match s.find? k with
      | none => .ok (.found false, s)
      | some row =>
        .ok (.found true,
          ⟨s.without k ++ [(k, { row with rating := r, text := t, updatedAt := s.tick })],
            s.tick⟩) := by
  cases found : s.find? k <;>
    simp [run, checkKey_eq, keyOk, checkWrite_of_rated rated, textOk, checkStored_of_rated rated,
      found, bind, Except.bind, pure, Except.pure]

theorem run_delete {k : Key} (keyOk : k.storable = true) :
    s.run (.delete k) = .ok (.found (s.find? k).isSome, { s with rows := s.without k }) := by
  simp [run, checkKey_eq, keyOk, bind, Except.bind, pure, Except.pure]

theorem run_get {k : Key} (keyOk : k.storable = true) :
    s.run (.get k) = .ok (.review (s.find? k), s) := by
  simp [run, checkKey_eq, keyOk, bind, Except.bind, pure, Except.pure]

/-! ## Undisturbed calls -/

theorem call_calm_of_run_ok {p : Procedure} {o : Outcome} {s' : Store}
    (ran : s.run p = .ok (o, s')) : s.call .calm p = (some (.ok o), s') := by
  simp [call, ran]

theorem call_calm_of_run_error {p : Procedure} {e : StoreError} (failed : s.run p = .error e) :
    s.call .calm p = (some (.error e), s) := by
  simp [call, failed]

end Store

end Cinema.Reviews
