import Cinema.Reviews.Repository

/-!
# How the repository reads the outcome of its one call

Each operation calls its stored procedure once and reads what the call gave. A failure outside
the database passes through. For `add`, a unique violation is "already exists" exactly when it
names the constraint on user and movie; every other database error, of any operation, is a store
error tagged for the operation. `update` and `delete` read the found flag of the row they fetched,
which is true exactly when the row is a sequence whose last cell is `true`; `get` answers the
review it read, else "not found". A call that raises is read as raised, with no second call and
the store as it was. The main statement is `repository_classifies_call_outcomes`.
-/

set_option autoImplicit false
set_option relaxedAutoImplicit false

namespace Cinema.Reviews

open Cinema.Json

/-! ## The found flag of a row -/

@[simp]
theorem foundFlag_null : foundFlag .null = .ok false := rfl

theorem foundFlag_arr_eq_ok_true_iff (cells : List Value) :
    foundFlag (.arr cells) = .ok true ↔ cells.getLast? = some (.bool true) := by
  cases cells with
  | nil => exact ⟨(fun flag => by cases flag), (fun last => by cases last)⟩
  | cons cell cells =>
    unfold foundFlag
    rw [if_neg (by simp [Value.truthy])]
    dsimp only
    split
    · rename_i last
      exact ⟨fun _ => last, fun _ => rfl⟩
    · rename_i notTrue
      exact ⟨(fun flag => by cases flag), fun last => absurd last notTrue⟩

theorem foundFlag_arr_eq_ok (cells : List Value) : ∃ b, foundFlag (.arr cells) = .ok b := by
  cases cells with
  | nil => exact ⟨false, rfl⟩
  | cons cell cells => exact ⟨_, rfl⟩

theorem foundFlag_arr_eq_ok_false_iff (cells : List Value) :
    foundFlag (.arr cells) = .ok false ↔ cells.getLast? ≠ some (.bool true) := by
  obtain ⟨b, flag⟩ := foundFlag_arr_eq_ok cells
  rw [ne_eq, ← foundFlag_arr_eq_ok_true_iff, flag]
  cases b <;> simp

@[simp]
theorem foundFlag_foundRow (b : Bool) : foundFlag (foundRow b) = .ok b := by
  cases b <;> rfl

/-! ## Reading the found flag -/

namespace Operation

variable (op : Operation)

theorem readFound_of_true {row : Value} (flag : foundFlag row = .ok true) :
    op.readFound row = .ok none := by
  rw [readFound, flag]

theorem readFound_of_false {row : Value} (flag : foundFlag row = .ok false) :
    op.readFound row = .error (.notFound op.key.user op.key.movie) := by
  rw [readFound, flag]

@[simp]
theorem readFound_null : op.readFound .null = .error (.notFound op.key.user op.key.movie) :=
  op.readFound_of_false foundFlag_null

theorem readFound_arr_eq_ok_iff (cells : List Value) :
    op.readFound (.arr cells) = .ok none ↔ cells.getLast? = some (.bool true) := by
  obtain ⟨b, flag⟩ := foundFlag_arr_eq_ok cells
  cases b with
  | true =>
    exact ⟨fun _ => (foundFlag_arr_eq_ok_true_iff cells).mp flag,
      fun _ => op.readFound_of_true flag⟩
  | false =>
    rw [op.readFound_of_false flag]
    exact ⟨(fun done => by cases done),
      fun last => absurd last ((foundFlag_arr_eq_ok_false_iff cells).mp flag)⟩

theorem readFound_arr_eq_notFound_iff (cells : List Value) :
    op.readFound (.arr cells) = .error (.notFound op.key.user op.key.movie) ↔
      cells.getLast? ≠ some (.bool true) := by
  obtain ⟨b, flag⟩ := foundFlag_arr_eq_ok cells
  cases b with
  | true =>
    rw [op.readFound_of_true flag]
    exact ⟨(fun missing => by cases missing),
      fun notLast => absurd ((foundFlag_arr_eq_ok_true_iff cells).mp flag) notLast⟩
  | false =>
    exact ⟨fun _ => (foundFlag_arr_eq_ok_false_iff cells).mp flag,
      fun _ => op.readFound_of_false flag⟩

/-! ## The outcome of the call -/

@[simp]
theorem outcome_crashed (m : String) : op.outcome (.error (.crashed m)) = .error (.crashed m) := by
  cases op <;> rfl

theorem outcome_of_database_error (notAdd : ∀ u m r t, op ≠ .add u m r t) {e : StoreError}
    (database : ∀ msg, e ≠ .crashed msg) :
    op.outcome (.error e) = .error (.storeError (op.errorTag ++ ": " ++ e.text)) := by
  cases e with
  | crashed msg => exact absurd rfl (database msg)
  | uniqueViolation c =>
    cases op with
    | add u m r t => exact absurd rfl (notAdd u m r t)
    | update | delete | get => rfl
  | rejected text => cases op <;> rfl

theorem add_outcome_of_database_error (u m r : Int) (t : String) {e : StoreError}
    (database : ∀ msg, e ≠ .crashed msg) :
    (Operation.add u m r t).outcome (.error e) =
      if e = .uniqueViolation uniqueReviewConstraint then .error (.alreadyExists u m)
      else .error (.storeError ("pg_review_create_error: " ++ e.text)) := by
  cases e with
  | crashed msg => exact absurd rfl (database msg)
  | uniqueViolation c =>
    by_cases named : c = uniqueReviewConstraint
    · subst named
      rfl
    · have other : StoreError.uniqueViolation c ≠ .uniqueViolation uniqueReviewConstraint :=
        fun same => named (StoreError.uniqueViolation.inj same)
      rw [if_neg other]
      simp only [outcome, if_neg named]
      rfl
  | rejected text => rfl

@[simp]
theorem add_outcome_ok (u m r : Int) (t : String) (o : Outcome) :
    (Operation.add u m r t).outcome (.ok o) = .ok none := rfl

theorem outcome_found (write : (∃ u m r t, op = .update u m r t) ∨ ∃ u m, op = .delete u m)
    (b : Bool) : op.outcome (.ok (.found b)) = op.readFound (foundRow b) := by
  rcases write with ⟨u, m, r, t, rfl⟩ | ⟨u, m, rfl⟩ <;> rfl

theorem get_outcome_review (u m : Int) (row : Row) :
    (Operation.get u m).outcome (.ok (.review (some row))) = .ok (some (Review.ofStored row)) :=
  rfl

theorem get_outcome_of_no_review (u m : Int) {o : Outcome}
    (none_ : ∀ row, o ≠ .review (some row)) :
    (Operation.get u m).outcome (.ok o) = .error (.notFound u m) := by
  cases o with
  | review row? =>
    cases row? with
    | none => rfl
    | some row => exact absurd rfl (none_ row)
  | done | found _ => rfl

end Operation

theorem Operation.perform_calm (op : Operation) (s : Store) :
    (op.perform s .calm).1 = some (op.outcome ((s.run op.procedure).map Prod.fst)) := by
  unfold perform Store.call
  cases s.run op.procedure with
  | ok result => rfl
  | error e => rfl

theorem Operation.perform_fail (op : Operation) (s : Store) (e : StoreError) :
    op.perform s (.fail e) = (some (op.outcome (.error e)), s) := rfl

/-! ## The main statement -/

/-- The repository's reading of its one call: an undisturbed operation reads the one run of its
own procedure, and a raised call is read as raised with the store unchanged; a failure outside
the database passes through; `add` answers nothing when the call returns, "already exists"
exactly for a unique violation of the review key, and a store error for every other database
error; `update`, `delete` and `get` answer a store error for every database error; `update` and
`delete` read the fetched row's found flag, which is set exactly when the row is a sequence whose
last cell is `true`; `get` answers the review it read, else "not found". -/
theorem repository_classifies_call_outcomes :
    (∀ (op : Operation) (s : Store),
      (op.perform s .calm).1 = some (op.outcome ((s.run op.procedure).map Prod.fst))) ∧
    (∀ (op : Operation) (s : Store) (e : StoreError),
      op.perform s (.fail e) = (some (op.outcome (.error e)), s)) ∧
    (∀ (op : Operation) (m : String), op.outcome (.error (.crashed m)) = .error (.crashed m)) ∧
    (∀ (u m r : Int) (t : String),
      (∀ o, (Operation.add u m r t).outcome (.ok o) = .ok none) ∧
      ∀ e : StoreError, (∀ msg, e ≠ .crashed msg) →
        ((Operation.add u m r t).outcome (.error e) = .error (.alreadyExists u m) ↔
          e = .uniqueViolation uniqueReviewConstraint) ∧
        (e ≠ .uniqueViolation uniqueReviewConstraint →
          (Operation.add u m r t).outcome (.error e) =
            .error (.storeError ("pg_review_create_error: " ++ e.text)))) ∧
    (∀ (op : Operation) (e : StoreError), (∀ u m r t, op ≠ .add u m r t) →
      (∀ msg, e ≠ .crashed msg) →
        op.outcome (.error e) = .error (.storeError (op.errorTag ++ ": " ++ e.text))) ∧
    (∀ op : Operation, ((∃ u m r t, op = .update u m r t) ∨ ∃ u m, op = .delete u m) →
      (∀ b, op.outcome (.ok (.found b)) = op.readFound (foundRow b)) ∧
      op.readFound .null = .error (.notFound op.key.user op.key.movie) ∧
      ∀ cells : List Value,
        (op.readFound (.arr cells) = .ok none ↔ cells.getLast? = some (.bool true)) ∧
        (op.readFound (.arr cells) = .error (.notFound op.key.user op.key.movie) ↔
          cells.getLast? ≠ some (.bool true))) ∧
    (∀ (u m : Int) (o : Outcome),
      (∀ row, o = .review (some row) →
        (Operation.get u m).outcome (.ok o) = .ok (some (Review.ofStored row))) ∧
      ((∀ row, o ≠ .review (some row)) →
        (Operation.get u m).outcome (.ok o) = .error (.notFound u m))) := by
  refine ⟨Operation.perform_calm, Operation.perform_fail, Operation.outcome_crashed,
    fun u m r t => ⟨fun o => rfl, fun e database => ⟨?_, fun other => ?_⟩⟩,
    fun op e notAdd database => op.outcome_of_database_error notAdd database,
    fun op write => ⟨op.outcome_found write, op.readFound_null,
      fun cells =>
        ⟨op.readFound_arr_eq_ok_iff cells, op.readFound_arr_eq_notFound_iff cells⟩⟩,
    fun u m o => ⟨fun row same => same ▸ Operation.get_outcome_review u m row,
      Operation.get_outcome_of_no_review u m⟩⟩
  · rw [Operation.add_outcome_of_database_error u m r t database]
    by_cases named : e = .uniqueViolation uniqueReviewConstraint
    · simp only [named, if_true]
    · rw [if_neg named]
      exact ⟨(fun exists_ => by cases exists_), fun same => absurd same named⟩
  · rw [Operation.add_outcome_of_database_error u m r t database, if_neg other]

end Cinema.Reviews
