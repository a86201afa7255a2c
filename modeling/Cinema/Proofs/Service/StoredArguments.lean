import Cinema.Proofs.Service.ReviewSession
import Cinema.Proofs.Reviews.Procedures
import Cinema.Proofs.Gateway.UserIds

/-!
# Checked review calls fit the review table

The review table keeps both ids in 64-bit columns and the rating in a 16-bit column under a check
that it lies from 1 to 10; no column may be null. The checks in front of it are stricter: the
identity header lets through user ids from 1 to `2 ^ 63 - 1`, and the review requests movie ids
in the same range, ratings from 1 to 10 and texts of 1 to 10000 code points
(`Procedure.InRange`). So a procedure call that a review method makes for a caller the header
identified, on a request that passed its checks, never meets a column's range or the rating
check: the store refuses it only for a second review of one pair or for a text holding U+0000.

The step lemmas are one per check (`reviewMovieId_eq_ok`, `textOfLength_eq_ok`), one per reader
and one for the store (`Store.run_error_of_inRange`); the main statement is
`checked_review_calls_fit_the_table`.
-/

set_option autoImplicit false
set_option relaxedAutoImplicit false

namespace Cinema.Request

open Cinema.Json

/-! ## What the request checks let through -/

/-- A review to write whose movie id lies from 1 to `2 ^ 63 - 1`, whose rating lies from 1 to 10
and whose text has 1 to 10000 code points. -/
def ReviewWrite.InRange (q : ReviewWrite) : Prop :=
  (1 ≤ q.id ∧ q.id ≤ maxInt64) ∧ (1 ≤ q.rating ∧ q.rating ≤ 10) ∧
    1 ≤ Text.Wide.length q.review ∧ Text.Wide.length q.review ≤ 10000

theorem reviewMovieId_eq_ok {v : Value} {n : Int} (checked : reviewMovieId v = .ok n) :
    1 ≤ n ∧ n ≤ maxInt64 := by
  obtain ⟨m, -, bounded⟩ := Checked.andThen_eq_ok checked
  obtain ⟨k, below, positive⟩ := Checked.andThen_eq_ok bounded
  unfold atMost at below
  unfold above at positive
  split at below
  case isFalse => simp [Checked.fail] at below
  case isTrue high =>
    cases below
    split at positive
    case isFalse => simp [Checked.fail] at positive
    case isTrue low =>
      cases positive
      omega

theorem textOfLength_eq_ok {lo hi : Nat} {v : Value} {t : String}
    (checked : textOfLength lo hi v = .ok t) :
    lo ≤ Text.Wide.length t ∧ Text.Wide.length t ≤ hi := by
  obtain ⟨s, -, bounded⟩ := Checked.andThen_eq_ok checked
  split at bounded
  case isTrue => simp [Checked.fail] at bounded
  case isFalse short =>
    split at bounded
    case isTrue => simp [Checked.fail] at bounded
    case isFalse long =>
      cases bounded
      omega

theorem ReviewWrite.inRange_of_read {v : Value} {q : ReviewWrite}
    (read : ReviewWrite.read v = .ok q) : q.InRange := by
  obtain ⟨fields, -, built⟩ := Checked.andThen_eq_ok read
  obtain ⟨withText, text, upToRating, written, rfl⟩ := Checked.seq_eq_ok built
  obtain ⟨withRating, rating, first, rated, rfl⟩ := Checked.seq_eq_ok upToRating
  obtain ⟨id, identified, rfl⟩ := Checked.map_eq_ok first
  obtain ⟨_, idChecked⟩ := required_eq_ok identified
  obtain ⟨_, ratingChecked⟩ := required_eq_ok rated
  obtain ⟨_, textChecked⟩ := required_eq_ok written
  exact ⟨reviewMovieId_eq_ok idChecked, within_eq_ok ratingChecked,
    textOfLength_eq_ok textChecked⟩

theorem ReviewKey.id_of_read {v : Value} {q : ReviewKey} (read : ReviewKey.read v = .ok q) :
    1 ≤ q.id ∧ q.id ≤ maxInt64 := by
  obtain ⟨fields, -, built⟩ := Checked.andThen_eq_ok read
  obtain ⟨id, identified, rfl⟩ := Checked.map_eq_ok built
  obtain ⟨_, idChecked⟩ := required_eq_ok identified
  exact reviewMovieId_eq_ok idChecked

end Cinema.Request

namespace Cinema.Reviews

open Cinema.Request

/-! ## What the table takes -/

def Key.InRange (k : Key) : Prop :=
  (1 ≤ k.user ∧ k.user ≤ maxInt64) ∧ 1 ≤ k.movie ∧ k.movie ≤ maxInt64

/-- A procedure call whose key is in range and whose written review, if any, has a rating from 1
to 10 and a text of 1 to 10000 code points. -/
def Procedure.InRange : Procedure → Prop
  | .create k r t | .update k r t =>
    k.InRange ∧ (1 ≤ r ∧ r ≤ 10) ∧
      1 ≤ Text.Wide.length t ∧ Text.Wide.length t ≤ 10000
  | .delete k | .get k => k.InRange

theorem Procedure.params_ne_null (p : Procedure) : ∀ v ∈ p.params, v ≠ .null := by
  cases p <;> simp [Procedure.params]

theorem fitsBits_of_inRange {x : Int} (low : 1 ≤ x) (high : x ≤ maxInt64) :
    fitsBits 64 x = true := by
  unfold maxInt64 at high
  simp [fitsBits]
  omega

theorem Key.storable_of_inRange {k : Key} (valid : k.InRange) : k.storable = true := by
  obtain ⟨⟨userLow, userHigh⟩, movieLow, movieHigh⟩ := valid
  simp [Key.storable, fitsBits_of_inRange userLow userHigh, fitsBits_of_inRange movieLow movieHigh]

namespace Store

variable (s : Store)

/-- A call in range meets no column's range and passes the rating check: the store refuses it
only for a second review of one pair or for a text that holds U+0000. -/
theorem run_error_of_inRange {p : Procedure} (valid : p.InRange) {e : StoreError}
    (refused : s.run p = .error e) :
    e = .uniqueViolation uniqueReviewConstraint ∨
      e = .rejected "PostgreSQL text fields cannot contain NUL (0x00) bytes" := by
  cases p with
  | create k r t =>
    obtain ⟨key, rated, -⟩ := valid
    cases text : textStorable t with
    | false =>
      rw [run_create_of_unstorable_text s rated (Key.storable_of_inRange key) text] at refused
      cases refused
      exact .inr rfl
    | true =>
      rw [run_create s rated (Key.storable_of_inRange key) text] at refused
      -- only a pair that has a review already is refused
      split at refused
      · cases refused
        exact .inl rfl
      · cases refused
  | update k r t =>
    obtain ⟨key, rated, -⟩ := valid
    cases text : textStorable t with
    | false =>
      rw [run_update_of_unstorable_text s rated (Key.storable_of_inRange key) text] at refused
      cases refused
      exact .inr rfl
    | true =>
      rw [run_update s rated (Key.storable_of_inRange key) text] at refused
      split at refused <;> cases refused
  | delete k =>
    rw [run_delete s (Key.storable_of_inRange valid)] at refused
    cases refused
  | get k =>
    rw [run_get s (Key.storable_of_inRange valid)] at refused
    cases refused

end Store

end Cinema.Reviews

namespace Cinema.Service

open Cinema.Reviews Cinema.Request

/-- A review call in range: its movie id lies from 1 to `2 ^ 63 - 1`, and a review it writes is
in range. -/
def Rpc.InRange : Rpc → Prop
  | .addReview q | .updateReview q => q.InRange
  | .deleteReview q | .getReview q => 1 ≤ q.id ∧ q.id ≤ maxInt64
  | _ => True

namespace Rpc

theorem inRange_of_read {method : String} {request : Json.Value} {rpc : Rpc}
    (read : Rpc.read method request = some (.ok rpc)) : rpc.InRange := by
  unfold Rpc.read at read
  split at read
  case h_12 | h_13 =>
    obtain ⟨q, checked, rfl⟩ := Checked.map_eq_ok (Option.some.inj read)
    exact ReviewWrite.inRange_of_read checked
  case h_14 | h_15 =>
    obtain ⟨q, checked, rfl⟩ := Checked.map_eq_ok (Option.some.inj read)
    exact ReviewKey.id_of_read checked
  case h_16 => simp at read
  all_goals
    obtain ⟨q, -, rfl⟩ := Checked.map_eq_ok (Option.some.inj read)
    trivial

theorem procedure_inRange {rpc : Rpc} (valid : rpc.InRange) {u : Int}
    (caller : 1 ≤ u ∧ u ≤ maxInt64) {op : Operation} (review : rpc.operationFor u = some op) :
    op.procedure.InRange := by
  cases rpc <;> simp only [operationFor, reduceCtorEq, Option.some.injEq] at review <;>
    subst review
  case addReview q | updateReview q => exact ⟨⟨caller, valid.1⟩, valid.2⟩
  case deleteReview q | getReview q => exact ⟨caller, valid⟩

theorem procedure_user {rpc : Rpc} {u : Int} {op : Operation}
    (review : rpc.operationFor u = some op) : op.procedure.key.user = u := by
  cases rpc <;> simp only [operationFor, reduceCtorEq, Option.some.injEq] at review <;>
    (subst review; rfl)

theorem operation_of_sql_call {rpc : Rpc} {env : Surroundings} {ctx : Context} {s : Store}
    {p : Procedure} (called : Call.sql p ∈ (rpc.run env ctx s).calls) :
    ∃ u op, ctx.identity = some u ∧ rpc.operationFor u = some op ∧ p = op.procedure := by
  cases admitted : ctx.entryError? with
  | some e => simp [run, race_of_entryError env 0 s admitted] at called
  | none =>
    cases work : rpc.work? ctx.identity with
    | none => simp [run, race_of_work?_eq_none env 0 s admitted work] at called
    | some w =>
      cases w with
      | query q =>
        rw [run_of_work env s admitted work] at called
        cases request : q.request env.client <;> simp [Work.start, request] at called
      | operation op =>
        obtain ⟨u, caller, review⟩ := operationFor_of_work? work
        rw [run_operation admitted work env s] at called
        exact ⟨u, op, caller, review, Call.sql.inj (List.mem_singleton.mp called)⟩

end Rpc

/-- Take a caller identified by the identity header and a call read from a request that passed
its checks. Every procedure call the call makes, in any context, surroundings and store, is keyed
by the caller's id, has its ids from 1 to `2 ^ 63 - 1` and, when it writes a review, a rating from
1 to 10 and a text of 1 to 10000 code points; none of its arguments is null. So the store refuses
it for no column's range and not for the rating check: only for a second review of one pair or a
text holding U+0000. -/
theorem checked_review_calls_fit_the_table {header : Json.Value} {ctx : Context}
    (identified : Gateway.identityOf header = .ok ctx.identity) {method : String}
    {request : Json.Value} {rpc : Rpc} (read : Rpc.read method request = some (.ok rpc))
    (env : Surroundings) (s : Store) {p : Procedure}
    (called : Call.sql p ∈ (rpc.run env ctx s).calls) :
    ctx.identity = some p.key.user ∧ p.InRange ∧ (∀ v ∈ p.params, v ≠ .null) ∧
      ∀ e, s.run p = .error e →
        e = .uniqueViolation uniqueReviewConstraint ∨
          e = .rejected "PostgreSQL text fields cannot contain NUL (0x00) bytes" := by
  obtain ⟨u, op, caller, review, rfl⟩ := Rpc.operation_of_sql_call called
  have userBounds : 1 ≤ u ∧ u ≤ maxInt64 := Gateway.identityOf_bounds (caller ▸ identified)
  have valid : op.procedure.InRange :=
    Rpc.procedure_inRange (Rpc.inRange_of_read read) userBounds review
  refine ⟨Rpc.procedure_user review ▸ caller, valid, op.procedure.params_ne_null,
    fun e refused => ?_⟩
  exact s.run_error_of_inRange valid refused

/-- The caller whose header reads "7" adds a review of movie "3" rated 8: the procedure call it
makes is keyed by user 7 and fits the table. -/
theorem identified_review_add_fits_the_table :
    Gateway.identityOf (.str "7") = .ok (some 7) ∧
      Rpc.read "AddUserMovieReview"
          (.obj [("id", .str "3"), ("rating", .int 8), ("review", .str "Fine")]) =
        some (.ok (.addReview ⟨3, 8, "Fine"⟩)) ∧
      Call.sql (.create ⟨7, 3⟩ 8 "Fine") ∈
        ((Rpc.addReview ⟨3, 8, "Fine"⟩).run ⟨{}, { apiKey := "key" }, none, .calm⟩
          ⟨some 7, .none, .unwatched⟩ Store.initial).calls ∧
      (some 7 : Option Int) = some (Procedure.create ⟨7, 3⟩ 8 "Fine").key.user ∧
      (Procedure.create ⟨7, 3⟩ 8 "Fine").InRange ∧
      (∀ v ∈ (Procedure.create ⟨7, 3⟩ 8 "Fine").params, v ≠ .null) ∧
      ∀ e, Store.initial.run (.create ⟨7, 3⟩ 8 "Fine") = .error e →
        e = .uniqueViolation uniqueReviewConstraint ∨
          e = .rejected "PostgreSQL text fields cannot contain NUL (0x00) bytes" := by
  have identified : Gateway.identityOf (.str "7") =
      .ok (⟨some 7, .none, .unwatched⟩ : Context).identity := by
    decide +kernel
  have read : Rpc.read "AddUserMovieReview"
      (.obj [("id", .str "3"), ("rating", .int 8), ("review", .str "Fine")]) =
        some (.ok (.addReview ⟨3, 8, "Fine"⟩)) := rfl
  have called : Call.sql (.create ⟨7, 3⟩ 8 "Fine") ∈
      ((Rpc.addReview ⟨3, 8, "Fine"⟩).run ⟨{}, { apiKey := "key" }, none, .calm⟩
        ⟨some 7, .none, .unwatched⟩ Store.initial).calls := List.mem_singleton_self _
  exact ⟨identified, read, called,
    checked_review_calls_fit_the_table identified read _ _ called⟩

end Cinema.Service
