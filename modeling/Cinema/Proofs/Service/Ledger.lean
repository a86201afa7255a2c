import Cinema.Proofs.Reviews.Procedures
import Cinema.Service.Rpc

/-!
# The ledger of the review methods

What the four review methods promise their callers, stated without the store: a ledger maps
each user and movie to its review, with its rating, text and the times it was created and last
updated, and holds the clock that stamps the next write. `Ledger.dictate` is the answer the
ledger gives each operation and `Ledger.apply` the ledger after an operation that succeeded.

The store holds a ledger through its view, `Ledger.of`. The main result here is
`callFollowsLedger`: an undisturbed call of an operation's procedure, through the repository's
reading of what the procedure reports and the service's mapping to RPC answers, answers what
the store's ledger dictates and leaves a store whose ledger records that answer.
-/

set_option autoImplicit false
set_option relaxedAutoImplicit false

namespace Cinema.Service

open Cinema.Reviews Cinema.Calendar

def reviewExists : RpcError :=
  ⟨.alreadyExists, "user movie review already exists for the given user and movie"⟩

def reviewMissing : RpcError :=
  ⟨.notFound, "user movie review not found for the given user and movie"⟩

/-- What the review methods have written, as their callers see it: the review of each user and
movie, and the clock that stamps the next write. -/
@[ext]
structure Ledger where
  reviews : Key → Option Row
  clock : Moment

namespace Ledger

/-- The ledger a store holds: each key's review as the table reports it, and its clock. -/
def of (s : Store) : Ledger := ⟨s.find?, s.clock⟩

/-- The time the next write is stamped with: one second after the clock. -/
def now (M : Ledger) : Moment := ⟨M.clock.micros + microsPerSecond, 0⟩

@[simp]
theorem reviews_of (s : Store) : (of s).reviews = s.find? := rfl

@[simp]
theorem clock_of (s : Store) : (of s).clock = s.clock := rfl

@[simp]
theorem now_of (s : Store) : (of s).now = s.tick := rfl

/-- What an operation answers by the ledger. A key outside the 64-bit columns, or a written text
holding U+0000, is refused by the store and answers "internal"; otherwise the answer depends only
on whether the key has a review. -/
def dictate (M : Ledger) : Operation → Except RpcError Response
  | .add u m _ t =>
    if Key.storable ⟨u, m⟩ && textStorable t then
      match M.reviews ⟨u, m⟩ with
      | some _ => .error reviewExists
      | none => .ok .written
    else .error (.ofCode .internal)
  | .update u m _ t =>
    if Key.storable ⟨u, m⟩ && textStorable t then
      match M.reviews ⟨u, m⟩ with
      | some _ => .ok .written
      | none => .error reviewMissing
    else .error (.ofCode .internal)
  | .delete u m =>
    if Key.storable ⟨u, m⟩ then
      match M.reviews ⟨u, m⟩ with
      | some _ => .ok .written
      | none => .error reviewMissing
    else .error (.ofCode .internal)
  | .get u m =>
    if Key.storable ⟨u, m⟩ then
      match M.reviews ⟨u, m⟩ with
      | some row => .ok (.review (Review.ofStored row))
      | none => .error reviewMissing
    else .error (.ofCode .internal)

/-- The ledger after an operation that answered successfully: an added review is stamped now at
both times, an update keeps the creation time and stamps the update, a deletion drops the review,
and a read changes nothing. -/
def apply (M : Ledger) : Operation → Ledger
  | .add u m r t => ⟨Function.update M.reviews ⟨u, m⟩ (some ⟨r, t, M.now, M.now⟩), M.now⟩
  | .update u m r t =>
    match M.reviews ⟨u, m⟩ with
    | some row =>
      ⟨Function.update M.reviews ⟨u, m⟩ (some { row with rating := r, text := t, updatedAt := M.now }),
        M.now⟩
    | none => M
  | .delete u m => { M with reviews := Function.update M.reviews ⟨u, m⟩ none }
  | .get .. => M

def record (M : Ledger) (op : Operation) : Except RpcError Response → Ledger
  | .ok _ => M.apply op
  | .error _ => M

@[simp]
theorem record_ok (M : Ledger) (op : Operation) (r : Response) : M.record op (.ok r) = M.apply op :=
  rfl

@[simp]
theorem record_error (M : Ledger) (op : Operation) (e : RpcError) : M.record op (.error e) = M :=
  rfl

end Ledger

def Ledger.afterAnswer (M : Ledger) (op? : Option Operation) :
    Option (Except RpcError Response) → Ledger
  | some (.ok _) =>
    match op? with
    | some op => M.apply op
    | none => M
  | _ => M

@[simp]
theorem Ledger.afterAnswer_none (M : Ledger) (answer : Option (Except RpcError Response)) :
    M.afterAnswer none answer = M := by
  unfold afterAnswer
  split <;> rfl

theorem Ledger.afterAnswer_of_not_ok (M : Ledger) (op? : Option Operation)
    {answer : Option (Except RpcError Response)} (failed : ∀ r, answer ≠ some (.ok r)) :
    M.afterAnswer op? answer = M := by
  unfold afterAnswer
  split
  · rename_i r
    exact absurd rfl (failed r)
  · rfl

def answerOf (op : Operation) (r : Except StoreError Outcome) : Except RpcError Response :=
  ((op.outcome r).map operationResponse).mapError repositoryError

theorem answerOf_rejected (op : Operation) (text : String) :
    answerOf op (.error (.rejected text)) = .error (.ofCode .internal) := by
  cases op <;> rfl

theorem answerOf_add_taken (u m r : Int) (t : String) :
    answerOf (.add u m r t) (.error (.uniqueViolation uniqueReviewConstraint)) =
      .error reviewExists := rfl

theorem answerOf_add_done (u m r : Int) (t : String) :
    answerOf (.add u m r t) (.ok .done) = .ok .written := rfl

theorem answerOf_update_found (u m r : Int) (t : String) (found : Bool) :
    answerOf (.update u m r t) (.ok (.found found)) =
      if found then .ok .written else .error reviewMissing := by
  cases found <;> rfl

theorem answerOf_delete_found (u m : Int) (found : Bool) :
    answerOf (.delete u m) (.ok (.found found)) =
      if found then .ok .written else .error reviewMissing := by
  cases found <;> rfl

theorem answerOf_get_review (u m : Int) (row : Option Row) :
    answerOf (.get u m) (.ok (.review row)) =
      match row with
      | some row => .ok (.review (Review.ofStored row))
      | none => .error reviewMissing := by
  cases row <;> rfl

/-- An undisturbed call of the operation's procedure answers what the ledger of the store
dictates, and leaves a store whose ledger records that answer. -/
def CallFollowsLedger (s : Store) (op : Operation) : Prop :=
  (s.call .calm op.procedure).1.map (answerOf op) = some ((Ledger.of s).dictate op) ∧
    Ledger.of (s.call .calm op.procedure).2 = (Ledger.of s).record op ((Ledger.of s).dictate op)

theorem callFollowsLedger_of_refused {s : Store} {op : Operation} {text : String}
    (refused : s.run op.procedure = .error (.rejected text))
    (internal : (Ledger.of s).dictate op = .error (.ofCode .internal)) :
    CallFollowsLedger s op := by
  rw [CallFollowsLedger, s.call_calm_of_run_error refused, internal]
  exact ⟨by simp [answerOf_rejected], rfl⟩

theorem callFollowsLedger_add (s : Store) {u m r : Int} {t : String} (rated : 1 ≤ r ∧ r ≤ 10) :
    CallFollowsLedger s (.add u m r t) := by
  by_cases keyOk : Key.storable ⟨u, m⟩ = true
  · by_cases textOk : textStorable t = true
    · have ran := s.run_create rated keyOk textOk
      cases found : s.find? ⟨u, m⟩ with
      | some row =>
        rw [found] at ran
        have taken : (Ledger.of s).dictate (.add u m r t) = .error reviewExists := by
          simp [Ledger.dictate, keyOk, textOk, found]
        rw [CallFollowsLedger, Operation.procedure, s.call_calm_of_run_error ran, taken]
        exact ⟨by simp [answerOf_add_taken], rfl⟩
      | none =>
        rw [found] at ran
        have written : (Ledger.of s).dictate (.add u m r t) = .ok .written := by
          simp [Ledger.dictate, keyOk, textOk, found]
        rw [CallFollowsLedger, Operation.procedure, s.call_calm_of_run_ok ran, written]
        have fresh := Store.find?_append_fresh found ⟨r, t, s.tick, s.tick⟩ s.tick
        exact ⟨by simp [answerOf_add_done], by simp [Ledger.ext_iff, Ledger.apply, fresh]⟩
    · simp only [Bool.not_eq_true] at textOk
      apply callFollowsLedger_of_refused (s.run_create_of_unstorable_text rated keyOk textOk)
      simp [Ledger.dictate, keyOk, textOk]
  · simp only [Bool.not_eq_true] at keyOk
    apply callFollowsLedger_of_refused (s.run_of_unstorable_key (p := .create ⟨u, m⟩ r t) keyOk)
    simp [Ledger.dictate, keyOk]

theorem callFollowsLedger_update (s : Store) {u m r : Int} {t : String}
    (rated : 1 ≤ r ∧ r ≤ 10) : CallFollowsLedger s (.update u m r t) := by
  by_cases keyOk : Key.storable ⟨u, m⟩ = true
  · by_cases textOk : textStorable t = true
    · have ran := s.run_update rated keyOk textOk
      cases found : s.find? ⟨u, m⟩ with
      | none =>
        rw [found] at ran
        have missing : (Ledger.of s).dictate (.update u m r t) = .error reviewMissing := by
          simp [Ledger.dictate, keyOk, textOk, found]
        rw [CallFollowsLedger, Operation.procedure, s.call_calm_of_run_ok ran, missing]
        exact ⟨by simp [answerOf_update_found], rfl⟩
      | some row =>
        rw [found] at ran
        have written : (Ledger.of s).dictate (.update u m r t) = .ok .written := by
          simp [Ledger.dictate, keyOk, textOk, found]
        rw [CallFollowsLedger, Operation.procedure, s.call_calm_of_run_ok ran, written]
        have replaced := s.find?_replace ⟨u, m⟩
          { row with rating := r, text := t, updatedAt := s.tick } s.tick
        exact ⟨by simp [answerOf_update_found],
          by simp [Ledger.ext_iff, Ledger.apply, found, replaced]⟩
    · simp only [Bool.not_eq_true] at textOk
      apply callFollowsLedger_of_refused (s.run_update_of_unstorable_text rated keyOk textOk)
      simp [Ledger.dictate, keyOk, textOk]
  · simp only [Bool.not_eq_true] at keyOk
    apply callFollowsLedger_of_refused (s.run_of_unstorable_key (p := .update ⟨u, m⟩ r t) keyOk)
    simp [Ledger.dictate, keyOk]

theorem callFollowsLedger_delete (s : Store) (u m : Int) : CallFollowsLedger s (.delete u m) := by
  by_cases keyOk : Key.storable ⟨u, m⟩ = true
  · have ran := s.run_delete keyOk
    have cleared := s.find?_without ⟨u, m⟩ s.clock
    cases found : s.find? ⟨u, m⟩ with
    | none =>
      rw [found] at ran
      have missing : (Ledger.of s).dictate (.delete u m) = .error reviewMissing := by
        simp [Ledger.dictate, keyOk, found]
      rw [CallFollowsLedger, Operation.procedure, s.call_calm_of_run_ok ran, missing]
      -- removing a review that is not there changes nothing the ledger sees
      have unchanged : Function.update s.find? ⟨u, m⟩ none = s.find? := by
        rw [Function.update_eq_self_iff]
        exact found.symm
      exact ⟨by simp [answerOf_delete_found], Ledger.ext (cleared.trans unchanged) rfl⟩
    | some row =>
      rw [found] at ran
      have written : (Ledger.of s).dictate (.delete u m) = .ok .written := by
        simp [Ledger.dictate, keyOk, found]
      rw [CallFollowsLedger, Operation.procedure, s.call_calm_of_run_ok ran, written]
      exact ⟨by simp [answerOf_delete_found], Ledger.ext cleared rfl⟩
  · simp only [Bool.not_eq_true] at keyOk
    apply callFollowsLedger_of_refused (s.run_of_unstorable_key (p := .delete ⟨u, m⟩) keyOk)
    simp [Ledger.dictate, keyOk]

theorem callFollowsLedger_get (s : Store) (u m : Int) : CallFollowsLedger s (.get u m) := by
  by_cases keyOk : Key.storable ⟨u, m⟩ = true
  · have ran := s.run_get keyOk
    -- a read answers by the review it finds and never changes the ledger
    have read : (Ledger.of s).dictate (.get u m) = answerOf (.get u m) (.ok (.review (s.find? ⟨u, m⟩))) := by
      cases found : s.find? ⟨u, m⟩ <;> simp [Ledger.dictate, keyOk, found, answerOf_get_review]
    rw [CallFollowsLedger, Operation.procedure, s.call_calm_of_run_ok ran, read]
    refine ⟨rfl, ?_⟩
    cases answerOf (.get u m) (.ok (.review (s.find? ⟨u, m⟩))) <;> rfl
  · simp only [Bool.not_eq_true] at keyOk
    apply callFollowsLedger_of_refused (s.run_of_unstorable_key (p := .get ⟨u, m⟩) keyOk)
    simp [Ledger.dictate, keyOk]

theorem callFollowsLedger (s : Store) {op : Operation} (rated : op.rated) :
    CallFollowsLedger s op := by
  cases op with
  | add u m r t => exact callFollowsLedger_add s rated
  | update u m r t => exact callFollowsLedger_update s rated
  | delete u m => exact callFollowsLedger_delete s u m
  | get u m => exact callFollowsLedger_get s u m

theorem answerOf_error (op : Operation) (e : StoreError) :
    ∃ f, answerOf op (.error e) = .error f := by
  have failed : ∃ f, op.outcome (.error e) = .error f := by
    cases op <;> cases e <;> simp only [Operation.outcome] <;> (try split) <;> exact ⟨_, rfl⟩
  obtain ⟨f, outcome⟩ := failed
  exact ⟨repositoryError f, by rw [answerOf, outcome]; rfl⟩

end Cinema.Service
