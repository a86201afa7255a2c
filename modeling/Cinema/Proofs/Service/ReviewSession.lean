import Cinema.Proofs.Service.Ledger
import Cinema.Service.Session

/-!
# Review sessions follow their ledger

A session runs steps of any methods, one after another, over one store. Take the history of its
steps with their answers and replay, from the ledger of the first store, exactly the steps that
answered successfully: each applies its review operation, and every other step changes nothing.
Then every step of a review method whose request passed its checks, whose caller is known,
whose context is live at entry and whose store call is undisturbed calls its operation's
procedure once, keyed by the caller and the requested movie, and answers what that replayed
ledger dictates.

The proof is a simulation. The step lemma `Step.ledger_run` says that a step changes the store's
ledger as replaying its answer does, whatever the step; the run lemma `ledger_storeAfter` lifts it
to every prefix of a session; `Rpc.run_of_review` gives the answer of one review step from
`callFollowsLedger`. The main statement is `review_session_follows_ledger`.
-/

set_option autoImplicit false
set_option relaxedAutoImplicit false

namespace Cinema.Request

namespace Checked

variable {α β : Type}

theorem map_eq_ok {f : α → β} {c : Checked α} {b : β} (mapped : f <$> c = .ok b) :
    ∃ a, c = .ok a ∧ f a = b := by
  cases c with
  | ok a => exact ⟨a, rfl, by simpa [Functor.map, map] using mapped⟩
  | bad issues => simp [Functor.map, map] at mapped

theorem seq_eq_ok {cf : Checked (α → β)} {c : Checked α} {b : β} (applied : (cf <*> c) = .ok b) :
    ∃ f a, cf = .ok f ∧ c = .ok a ∧ f a = b := by
  cases cf <;> cases c <;> simp_all [Seq.seq, seq]

theorem andThen_eq_ok {c : Checked α} {f : α → Checked β} {b : β} (checked : c.andThen f = .ok b) :
    ∃ a, c = .ok a ∧ f a = .ok b := by
  cases c <;> simp_all [andThen]

theorem under_eq_ok {part : String} {c : Checked α} {a : α} (checked : c.under part = .ok a) :
    c = .ok a := by
  cases c <;> simp_all [under]

end Checked

theorem required_eq_ok {α : Type} {fields : List (String × Json.Value)} {name : String}
    {read : Json.Value → Checked α} {a : α} (present : required fields name read = .ok a) :
    ∃ v, read v = .ok a := by
  have inner := Checked.under_eq_ok present
  split at inner
  · exact ⟨_, inner⟩
  · simp [Checked.fail] at inner

theorem within_eq_ok {lo hi n : Int} {v : Json.Value} (checked : within lo hi v = .ok n) :
    lo ≤ n ∧ n ≤ hi := by
  obtain ⟨m, -, bounded⟩ := Checked.andThen_eq_ok checked
  obtain ⟨k, below, above⟩ := Checked.andThen_eq_ok bounded
  unfold atMost at below
  unfold atLeast at above
  split at below <;> split at above <;> simp_all [Checked.fail]

theorem ReviewWrite.rating_of_read {v : Json.Value} {q : ReviewWrite}
    (read : ReviewWrite.read v = .ok q) : 1 ≤ q.rating ∧ q.rating ≤ 10 := by
  obtain ⟨fields, -, built⟩ := Checked.andThen_eq_ok read
  obtain ⟨withText, text, upToRating, -, rfl⟩ := Checked.seq_eq_ok built
  obtain ⟨withRating, rating, first, rated, rfl⟩ := Checked.seq_eq_ok upToRating
  obtain ⟨id, -, rfl⟩ := Checked.map_eq_ok first
  obtain ⟨_, bounded⟩ := required_eq_ok rated
  exact within_eq_ok bounded

end Cinema.Request

namespace Cinema.Service

open Cinema.Reviews Cinema.Request

/-- The operation a review method stands for when `u` calls it: on `u`'s own review of the
movie the request names. -/
def Rpc.operationFor : Rpc → Int → Option Operation
  | .addReview q, u => some (.add u q.id q.rating q.review)
  | .updateReview q, u => some (.update u q.id q.rating q.review)
  | .deleteReview q, u => some (.delete u q.id)
  | .getReview q, u => some (.get u q.id)
  | _, _ => none

def Rpc.rated : Rpc → Prop
  | .addReview q | .updateReview q => 1 ≤ q.rating ∧ q.rating ≤ 10
  | _ => True

namespace Rpc

theorem operationFor_rated {rpc : Rpc} (rated : rpc.rated) {u : Int} {op : Operation}
    (review : rpc.operationFor u = some op) : op.rated := by
  cases rpc <;> simp_all [operationFor, Rpc.rated] <;> subst review <;> simp_all [Operation.rated]

theorem rated_of_read {method : String} {request : Json.Value} {rpc : Rpc}
    (read : Rpc.read method request = some (.ok rpc)) : rpc.rated := by
  unfold Rpc.read at read
  split at read
  -- fifteen methods, each reading its request and wrapping it; a name of no method reads nothing
  case h_16 => simp at read
  all_goals
    obtain ⟨q, checked, rfl⟩ := Checked.map_eq_ok (Option.some.inj read)
    first
      | trivial
      | exact ReviewWrite.rating_of_read checked

theorem work?_of_operationFor {rpc : Rpc} {u : Int} {op : Operation}
    (review : rpc.operationFor u = some op) : rpc.work? (some u) = some (.operation op) := by
  cases rpc <;> simp_all [operationFor, work?]

theorem operationFor_of_work? {rpc : Rpc} {identity : Option Int} {op : Operation}
    (operation : rpc.work? identity = some (.operation op)) :
    ∃ u, identity = some u ∧ rpc.operationFor u = some op := by
  cases rpc <;> cases identity <;> simp_all [operationFor, work?]

theorem operationFor_of_query {rpc : Rpc} {identity : Option Int} {q : Catalog.Query}
    (query : rpc.work? identity = some (.query q)) : identity.bind rpc.operationFor = none := by
  cases rpc <;> cases identity <;> simp_all [operationFor, work?]

end Rpc

theorem Rpc.run_operation {rpc : Rpc} {ctx : Context} {op : Operation}
    (admitted : ctx.entryError? = none) (work : rpc.work? ctx.identity = some (.operation op))
    (env : Surroundings) (s : Store) :
    rpc.run env ctx s =
      ⟨(ctx.settle (((s.call env.disturbance op.procedure).1.map (answerOf op)).map ((0, ·)))).answer,
        [.sql op.procedure], (s.call env.disturbance op.procedure).2⟩ := by
  rw [Rpc.run_of_work env s admitted work, Option.map_map]
  rfl

theorem Context.settle_none_ne_ok {α : Type} (ctx : Context) (r : α) :
    (ctx.settle none).answer ≠ some (.ok r) := by
  simp only [Context.settle, Context.interrupted]
  split
  · simp
  · split <;> simp

/-- A run of a rated call changes the store only through a successful review operation, and then
as the ledger applies it. -/
theorem Rpc.ledger_run {rpc : Rpc} (rated : rpc.rated) (env : Surroundings) (ctx : Context)
    (s : Store) :
    Ledger.of (rpc.run env ctx s).store =
      (Ledger.of s).afterAnswer (ctx.identity.bind rpc.operationFor) (rpc.run env ctx s).answer := by
  cases admitted : ctx.entryError? with
  | some e => simp [run, race_of_entryError env 0 s admitted, Ledger.afterAnswer]
  | none =>
    cases work : rpc.work? ctx.identity with
    | none => simp [run, race_of_work?_eq_none env 0 s admitted work, Ledger.afterAnswer]
    | some w =>
      cases w with
      | query q =>
        -- a catalog query leaves the store alone and stands for no review operation
        have noOperation := operationFor_of_query work
        rw [run_of_work env s admitted work]
        cases request : q.request env.client <;> simp [Work.start, request, noOperation]
      | operation op =>
        obtain ⟨u, caller, review⟩ := operationFor_of_work? work
        have opRated := operationFor_rated rated review
        rw [run_operation admitted work env s]
        cases disturbed : env.disturbance with
        | hang =>
          -- the store never answers: nothing is written and the race ends in a failure or never
          exact (Ledger.afterAnswer_of_not_ok _ _ (Context.settle_none_ne_ok ctx)).symm
        | fail e =>
          obtain ⟨f, failed⟩ := answerOf_error op e
          simp only [Store.call, Option.map_some, failed, Context.settle_at_start]
          rfl
        | calm =>
          obtain ⟨answered, recorded⟩ := callFollowsLedger s opRated
          have stands : ctx.identity.bind rpc.operationFor = some op := by
            rw [caller, Option.bind_some, review]
          rw [answered, recorded, stands, Option.map_some, Context.settle_at_start]
          cases (Ledger.of s).dictate op <;> rfl

/-- A review method whose caller is known, whose context is live at entry and whose store is
undisturbed answers what the ledger dictates for its operation, after one call of that
operation's procedure. -/
theorem Rpc.run_of_review {rpc : Rpc} {ctx : Context} {env : Surroundings} {u : Int}
    {op : Operation} (rated : rpc.rated) (admitted : ctx.entryError? = none)
    (caller : ctx.identity = some u) (review : rpc.operationFor u = some op)
    (calm : env.disturbance = .calm) (s : Store) :
    (rpc.run env ctx s).answer = some ((Ledger.of s).dictate op) ∧
      (rpc.run env ctx s).calls = [.sql op.procedure] := by
  have work : rpc.work? ctx.identity = some (.operation op) := by
    rw [caller]
    exact work?_of_operationFor review
  rw [run_operation admitted work env s, calm]
  obtain ⟨answered, -⟩ := callFollowsLedger s (operationFor_rated rated review)
  exact ⟨by rw [answered, Option.map_some, Context.settle_at_start], rfl⟩

def Step.operation? (st : Step) : Option Operation :=
  match Rpc.read st.method st.request with
  | some (.ok rpc) => st.context.identity.bind rpc.operationFor
  | _ => none

namespace Ledger

/-- The ledger after a step answered `answer`: only a step that ran and answered successfully
with a review operation changes it. -/
def replayStep (M : Ledger) (st : Step) : StepAnswer → Ledger
  | .ran answer _ => M.afterAnswer st.operation? answer
  | _ => M

/-- The ledger that a history of answered steps builds from `M`, replaying only the steps that
answered successfully. -/
def replay (M : Ledger) (history : List (Step × StepAnswer)) : Ledger :=
  history.foldl (fun M entry => M.replayStep entry.1 entry.2) M

end Ledger

/-- The step lemma: a step changes the store's ledger as replaying its answer does. -/
theorem Step.ledger_run (st : Step) (s : Store) :
    Ledger.of (st.run s).2 = (Ledger.of s).replayStep st (st.run s).1 := by
  unfold Step.run
  cases read : Rpc.read st.method st.request with
  | none => rfl
  | some checked =>
    cases checked with
    | bad issues => rfl
    | ok rpc =>
      simp only [step, Ledger.replayStep, Step.operation?, read]
      exact Rpc.ledger_run (Rpc.rated_of_read read) _ _ _

def storeAfter : Store → List Step → Store
  | store, [] => store
  | store, st :: rest => storeAfter (st.run store).2 rest

theorem runSteps_append (store : Store) (pre rest : List Step) :
    runSteps store (pre ++ rest) = runSteps store pre ++ runSteps (storeAfter store pre) rest := by
  induction pre generalizing store with
  | nil => rfl
  | cons st pre ih => simp [runSteps, storeAfter, ih]

theorem length_runSteps (store : Store) (steps : List Step) :
    (runSteps store steps).length = steps.length := by
  induction steps generalizing store with
  | nil => rfl
  | cons st rest ih => simp [runSteps, ih]

/-- The run lemma: after any steps, the store's ledger is the replay of the steps' answers. -/
theorem ledger_storeAfter (store : Store) (pre : List Step) :
    Ledger.of (storeAfter store pre) = (Ledger.of store).replay (pre.zip (runSteps store pre)) := by
  induction pre generalizing store with
  | nil => rfl
  | cons st pre ih =>
    simp only [storeAfter, runSteps, List.zip_cons_cons, Ledger.replay, List.foldl_cons]
    rw [ih, Step.ledger_run]
    rfl

/-- Review sessions follow the ledger of their successful steps. In every session of steps, of
any methods, requests, contexts and disturbances, take a step of a review method whose request
passed its checks, whose caller `u` is known, whose context is live at entry and whose store call
is undisturbed. Its operation is on `u`'s own review of the requested movie, and the step calls
that operation's procedure once and answers what the ledger dictates, the ledger replayed from
the store's over exactly the earlier steps that answered successfully. -/
theorem review_session_follows_ledger (store : Store) (pre post : List Step) (st : Step)
    {rpc : Rpc} {u : Int} {op : Operation}
    (read : Rpc.read st.method st.request = some (.ok rpc))
    (caller : st.context.identity = some u) (review : rpc.operationFor u = some op)
    (active : st.context.entryError? = none) (calm : st.surroundings.disturbance = .calm) :
    op.key.user = u ∧
      (runSteps store (pre ++ st :: post))[pre.length]? =
        some (.ran (some (((Ledger.of store).replay (pre.zip (runSteps store pre))).dictate op))
          [.sql op.procedure]) := by
  have keyed : op.key.user = u := by
    cases rpc <;> simp only [Rpc.operationFor, reduceCtorEq, Option.some.injEq] at review <;>
      (subst review; rfl)
  refine ⟨keyed, ?_⟩
  -- the answer in the step's place is its own answer from the store the earlier steps left
  have here : (runSteps store (pre ++ st :: post))[pre.length]? =
      some (st.run (storeAfter store pre)).1 := by
    rw [runSteps_append, List.getElem?_append_right (Nat.le_of_eq (length_runSteps store pre)),
      length_runSteps, Nat.sub_self]
    simp [runSteps]
  obtain ⟨answered, called⟩ := Rpc.run_of_review (Rpc.rated_of_read read) active caller review calm
    (storeAfter store pre)
  rw [here, ← ledger_storeAfter]
  simp only [Step.run, read, step, answered, called]

/-- A caller's read of the movie they reviewed in the step before answers the review the ledger
holds. -/
theorem review_read_after_add_follows_ledger :
    Rpc.read "GetUserMovieReview" (.obj [("id", .int 100)]) = some (.ok (.getReview ⟨100⟩)) ∧
      (some 1 : Option Int) = some 1 ∧
      (Rpc.getReview ⟨100⟩).operationFor 1 = some (.get 1 100) ∧
      (⟨some 1, .none, .unwatched⟩ : Context).entryError? = none ∧
      (⟨{}, { apiKey := "key" }, none, .calm⟩ : Surroundings).disturbance = .calm ∧
      (Operation.get 1 100).key.user = 1 ∧
      (runSteps Store.initial
          ([⟨"AddUserMovieReview", .obj [("id", .int 100), ("rating", .int 4), ("review", .str "fine")],
              ⟨some 1, .none, .unwatched⟩, ⟨{}, { apiKey := "key" }, none, .calm⟩⟩] ++
            [⟨"GetUserMovieReview", .obj [("id", .int 100)], ⟨some 1, .none, .unwatched⟩,
              ⟨{}, { apiKey := "key" }, none, .calm⟩⟩]))[1]? =
        some (.ran (some (((Ledger.of Store.initial).replay
            ([⟨"AddUserMovieReview", .obj [("id", .int 100), ("rating", .int 4), ("review", .str "fine")],
                ⟨some 1, .none, .unwatched⟩, ⟨{}, { apiKey := "key" }, none, .calm⟩⟩].zip
              (runSteps Store.initial
                [⟨"AddUserMovieReview",
                  .obj [("id", .int 100), ("rating", .int 4), ("review", .str "fine")],
                  ⟨some 1, .none, .unwatched⟩, ⟨{}, { apiKey := "key" }, none, .calm⟩⟩]))).dictate
            (.get 1 100))) [.sql (Operation.get 1 100).procedure]) := by
  have read : Rpc.read "GetUserMovieReview" (.obj [("id", .int 100)]) =
      some (.ok (.getReview ⟨100⟩)) := rfl
  have active : (⟨some 1, .none, .unwatched⟩ : Context).entryError? = none := rfl
  exact ⟨read, rfl, rfl, active, rfl,
    review_session_follows_ledger Store.initial _ [] _ read rfl rfl active rfl⟩

/-- A review whose text holds U+0000 cannot be added, not even to an empty store: the store
refuses the text and the method answers "internal". -/
theorem review_with_nul_answers_internal :
    runSteps Store.initial
        [⟨"AddUserMovieReview", .obj [("id", .int 1), ("rating", .int 5), ("review", .str "a\x00b")],
          ⟨some 1, .none, .unwatched⟩, ⟨{}, { apiKey := "key" }, none, .calm⟩⟩] =
      [.ran (some (.error ⟨.internal, "internal"⟩)) [.sql (.create ⟨1, 1⟩ 5 "a\x00b")]] := by
  rfl

end Cinema.Service
