import Cinema.Proofs.Service.Guards

/-!
# The race of a bounded call

A method past its entry guards races its one collaborator call against the deadline and the
caller. Three moments, each counted from the start of the call and each possibly never coming,
decide the race: the call finishing, the deadline, and the watcher, which asks the probe at once
and every 50 ms after, first hearing that the caller has gone. The first of them ends the race,
the call at a tie and the deadline before the caller. A call that loses is cancelled and awaited
before the method answers "deadline exceeded" or "canceled"; a watcher still running is
cancelled. A call with neither a deadline nor a probe is awaited directly. The call's requests
are made at its start and its write counts only when it wins, so nothing it does comes after the
answer. The main statement is `bounded_call_races_deadline_and_caller`.
-/

set_option autoImplicit false
set_option relaxedAutoImplicit false

namespace Cinema.Service

open Cinema.Reviews

theorem noLater_some_iff (a : Nat) (t : Option Nat) :
    noLater (some a) t = true ↔ ∀ b, t = some b → a ≤ b := by
  cases t <;> simp [noLater]

namespace Context

variable {α : Type} (ctx : Context)

theorem stopWatcher_eq : ctx.stopWatcher = if ctx.connection = .unwatched then [] else [.cancel .watcher] := by
  by_cases unwatched : ctx.connection = .unwatched <;> simp [stopWatcher, watched, unwatched]

/-- The watcher hears true first at `50 * j` ms exactly when the probe's first true answer is to
question `j + 1`, the question at entry being number `0`. -/
theorem leaveMs?_eq_some_iff (l : Nat) :
    ctx.leaveMs? = some l ↔ ∃ j, l = pollMs * j ∧ ctx.connection.answer (j + 1) = true ∧
      ∀ i ≤ j, ctx.connection.answer i = false := by
  unfold leaveMs?
  cases ctx.connection with
  | unwatched => simp [Connection.answer]
  | steady => simp [Connection.answer]
  | dropsAfter checks =>
    cases checks with
    | zero =>
      -- the probe answers true at entry already, so the watcher never starts
      simp only [Connection.answer, reduceCtorEq, false_iff, not_exists, not_and]
      intro j _ _ quiet
      simpa using quiet 0 (Nat.zero_le j)
    | succ k =>
      simp only [Connection.answer, Option.some.injEq, decide_eq_true_eq, decide_eq_false_iff_not,
        Nat.not_le]
      constructor
      · rintro rfl
        exact ⟨k, rfl, Nat.le_refl _, fun i le => Nat.lt_succ_of_le le⟩
      · rintro ⟨j, rfl, late, quiet⟩
        -- the first true answer is to question `k + 1`, so `j` is `k`
        have early : j < k + 1 := quiet j (Nat.le_refl j)
        have same : j = k := by omega
        rw [same]

theorem settle_of_call_first {ms : Nat} {o : Except RpcError α}
    (beforeDeadline : ∀ d, ctx.deadline.remaining = some d → ms ≤ d)
    (beforeCaller : ∀ l, ctx.leaveMs? = some l → ms ≤ l) :
    ctx.settle (some (ms, o)) = ⟨some o, .finish :: ctx.stopWatcher ++ [.answer]⟩ := by
  have wins : (noLater (some ms) ctx.deadline.remaining && noLater (some ms) ctx.leaveMs?) = true := by
    rw [Bool.and_eq_true, noLater_some_iff, noLater_some_iff]
    exact ⟨beforeDeadline, beforeCaller⟩
  simp only [settle, wins, if_true]

theorem settle_of_late {call : Option (Nat × Except RpcError α)}
    (late : ∀ ms o, call = some (ms, o) →
      (∃ d, ctx.deadline.remaining = some d ∧ d < ms) ∨ ∃ l, ctx.leaveMs? = some l ∧ l < ms) :
    ctx.settle call = ctx.interrupted := by
  cases call with
  | none => rfl
  | some finish =>
    obtain ⟨ms, o⟩ := finish
    have loses : (noLater (some ms) ctx.deadline.remaining && noLater (some ms) ctx.leaveMs?) =
        false := by
      rw [Bool.and_eq_false_iff]
      rcases late ms o rfl with ⟨d, deadline, before⟩ | ⟨l, leave, before⟩
      · left
        simp [deadline, noLater, Nat.not_le.mpr before]
      · right
        simp [leave, noLater, Nat.not_le.mpr before]
    simp only [settle, loses, Bool.false_eq_true, if_false]

theorem interrupted_of_deadline_first {d : Nat} (deadline : ctx.deadline.remaining = some d)
    (beforeCaller : ∀ l, ctx.leaveMs? = some l → d ≤ l) :
    (ctx.interrupted : Settled α) = ⟨some (.error (.ofCode .deadlineExceeded)),
      .cancel .call :: ctx.stopWatcher ++ [.awaitCall, .answer]⟩ := by
  have first : noLater ctx.deadline.remaining ctx.leaveMs? = true := by
    rw [deadline, noLater_some_iff]
    exact beforeCaller
  simp only [interrupted, first, if_true]

theorem interrupted_of_caller_first {l : Nat} (leave : ctx.leaveMs? = some l)
    (beforeDeadline : ∀ d, ctx.deadline.remaining = some d → l < d) :
    (ctx.interrupted : Settled α) =
      ⟨some (.error (.ofCode .canceled)), [.cancel .call, .awaitCall, .answer]⟩ := by
  have notDeadline : noLater ctx.deadline.remaining (some l) = false := by
    cases deadline : ctx.deadline.remaining with
    | none => rfl
    | some d => simp [noLater, beforeDeadline d deadline]
  simp only [interrupted, leave, notDeadline, Option.isSome_some, Bool.false_eq_true, if_false,
    if_true]

theorem interrupted_finished : (ctx.interrupted : Settled α).finished = false := by
  unfold interrupted stopWatcher
  split
  · split <;> rfl
  · split <;> rfl

theorem interrupted_of_neither (noDeadline : ctx.deadline.remaining = none)
    (noLeave : ctx.leaveMs? = none) : (ctx.interrupted : Settled α) = ⟨none, []⟩ := by
  simp [interrupted, noDeadline, noLeave, noLater]

/-- With neither a deadline nor a probe the call is awaited as it is: its outcome when it
finishes, whenever that is, and no answer when it never does. -/
theorem settle_unbounded (noDeadline : ctx.deadline = .none) (unwatched : ctx.connection = .unwatched)
    (call : Option (Nat × Except RpcError α)) :
    ctx.settle call = ⟨call.map Prod.snd, if call.isSome then [.finish, .answer] else []⟩ := by
  have remaining : ctx.deadline.remaining = none := by rw [noDeadline]; rfl
  have leave : ctx.leaveMs? = none := by simp [leaveMs?, unwatched]
  have noWatcher : ctx.stopWatcher = [] := by simp [stopWatcher_eq, unwatched]
  cases call with
  | none => exact interrupted_of_neither ctx remaining leave
  | some finish =>
    obtain ⟨ms, o⟩ := finish
    rw [settle_of_call_first ctx (by simp [remaining]) (by simp [leave]), noWatcher]
    rfl

end Context

/-- The race of every method that passes its entry guards, for every context, collaborator,
store and time the collaborator takes to answer. The call's requests are made at its start.
With neither a deadline nor a probe, the method answers exactly what awaiting the call gives.
Otherwise the earliest of the call finishing, the deadline and the watcher hearing that the
caller has gone ends the race, the call at a tie and the deadline before the caller. A call that
finishes first answers its outcome, keeps its write and has the watcher cancelled. A call
overtaken by the deadline or the caller is cancelled and awaited before the answer, which is
"deadline exceeded" or "canceled" as they are, never made "internal", and leaves the store as it
was; the watcher is cancelled, unless it ended itself by hearing true. When none of the three
ever comes, the method never answers. The watcher hears true at `50 * j` ms when the probe first
answers true to its question `j + 1`, the question at entry being `0`. -/
theorem bounded_call_races_deadline_and_caller (rpc : Rpc) (env : Surroundings) (ctx : Context)
    (lag : Nat) (store : Store) (w : Work) (admitted : ctx.entryError? = none)
    (work : rpc.work? ctx.identity = some w) :
    (rpc.race env ctx lag store).1.calls = (w.start env ctx lag store).calls ∧
    (ctx.deadline = .none → ctx.connection = .unwatched →
      (rpc.race env ctx lag store).1.answer = (w.start env ctx lag store).finish.map Prod.snd ∧
      (rpc.race env ctx lag store).2 =
        if (w.start env ctx lag store).finish.isSome then [.finish, .answer] else []) ∧
    (∀ ms o, (w.start env ctx lag store).finish = some (ms, o) →
      (∀ d, ctx.deadline.remaining = some d → ms ≤ d) → (∀ l, ctx.leaveMs? = some l → ms ≤ l) →
      (rpc.race env ctx lag store).1.answer = some o ∧
      (rpc.race env ctx lag store).1.store = (w.start env ctx lag store).store ∧
      (rpc.race env ctx lag store).2 = .finish ::
        (if ctx.connection = .unwatched then [] else [.cancel .watcher]) ++ [.answer]) ∧
    (∀ d, ctx.deadline.remaining = some d →
      (∀ ms o, (w.start env ctx lag store).finish = some (ms, o) → d < ms) →
      (∀ l, ctx.leaveMs? = some l → d ≤ l) →
      (rpc.race env ctx lag store).1.answer = some (.error ⟨.deadlineExceeded, "deadline_exceeded"⟩) ∧
      (rpc.race env ctx lag store).1.store = store ∧
      (rpc.race env ctx lag store).2 = .cancel .call ::
        (if ctx.connection = .unwatched then [] else [.cancel .watcher]) ++ [.awaitCall, .answer]) ∧
    (∀ l, ctx.leaveMs? = some l →
      (∀ ms o, (w.start env ctx lag store).finish = some (ms, o) → l < ms) →
      (∀ d, ctx.deadline.remaining = some d → l < d) →
      (rpc.race env ctx lag store).1.answer = some (.error ⟨.canceled, "canceled"⟩) ∧
      (rpc.race env ctx lag store).1.store = store ∧
      (rpc.race env ctx lag store).2 = [.cancel .call, .awaitCall, .answer]) ∧
    ((w.start env ctx lag store).finish = none → ctx.deadline.remaining = none →
      ctx.leaveMs? = none →
      (rpc.race env ctx lag store).1.answer = none ∧ (rpc.race env ctx lag store).2 = []) ∧
    (∀ l, ctx.leaveMs? = some l ↔ ∃ j, l = pollMs * j ∧ ctx.connection.answer (j + 1) = true ∧
      ∀ i ≤ j, ctx.connection.answer i = false) := by
  have race := Rpc.race_of_work env lag store admitted work
  -- every case below reads the race through `settle`, at the call's own finishing moment
  refine ⟨by rw [race], fun noDeadline unwatched => ?_, fun ms o finish beforeDeadline
    beforeCaller => ?_, fun d deadline callLate beforeCaller => ?_, fun l leave callLate
    beforeDeadline => ?_, fun never noDeadline noLeave => ?_, ctx.leaveMs?_eq_some_iff⟩
  · rw [race, Context.settle_unbounded ctx noDeadline unwatched]
    exact ⟨rfl, rfl⟩
  · rw [race, finish, Context.settle_of_call_first ctx beforeDeadline beforeCaller,
      Context.stopWatcher_eq]
    exact ⟨rfl, by simp [Settled.finished], rfl⟩
  · have late := Context.settle_of_late ctx fun ms o finish =>
      .inl ⟨d, deadline, callLate ms o finish⟩
    have first := Context.interrupted_of_deadline_first (α := Response) ctx deadline beforeCaller
    refine ⟨?_, ?_, ?_⟩
    · rw [race, late, first]
      rfl
    · rw [race, late, Context.interrupted_finished]
      rfl
    · rw [race, late, first, Context.stopWatcher_eq]
  · have late := Context.settle_of_late ctx fun ms o finish =>
      .inr ⟨l, leave, callLate ms o finish⟩
    have first := Context.interrupted_of_caller_first (α := Response) ctx leave beforeDeadline
    refine ⟨?_, ?_, ?_⟩
    · rw [race, late, first]
      rfl
    · rw [race, late, Context.interrupted_finished]
      rfl
    · rw [race, late, first]
  · rw [race, never]
    rw [show ctx.settle (none : Option (Nat × Except RpcError Response)) = ⟨none, []⟩ from
      Context.interrupted_of_neither ctx noDeadline noLeave]
    exact ⟨rfl, rfl⟩

/-- A read of one's own review that takes 250 ms, with a deadline at 100 ms and a caller who
stays, is cancelled and awaited, its watcher cancelled, and answers "deadline exceeded". -/
theorem slow_review_read_times_out :
    (⟨some 1, .after 100, .steady⟩ : Context).entryError? = none ∧
    (Rpc.getReview ⟨7⟩).work? (some 1) = some (.operation (.get 1 7)) ∧
    ((Rpc.getReview ⟨7⟩).race ⟨{}, { apiKey := "key" }, none, .calm⟩ ⟨some 1, .after 100, .steady⟩
        250 Store.initial).1.answer = some (.error ⟨.deadlineExceeded, "deadline_exceeded"⟩) ∧
    ((Rpc.getReview ⟨7⟩).race ⟨{}, { apiKey := "key" }, none, .calm⟩ ⟨some 1, .after 100, .steady⟩
        250 Store.initial).2 = [.cancel .call, .cancel .watcher, .awaitCall, .answer] := by
  have late : ∀ ms o, ((Work.operation (.get 1 7)).start ⟨{}, { apiKey := "key" }, none, .calm⟩
      ⟨some 1, .after 100, .steady⟩ 250 Store.initial).finish = some (ms, o) → 100 < ms := by
    intro ms o finish
    rcases Work.start_finish_time _ _ _ finish with atLag | ⟨-, unsent⟩
    · omega
    · cases unsent
  obtain ⟨answer, -, effects⟩ :=
    (bounded_call_races_deadline_and_caller (.getReview ⟨7⟩) ⟨{}, { apiKey := "key" }, none, .calm⟩
      ⟨some 1, .after 100, .steady⟩ 250 Store.initial _ rfl rfl).2.2.2.1 100 rfl late
      (fun _ leave => by cases leave)
  exact ⟨rfl, rfl, answer, effects⟩

end Cinema.Service
