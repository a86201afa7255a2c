import Cinema.Service.Rpc

/-!
# The entry guards of the RPC methods

Every method guards its entry before it calls a collaborator, always in the same order: a
deadline with no time left, then a caller whom the probe reports gone, then, for the four
methods about the caller's own reviews, a missing identity. A call stopped by a guard makes no
call and leaves the store as it was. A call that passes them makes at most one call. The catalog
methods never look at the identity at all.

The guards are `Context.entryError?` and the identity check in `Rpc.work?`. The main statement is
`entry_guards_apply_in_order`.
-/

namespace Cinema.Service

open Cinema.Reviews

def Rpc.aboutOwnReviews : Rpc → Bool
  | .addReview _ | .updateReview _ | .deleteReview _ | .getReview _ => true
  | _ => false

namespace Context

theorem entryError?_of_expired {ctx : Context} (expired : ctx.deadline.remaining = some 0) :
    ctx.entryError? = some ⟨.deadlineExceeded, "deadline_exceeded"⟩ := by
  simp [entryError?, Context.expired, expired, RpcError.ofCode, Code.text]

theorem entryError?_of_gone {ctx : Context} (live : ctx.deadline.remaining ≠ some 0)
    (gone : ctx.connection.answer 0 = true) :
    ctx.entryError? = some ⟨.canceled, "canceled"⟩ := by
  simp [entryError?, Context.expired, live, goneAtEntry, gone, RpcError.ofCode, Code.text]

theorem entryError?_eq_none {ctx : Context} (live : ctx.deadline.remaining ≠ some 0)
    (present : ctx.connection.answer 0 = false) : ctx.entryError? = none := by
  simp [entryError?, Context.expired, live, goneAtEntry, present]

@[simp]
theorem entryError?_withIdentity (ctx : Context) (i : Option Int) :
    ({ ctx with identity := i } : Context).entryError? = ctx.entryError? := rfl

end Context

namespace Rpc

theorem work?_eq_none_iff {rpc : Rpc} {identity : Option Int} :
    rpc.work? identity = none ↔ rpc.aboutOwnReviews = true ∧ identity = none := by
  cases rpc <;> cases identity <;> simp [work?, aboutOwnReviews]

theorem work?_of_catalog {rpc : Rpc} (catalog : rpc.aboutOwnReviews = false)
    (i j : Option Int) : rpc.work? i = rpc.work? j := by
  cases rpc <;> simp_all [work?, aboutOwnReviews]

variable (env : Surroundings) (store : Store)

theorem run_of_entryError {rpc : Rpc} {ctx : Context} {e : RpcError}
    (stopped : ctx.entryError? = some e) :
    rpc.run env ctx store = ⟨some (.error e), [], store⟩ := by
  rw [run, race_of_entryError env 0 store stopped]

theorem run_of_work?_eq_none {rpc : Rpc} {ctx : Context} (admitted : ctx.entryError? = none)
    (nothing : rpc.work? ctx.identity = none) :
    rpc.run env ctx store = ⟨some (.error identityRequired), [], store⟩ := by
  rw [run, race_of_work?_eq_none env 0 store admitted nothing]

theorem calls_length_le_one (rpc : Rpc) (ctx : Context) :
    (rpc.run env ctx store).calls.length ≤ 1 := by
  cases admitted : ctx.entryError? with
  | some e => simp [run_of_entryError env store admitted]
  | none =>
    cases work : rpc.work? ctx.identity with
    | none => simp [run_of_work?_eq_none env store admitted work]
    | some w =>
      rw [run_of_work env store admitted work]
      -- a query whose request cannot be built calls nothing; any other call is made once
      cases w with
      | query q =>
        simp only [Work.start]
        split <;> simp
      | operation op => simp [Work.start]

theorem run_withIdentity_of_catalog {rpc : Rpc} (catalog : rpc.aboutOwnReviews = false)
    (ctx : Context) (i : Option Int) :
    rpc.run env { ctx with identity := i } store = rpc.run env ctx store := by
  have same : rpc.work? i = rpc.work? ctx.identity := work?_of_catalog catalog i ctx.identity
  simp only [run, race, Context.entryError?_withIdentity, same]
  rfl

end Rpc

/-- The entry guards of every method, for every request, store and provider reply, in their
order: a deadline with no time left answers "deadline exceeded" whatever the probe would say;
else a probe that answers true answers "canceled"; else a review method without an identity
answers "unauthenticated". Each of them calls nothing and leaves the store as it was. Every run
makes at most one call, and the catalog methods answer the same for every identity. -/
theorem entry_guards_apply_in_order (rpc : Rpc) (env : Surroundings) (ctx : Context)
    (store : Store) :
    (ctx.deadline.remaining = some 0 →
      rpc.run env ctx store = ⟨some (.error ⟨.deadlineExceeded, "deadline_exceeded"⟩), [], store⟩) ∧
    (ctx.deadline.remaining ≠ some 0 → ctx.connection.answer 0 = true →
      rpc.run env ctx store = ⟨some (.error ⟨.canceled, "canceled"⟩), [], store⟩) ∧
    (ctx.deadline.remaining ≠ some 0 → ctx.connection.answer 0 = false →
      rpc.aboutOwnReviews = true → ctx.identity = none →
      rpc.run env ctx store =
        ⟨some (.error ⟨.unauthenticated, "authenticated identity is required"⟩), [], store⟩) ∧
    (rpc.run env ctx store).calls.length ≤ 1 ∧
    (rpc.aboutOwnReviews = false →
      ∀ i, rpc.run env { ctx with identity := i } store = rpc.run env ctx store) := by
  refine ⟨?_, ?_, ?_, Rpc.calls_length_le_one env store rpc ctx, ?_⟩
  · intro expired
    exact Rpc.run_of_entryError env store (Context.entryError?_of_expired expired)
  · intro live gone
    exact Rpc.run_of_entryError env store (Context.entryError?_of_gone live gone)
  · intro live present review missing
    have nothing : rpc.work? ctx.identity = none := Rpc.work?_eq_none_iff.mpr ⟨review, missing⟩
    exact Rpc.run_of_work?_eq_none env store (Context.entryError?_eq_none live present) nothing
  · intro catalog i
    exact Rpc.run_withIdentity_of_catalog env store catalog ctx i

/-- A review read whose deadline has run out answers "deadline exceeded", even from a caller
the probe already reports gone. -/
theorem expired_review_read_answers_deadline :
    Deadline.passed.remaining = some 0 ∧
      (Rpc.getReview ⟨7⟩).run ⟨{}, { apiKey := "key" }, none, .calm⟩
          ⟨some 1, .passed, .dropsAfter 0⟩ Store.initial =
        ⟨some (.error ⟨.deadlineExceeded, "deadline_exceeded"⟩), [], Store.initial⟩ :=
  ⟨rfl, (entry_guards_apply_in_order _ _ _ _).1 rfl⟩

end Cinema.Service
