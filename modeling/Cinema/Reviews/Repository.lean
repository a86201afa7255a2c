import Cinema.Reviews.Review
import Cinema.Reviews.Store

/-!
# The review repository

The four operations on a user's review of a movie, each one call of a stored procedure with no
retry and no read before the write. The repository reads the procedure's outcome as a domain
outcome:

* a second review of a pair is "already exists" only when the store names the unique constraint
  on user and movie, and only for `add`;
* `update`, `delete` and `get` on a pair without a review are "not found";
* every other error of the database is a store error whose text names the operation;
* a failure outside the database passes through as it is.
-/

namespace Cinema.Reviews

open Cinema.Calendar

inductive Operation where
  | add (user movie rating : Int) (text : String)
  | update (user movie rating : Int) (text : String)
  | delete (user movie : Int)
  | get (user movie : Int)
  deriving DecidableEq, Repr

def Operation.key : Operation → Key
  | .add u m .. | .update u m .. | .delete u m | .get u m => ⟨u, m⟩

def Operation.procedure : Operation → Procedure
  | .add u m r t => .create ⟨u, m⟩ r t
  | .update u m r t => .update ⟨u, m⟩ r t
  | .delete u m => .delete ⟨u, m⟩
  | .get u m => .get ⟨u, m⟩

def Operation.errorTag : Operation → String
  | .add .. => "pg_review_create_error"
  | .update .. => "pg_review_update_error"
  | .delete .. => "pg_review_delete_error"
  | .get .. => "pg_review_get_error"

inductive Failure where
  | alreadyExists (user movie : Int)
  | notFound (user movie : Int)
  /-- The database refused the call; the text names the operation. -/
  | storeError (text : String)
  /-- The call failed outside the database. -/
  | crashed (message : String)
  deriving DecidableEq, Repr

def Failure.message : Failure → String
  | .alreadyExists .. => "user movie review already exists for the given user and movie"
  | .notFound .. => "user movie review not found for the given user and movie"
  | .storeError t => t
  | .crashed m => m

/-- The review of a stored row, its times in UTC. -/
def Review.ofStored (row : Row) : Review :=
  ⟨row.rating, row.text, some (Stamp.ofMoment row.createdAt), some (Stamp.ofMoment row.updatedAt)⟩

/-- The out-parameter row `(found,)` that a call of `update` or `delete` fetches. -/
def foundRow (found : Bool) : Json.Value := .arr [.bool found]

/-- How `update` and `delete` read the row their call fetched: done when the row's found flag is
true, "not found" when it is false; a row that cannot be indexed fails outside the database. -/
def Operation.readFound (op : Operation) (row : Json.Value) : Except Failure (Option Review) :=
  match foundFlag row with
  | .ok true => .ok none
  | .ok false => .error (.notFound op.key.user op.key.movie)
  | .error f => .error (.crashed f.message)

/-- The domain outcome of an operation whose procedure call ended with `r`: a review for `get`,
nothing for the others. -/
def Operation.outcome (op : Operation) (r : Except StoreError Outcome) :
    Except Failure (Option Review) :=
  let k := op.key
  match r with
  | .error (.crashed m) => .error (.crashed m)
  | .error e =>
    match op, e with
    | .add .., .uniqueViolation c =>
      if c = uniqueReviewConstraint then .error (.alreadyExists k.user k.movie)
      else .error (.storeError (op.errorTag ++ ": " ++ e.text))
    | _, _ => .error (.storeError (op.errorTag ++ ": " ++ e.text))
  | .ok o =>
    match op, o with
    | .add .., _ => .ok none
    | .get .., .review (some row) => .ok (some (Review.ofStored row))
    | .update .., .found b | .delete .., .found b => op.readFound (foundRow b)
    | _, _ => .error (.notFound k.user k.movie)

/-- The record of one operation: its answer (none when the store never answers) and the store
after it. -/
def Operation.perform (op : Operation) (store : Store) (d : Disturbance) :
    Option (Except Failure (Option Review)) × Store :=
  let (reply, store') := store.call d op.procedure
  (reply.map op.outcome, store')

/-- The answers of operations run one after another, each under its own disturbance, the store
of one passed on to the next. -/
def performAll :
    Store → List (Disturbance × Operation) → List (Option (Except Failure (Option Review)))
  | _, [] => []
  | store, (d, op) :: rest =>
    let (answer, store') := op.perform store d
    answer :: performAll store' rest

end Cinema.Reviews
