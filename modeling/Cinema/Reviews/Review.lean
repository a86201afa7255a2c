import Cinema.Request.Time
import Cinema.Fault

/-!
# User reviews

A user's review of a movie: a rating, a text, and when it was created and last updated. The
store hands a review back as a row of out-parameters `(rating, review, created_at, updated_at,
found)`; the row reports a review only when it is a non-empty sequence whose last cell is `true`.

Read from a loose row, the five cells are checked like a request: the rating leniently as an
integer (a missing or false rating counts as `0`), the text strictly as a text (a missing or
empty one counts as `""`), and the two times leniently as optional stamps.
-/

namespace Cinema.Reviews

open Cinema.Json Cinema.Calendar Cinema.Request

structure Review where
  rating : Int := 0
  text : String := ""
  createdAt : Option Stamp := none
  updatedAt : Option Stamp := none
  deriving DecidableEq, Repr

def stampValue : Option Stamp → Value
  | some s => .str s.render
  | none => .null

def Review.toValue (r : Review) : Value :=
  .obj [("rating", .int r.rating), ("review", .str r.text),
    ("created_at", stampValue r.createdAt), ("updated_at", stampValue r.updatedAt)]

/-- Whether a loose row of out-parameters reports a found review: a row that counts as true and
whose last cell is `true`. A text never does; indexing an object or a number is a fault. -/
def foundFlag (row : Value) : Except Fault Bool :=
  if !row.truthy then .ok false
  else match row with
    | .arr cells => .ok (match cells.getLast? with
      | some (.bool true) => true
      | _ => false)
    | .str _ => .ok false
    | .obj _ => .error (.missingKey "-1")
    | other => .error (.notSubscriptable other.kindName)

inductive RowFailure where
  | fault (f : Fault)
  | invalid (issues : List Issue)

def cellOr (cell fallback : Value) : Value := if cell.truthy then cell else fallback

def Review.ofCells (rating text created updated : Value) : Checked Review :=
  Review.mk <$> (laxInt (cellOr rating (.int 0))).under "rating"
    <*> (strictText (cellOr text (.str ""))).under "review"
    <*> (optional laxStamp created).under "created_at"
    <*> (optional laxStamp updated).under "updated_at"

/-- The review a loose row of out-parameters reports, none when the row reports none. A found
row must have exactly five cells. -/
def Review.ofRow (row : Value) : Except RowFailure (Option Review) :=
  match foundFlag row with
  | .error f => .error (.fault f)
  | .ok false => .ok none
  | .ok true => match row with
    | .arr [rating, text, created, updated, _] =>
      match Review.ofCells rating text created updated with
      | .ok r => .ok (some r)
      | .bad issues => .error (.invalid issues)
    | .arr cells =>
      if cells.length < 5 then .error (.fault (.tooFewToUnpack 5 cells.length))
      else .error (.fault (.tooManyToUnpack 5))
    | _ => .ok none

end Cinema.Reviews
