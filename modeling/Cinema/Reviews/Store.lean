import Cinema.Calendar.Moment
import Cinema.Json.Value

/-!
# The review store

The table of user reviews, keyed uniquely by user and movie, and the four stored procedures over
it. The database's clock starts at 2024-01-01T00:00:00 UTC and moves one second forward with
every review written, which is stamped with the new time. The procedures check their arguments
as the column types do before they touch the table: both ids must fit 64 bits, a written rating
32 bits (16 bits and 1 to 10 once stored), and a written text may not hold U+0000. A call may
also be disturbed from outside: the database may never answer it, or fail it before it runs.
-/

namespace Cinema.Reviews

open Cinema.Calendar Cinema.Json

structure Key where
  user : Int
  movie : Int
  deriving DecidableEq, Repr

/-- A stored review: its rating and text, and when it was created and last updated. -/
structure Row where
  rating : Int
  text : String
  createdAt : Moment
  updatedAt : Moment
  deriving DecidableEq, Repr

structure Store where
  rows : List (Key × Row)
  clock : Moment
  deriving DecidableEq, Repr

inductive Procedure where
  | create (key : Key) (rating : Int) (text : String)
  | update (key : Key) (rating : Int) (text : String)
  | delete (key : Key)
  | get (key : Key)
  deriving DecidableEq, Repr

/-- What a procedure reports when it runs to its end. -/
inductive Outcome where
  /-- A review was created; nothing is reported. -/
  | done
  | found (found : Bool)
  | review (row : Option Row)
  deriving DecidableEq, Repr

inductive StoreError where
  /-- The database refused a second row for a unique key, named by its constraint. -/
  | uniqueViolation (constraint : String)
  | rejected (text : String)
  | crashed (message : String)
  deriving DecidableEq, Repr

/-- What disturbs one call from outside. -/
inductive Disturbance where
  /-- Nothing: the call runs. -/
  | calm
  /-- The database never answers. -/
  | hang
  /-- The call fails before it runs. -/
  | fail (e : StoreError)
  deriving DecidableEq, Repr

def uniqueReviewConstraint : String := "user_reviews_unique_user_movie_review"

def ratingCheck : String := "user_reviews_rating_check"

def StoreError.text : StoreError → String
  | .uniqueViolation c => "duplicate key value violates unique constraint \"" ++ c ++ "\""
  | .rejected t => t
  | .crashed m => m

def Procedure.name : Procedure → String
  | .create .. => "create_user_review"
  | .update .. => "update_user_review"
  | .delete _ => "delete_user_review"
  | .get _ => "get_user_review"

def Procedure.params : Procedure → List Value
  | .create k r t | .update k r t => [.int k.user, .int k.movie, .int r, .str t]
  | .delete k | .get k => [.int k.user, .int k.movie]

def Procedure.key : Procedure → Key
  | .create k .. | .update k .. | .delete k | .get k => k

def fitsBits (bits : Nat) (x : Int) : Bool :=
  let bound : Int := Nat.pow 2 (bits - 1)
  x < bound && -bound ≤ x

def require (ok : Bool) (e : StoreError) : Except StoreError Unit :=
  if ok then .ok () else .error e

def checkKey (k : Key) : Except StoreError Unit :=
  require (fitsBits 64 k.user && fitsBits 64 k.movie) (.rejected "bigint out of range")

def checkWrite (rating : Int) (text : String) : Except StoreError Unit := do
  require (fitsBits 32 rating) (.rejected "integer out of range")
  require (!text.toList.contains (Char.ofNat 0))
    (.rejected "PostgreSQL text fields cannot contain NUL (0x00) bytes")

def checkStored (rating : Int) : Except StoreError Unit := do
  require (fitsBits 16 rating) (.rejected "smallint out of range")
  require (1 ≤ rating && rating ≤ 10)
    (.rejected ("new row for relation \"user_reviews\" violates check constraint \"" ++
      ratingCheck ++ "\""))

namespace Store

/-- The store of a new session: no reviews, the clock at 2024-01-01T00:00:00 UTC. -/
def initial : Store := ⟨[], ⟨Date.days ⟨2024, 1, 1⟩ * microsPerDay, 0⟩⟩

def find? (s : Store) (k : Key) : Option Row := (s.rows.find? (·.1 == k)).map (·.2)

def without (s : Store) (k : Key) : List (Key × Row) := s.rows.filter (·.1 != k)

def tick (s : Store) : Moment := ⟨s.clock.micros + microsPerSecond, 0⟩

/-- Runs a procedure: what it reports and the store after it, or the error that leaves the store
as it was. -/
def run (s : Store) : Procedure → Except StoreError (Outcome × Store)
  | .create k rating text => do
    checkKey k
    checkWrite rating text
    checkStored rating
    match s.find? k with
    | some _ => .error (.uniqueViolation uniqueReviewConstraint)
    | none =>
      let now := s.tick
      pure (.done, ⟨s.rows ++ [(k, ⟨rating, text, now, now⟩)], now⟩)
  | .update k rating text => do
    checkKey k
    checkWrite rating text
    match s.find? k with
    | none => pure (.found false, s)
    | some row =>
      checkStored rating
      let now := s.tick
      pure (.found true, ⟨s.without k ++ [(k, { row with rating, text, updatedAt := now })], now⟩)
  | .delete k => do
    checkKey k
    pure (.found (s.find? k).isSome, { s with rows := s.without k })
  | .get k => do
    checkKey k
    pure (.review (s.find? k), s)

/-- Calls a procedure under a disturbance: its answer, none when it never comes, and the store
after it. -/
def call (s : Store) (d : Disturbance) (p : Procedure) :
    Option (Except StoreError Outcome) × Store :=
  match d with
  | .hang => (none, s)
  | .fail e => (some (.error e), s)
  | .calm => match s.run p with
    | .ok (o, s') => (some (.ok o), s')
    | .error e => (some (.error e), s)

end Store

end Cinema.Reviews
