import Cinema.Request.Lax
import Cinema.Request.Time

/-!
# Requests of the review methods

A review is about a movie id that fits the store's 64-bit column: above 0 and at most
`2^63 - 1`. A written review has a rating from 1 to 10 and a text of 1 to 10000 characters.
-/

namespace Cinema.Request

open Cinema.Json

structure ReviewWrite where
  id : Int
  rating : Int
  review : String
  deriving DecidableEq, Repr

structure ReviewKey where
  id : Int
  deriving DecidableEq, Repr

def reviewMovieId (v : Value) : Checked Int :=
  (laxInt v).andThen fun n => (atMost maxInt64 n).andThen (above 0)

def ReviewWrite.read (v : Value) : Checked ReviewWrite :=
  (requestFields v).andThen fun f =>
    ReviewWrite.mk <$> required f "id" reviewMovieId <*> required f "rating" (within 1 10)
      <*> required f "review" (textOfLength 1 10000)

def ReviewKey.read (v : Value) : Checked ReviewKey :=
  (requestFields v).andThen fun f => ReviewKey.mk <$> required f "id" reviewMovieId

end Cinema.Request
