import Cinema.Proofs.Text.IntegerForm
import Cinema.Gateway.Header

/-!
# User ids from the identity header

The gateway passes the caller's user id as a text header. No header means no identity. A text
header gives the id it writes when it is the text of an integer (`Text.IntegerForm`: white space,
one sign or none, decimal digits of any script with single underscores between them, at most
4300 digits, white space) whose value lies from 1 to `2 ^ 63 - 1`; every other text is refused
with status 422 and the message "Invalid X-User-Id", never failing in another way.

The main statement is `identity_header_reads_user_ids`.
-/

set_option autoImplicit false
set_option relaxedAutoImplicit false

namespace Cinema.Gateway

open Cinema.Json Cinema.Text

theorem identityOf_str_of_ok {s : String} {n : Int} (read : readInt s = .ok n) :
    identityOf (.str s) =
      if 0 < n ∧ n ≤ maxUserId then .ok (some n) else .error (.refused invalidUserId) := by
  simp only [identityOf, integerOf, read]
  rfl

theorem identityOf_str_of_error {s : String} {e : IntTextError} (read : readInt s = .error e) :
    identityOf (.str s) = .error (.refused invalidUserId) := by
  simp only [identityOf, integerOf, read]
  rfl

theorem identityOf_bounds {header : Value} {u : Int}
    (identified : identityOf header = .ok (some u)) :
    1 ≤ u ∧ u ≤ maxUserId := by
  unfold identityOf at identified
  split at identified
  · cases identified
  · -- a header that is made an integer gives it only within the bounds
    split at identified
    · cases identified
    · split at identified
      · cases identified
        omega
      · cases identified
    · cases identified

theorem identityOf_str_eq_ok_iff (s : String) (n : Int) :
    identityOf (.str s) = .ok (some n) ↔ readInt s = .ok n ∧ 1 ≤ n ∧ n ≤ maxUserId := by
  cases read : readInt s with
  | error e =>
    rw [identityOf_str_of_error read]
    constructor
    · intro refused
      cases refused
    · intro read
      cases read.1
  | ok m =>
    rw [identityOf_str_of_ok read]
    by_cases inRange : 0 < m ∧ m ≤ maxUserId
    · rw [if_pos inRange]
      constructor
      · intro same
        cases same
        exact ⟨rfl, by omega, inRange.2⟩
      · rintro ⟨same, -⟩
        cases same
        rfl
    · rw [if_neg inRange]
      constructor
      · intro refused
        cases refused
      · rintro ⟨same, low, high⟩
        cases same
        exact absurd ⟨by omega, high⟩ inRange

theorem identityOf_str_refused (s : String) :
    (∃ n, identityOf (.str s) = .ok (some n)) ∨
      identityOf (.str s) = .error (.refused invalidUserId) := by
  cases read : readInt s with
  | error e => exact .inr (identityOf_str_of_error read)
  | ok m =>
    rw [identityOf_str_of_ok read]
    by_cases inRange : 0 < m ∧ m ≤ maxUserId
    · exact .inl ⟨m, if_pos inRange⟩
    · exact .inr (if_neg inRange)

/-- No header gives no identity. A text header gives the user id `n` exactly when the text reads as
the integer `n` and `n` lies from 1 to `2 ^ 63 - 1`; and a text reads as `n` exactly when it is
the text of an integer with at most 4300 digits that writes `n`: white space, one sign or none,
decimal digits of any script with single underscores between them, white space. Every other text
is refused with status 422 and "Invalid X-User-Id". -/
theorem identity_header_reads_user_ids :
    identityOf .null = .ok none ∧
    ∀ s : String,
      (∀ n : Int, identityOf (.str s) = .ok (some n) ↔
        readInt s = .ok n ∧ 1 ≤ n ∧ n ≤ 9223372036854775807) ∧
      (∀ n : Int, readInt s = .ok n ↔
        ∃ f : IntegerForm, s.toList = f.chars ∧ f.digitCount ≤ 4300 ∧ f.value = n) ∧
      ((∃ n, identityOf (.str s) = .ok (some n)) ∨
        identityOf (.str s) = .error (.refused ⟨422, "Invalid X-User-Id"⟩)) :=
  ⟨rfl, fun s =>
    ⟨identityOf_str_eq_ok_iff s, readInt_eq_ok_iff s, identityOf_str_refused s⟩⟩

example : identityOf (.str " +0_042 ") = .ok (some 42) := by decide +kernel
example : identityOf (.str "٤٢") = .ok (some 42) := by decide +kernel
example : identityOf (.str "9223372036854775808") = .error (.refused invalidUserId) := by
  decide +kernel
example : identityOf (.str "4__2") = .error (.refused invalidUserId) := by decide +kernel

end Cinema.Gateway
