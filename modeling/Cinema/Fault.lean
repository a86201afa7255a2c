/-!
# Faults

What the service stops with when a value is not of the kind an operation needs, or is out of the
range a conversion can carry. A fault is not a domain outcome: the RPC layer answers every fault
as an internal error. Each fault has a fixed message.
-/

namespace Cinema

inductive Codec where
  | utf8
  | ascii
  deriving DecidableEq, Repr

def Codec.name : Codec → String
  | .utf8 => "utf-8"
  | .ascii => "ascii"

/-- Why a codec cannot write a code point: UTF-8 writes no lone surrogate half, ASCII nothing
past 127. -/
def Codec.reason : Codec → String
  | .utf8 => "surrogates not allowed"
  | .ascii => "ordinal not in range(128)"

/-- The hexadecimal digits of a number, in lowercase, padded with zeros to `width`. -/
def hexPadded (width n : Nat) : String :=
  let ds := Nat.toDigits 16 n
  String.ofList (List.replicate (width - ds.length) '0' ++ ds)

/-- A code point written as an escape: `\x` and two hexadecimal digits below 256, `\u` and four
below 65536, `\U` and eight above. -/
def codeEscape (n : Nat) : String :=
  if n < 0x100 then "\\x" ++ hexPadded 2 n
  else if n < 0x10000 then "\\u" ++ hexPadded 4 n
  else "\\U" ++ hexPadded 8 n

/-- A failure of an operation on a value of the wrong kind or range. -/
inductive Fault where
  | intTooLargeForDouble
  | quotientTooLargeForDouble
  /-- An instant moved outside the years 1 to 9999. -/
  | dateOutOfRange
  /-- A value of kind `kind` stood where a sequence was needed. -/
  | notIterable (kind : String)
  | notSubscriptable (kind : String)
  /-- A value of kind `kind` was asked for its member `name`. -/
  | noAttribute (kind name : String)
  | missingKey (key : String)
  /-- A row of `got` values was split into `expected` parts. -/
  | tooFewToUnpack (expected got : Nat)
  /-- A row of more than `expected` values was split into `expected` parts. -/
  | tooManyToUnpack (expected : Nat)
  /-- A value of kind `kind`, shown as `shown`, stood where a URL was needed. -/
  | notUrl (kind shown : String)
  | invalidUrl (reason : String)
  /-- An integer written with `count` digits, more than text conversion allows. -/
  | tooManyDigits (count : Nat)
  /-- A text, shown as `shown`, that names no RPC error code. -/
  | unknownCode (shown : String)
  /-- Code points that `codec` cannot write, at place `position` of a text: `run` holds all of
  them that stand in a row from there. -/
  | unencodable (codec : Codec) (run : List Nat) (position : Nat)
  /-- A value of kind `kind`, which is neither a number nor a text, made an integer. -/
  | notIntegerArgument (kind : String)
  | infiniteToInteger
  /-- A value of kind `kind`, which is no number, divided by an integer. -/
  | unsupportedDivision (kind : String)
  deriving DecidableEq, Repr

def Fault.message : Fault → String
  | .intTooLargeForDouble => "int too large to convert to float"
  | .quotientTooLargeForDouble => "integer division result too large for a float"
  | .dateOutOfRange => "date value out of range"
  | .notIterable kind => "'" ++ kind ++ "' object is not iterable"
  | .notSubscriptable kind => "'" ++ kind ++ "' object is not subscriptable"
  | .noAttribute kind name => "'" ++ kind ++ "' object has no attribute '" ++ name ++ "'"
  | .missingKey key => key
  | .tooFewToUnpack expected got =>
    "not enough values to unpack (expected " ++ toString expected ++ ", got " ++ toString got ++ ")"
  | .tooManyToUnpack expected => "too many values to unpack (expected " ++ toString expected ++ ")"
  | .notUrl kind shown =>
    "Invalid type for url.  Expected str or httpx.URL, got <class '" ++ kind ++ "'>: " ++ shown
  | .invalidUrl reason => reason
  | .tooManyDigits count =>
    "Exceeds the limit (4300 digits) for integer string conversion: value has " ++
      toString count ++ " digits; use sys.set_int_max_str_digits() to increase the limit"
  | .unknownCode shown => shown ++ " is not a valid ErrorCode"
  | .unencodable codec run position =>
    "'" ++ codec.name ++ "' codec can't encode " ++
      (match run with
        | [n] => "character '" ++ codeEscape n ++ "' in position " ++ toString position
        | _ => "characters in position " ++ toString position ++ "-" ++
          toString (position + run.length - 1)) ++
      ": " ++ codec.reason
  | .notIntegerArgument kind =>
    "int() argument must be a string, a bytes-like object or a real number, not '" ++ kind ++ "'"
  | .infiniteToInteger => "cannot convert float infinity to integer"
  | .unsupportedDivision kind => "unsupported operand type(s) for /: '" ++ kind ++ "' and 'int'"

end Cinema
