/-!
# Checked values and their issues

A request is checked field by field, and every field's issues are reported, not only the first.
`Checked α` is a value of `α` or a list of issues, and it combines as an applicative functor whose
sequencing joins the issues of both sides in order: a request reads as
`mk <$> first <*> second <*> …` and reports the issues of its fields in field order.

An issue has a location, the path of names from the request down to the offending value (a field,
a list index, a member of a choice of kinds), and a kind, whose text names the rule broken.
-/

namespace Cinema.Request

inductive IssueKind where
  | missing
  | modelType
  | intType
  | intParsing
  | intParsingSize
  | intFromFloat
  | finiteNumber
  | floatType
  | floatParsing
  | boolType
  | boolParsing
  | stringType
  | stringUnicode
  | stringTooShort
  | stringTooLong
  | greaterThan
  | greaterThanEqual
  | lessThanEqual
  | listType
  | datetimeType
  | datetimeParsing
  | datetimeFromDateParsing
  deriving DecidableEq, Repr

def IssueKind.text : IssueKind → String
  | .missing => "missing"
  | .modelType => "model_type"
  | .intType => "int_type"
  | .intParsing => "int_parsing"
  | .intParsingSize => "int_parsing_size"
  | .intFromFloat => "int_from_float"
  | .finiteNumber => "finite_number"
  | .floatType => "float_type"
  | .floatParsing => "float_parsing"
  | .boolType => "bool_type"
  | .boolParsing => "bool_parsing"
  | .stringType => "string_type"
  | .stringUnicode => "string_unicode"
  | .stringTooShort => "string_too_short"
  | .stringTooLong => "string_too_long"
  | .greaterThan => "greater_than"
  | .greaterThanEqual => "greater_than_equal"
  | .lessThanEqual => "less_than_equal"
  | .listType => "list_type"
  | .datetimeType => "datetime_type"
  | .datetimeParsing => "datetime_parsing"
  | .datetimeFromDateParsing => "datetime_from_date_parsing"

structure Issue where
  loc : List String
  kind : IssueKind
  deriving DecidableEq, Repr

/-- The text of an issue: its location joined by dots, and its kind. -/
def Issue.text (i : Issue) : String := ".".intercalate i.loc ++ ": " ++ i.kind.text

def issuesText (issues : List Issue) : String := "; ".intercalate (issues.map Issue.text)

/-- A checked value: the value, or the issues that kept it from being one. -/
inductive Checked (α : Type) where
  | ok (a : α)
  | bad (issues : List Issue)
  deriving Repr

namespace Checked

/-- An issue of one kind at the value itself. -/
def fail {α : Type} (kind : IssueKind) : Checked α := .bad [⟨[], kind⟩]

def under {α : Type} (part : String) : Checked α → Checked α
  | .ok a => .ok a
  | .bad issues => .bad (issues.map fun i => { i with loc := part :: i.loc })

def map {α β : Type} (f : α → β) : Checked α → Checked β
  | .ok a => .ok (f a)
  | .bad issues => .bad issues

/-- Applies a checked function to a checked value, joining the issues of both. -/
def seq {α β : Type} (cf : Checked (α → β)) (cx : Unit → Checked α) : Checked β :=
  match cf, cx () with
  | .ok f, .ok a => .ok (f a)
  | .ok _, .bad issues => .bad issues
  | .bad issues, .ok _ => .bad issues
  | .bad first, .bad second => .bad (first ++ second)

instance : Applicative Checked where
  pure := .ok
  map := map
  seq := seq

def andThen {α β : Type} (c : Checked α) (f : α → Checked β) : Checked β :=
  match c with
  | .ok a => f a
  | .bad issues => .bad issues

def toExcept {α : Type} : Checked α → Except (List Issue) α
  | .ok a => .ok a
  | .bad issues => .error issues

end Checked

end Cinema.Request
