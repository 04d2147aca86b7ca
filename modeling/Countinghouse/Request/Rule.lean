import Countinghouse.Currency
import Countinghouse.Json.Value
import Countinghouse.Request.Email

/-!
# Rules for the fields of requests

A `Rule` constrains one field. `Violation` records that a field breaks a rule, under the
code of the rule, with the value that breaks it and the bounds of the rule.
-/

namespace Countinghouse

/-- A rule that the text of a field has to keep. -/
inductive TextRule where
  /-- The number of characters is in bounds. -/
  | length (least : Nat) (most : Option Nat)
  /-- All characters are letters or digits of ASCII. -/
  | alphanumeric
  | email
  /-- The code of a currency. -/
  | currency
  /-- The same text as another field. -/
  | matching (other : String)
  deriving DecidableEq, Repr

/-- A rule that the integer of a field has to keep. -/
structure IntegerRule where
  least : Int
  most : Option Int
  deriving DecidableEq, Repr

/-- A field that breaks a rule. -/
structure Violation where
  field : String
  code : String
  params : List (String × Json)

namespace TextRule

/-- Whether a text keeps a rule. -/
def holds (text : String) : TextRule → Bool
  | .length least most => least ≤ text.length && most.all (text.length ≤ ·)
  | .alphanumeric => text.toList.all Char.isAlphanum
  | .email => Email.isValid text
  | .currency => (Currency.ofCode? text).isSome
  | .matching other => text == other

/-- The code that a broken rule is reported under. -/
def code : TextRule → String
  | .length .. => "length"
  | .alphanumeric => "alphanumeric"
  | .email => "email"
  | .currency => "currency"
  | .matching _ => "must_match"

/-- What a rule compares with. -/
def params : TextRule → List (String × Json)
  | .length least most =>
    ("min", .int least) :: (most.map fun most => ("max", Json.int most)).toList
  | .matching other => [("other", .text other)]
  | .alphanumeric | .email | .currency => []

/-- The rules that a field breaks, in the order of the rules. -/
def violations (field text : String) (rules : List TextRule) : List Violation :=
  (rules.filter fun rule => !rule.holds text).map fun rule =>
    ⟨field, rule.code, rule.params ++ [("value", .text text)]⟩

/-- The rules that an optional field breaks; an absent one breaks none. -/
def optionalViolations (field : String) (text : Option String) (rules : List TextRule) :
    List Violation :=
  match text with
  | some text => violations field text rules
  | none => []

end TextRule

namespace IntegerRule

/-- Whether an integer keeps a rule. -/
def holds (value : Int) (rule : IntegerRule) : Bool :=
  rule.least ≤ value && rule.most.all (value ≤ ·)

/-- The rule, if a field breaks it. -/
def violations (field : String) (value : Int) (rule : IntegerRule) : List Violation :=
  if rule.holds value then []
  else
    [⟨field, "range",
      ("min", .int rule.least) :: (rule.most.map fun most => ("max", Json.int most)).toList
        ++ [("value", .int value)]⟩]

end IntegerRule

namespace Violation

/-- How a parameter is shown in a notice. -/
def describeParam : String × Json → String
  | (name, .int value) => Json.quote name ++ ": Number(" ++ toString value ++ ")"
  | (name, value) => Json.quote name ++ ": String(" ++ value.render ++ ")"

/-- How a violation is shown in a notice. -/
def describe (violation : Violation) : String :=
  "Validation error: " ++ violation.code ++ " [\x7b"
    ++ String.intercalate ", " (violation.params.map describeParam) ++ "\x7d]"

/-- The violations of each field together, fields in the order they first appear. -/
def byField : List Violation → List (String × List Violation)
  | [] => []
  | violation :: rest =>
    let others := byField rest
    match others.find? (·.1 == violation.field) with
    | some (field, violations) =>
      (field, violation :: violations) :: others.filter (·.1 != violation.field)
    | none => (violation.field, [violation]) :: others

/-- The notice for a list of violations: one line for each field. -/
def notice (violations : List Violation) : String :=
  String.intercalate "\n" ((byField violations).map fun (field, violations) =>
    field ++ ": " ++ String.intercalate ", " (violations.map describe))

end Violation

end Countinghouse
