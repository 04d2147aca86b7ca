import Countinghouse.Request.Form
import Countinghouse.Text.Integer
import Countinghouse.Text.Percent
import Countinghouse.Text.Utf8

/-!
# Forms in the query of a URL

A query is a list of names and values joined by `&` and `=`, percent encoded, with `+` for
blanks. `Form.ofQuery` reads a form from it.
-/

namespace Countinghouse

/-- Why a query is not the form that was expected. -/
inductive QueryFault where
  | badInteger (field : String) (fault : IntegerFault)
  | missingField (name : String)
  | duplicateField (name : String)
  deriving DecidableEq, Repr

namespace QueryFault

/-- The text of a fault. -/
def message : QueryFault → String
  | .badInteger field fault => field ++ ": " ++ fault.message
  | .missingField name => "missing field `" ++ name ++ "`"
  | .duplicateField name => "duplicate field `" ++ name ++ "`"

end QueryFault

namespace Query

/-- The text that a part of a query stands for. -/
def decodePart (part : List UInt8) : String :=
  String.ofList (Utf8.decodeLossy
    (Percent.decode (part.map fun byte => if byte = 43 then 32 else byte)))

/-- The names and values of a query. Empty parts count for nothing, and a part without `=`
has an empty value. -/
def pairs (query : List UInt8) : List (String × String) :=
  ((query.splitOn 38).filter (!·.isEmpty)).map fun part =>
    let name := part.takeWhile (· != 61)
    (decodePart name, decodePart (part.drop (name.length + 1)))

/-- The value of a field as it is written in a query. -/
def fieldValue (name text : String) : (type : FieldType) → Except QueryFault type.Value
  | .text => .ok text
  | .optionalText => .ok (some text)
  | .integer =>
    match IntegerBounds.signed64.parse text.toList with
    | .ok value => .ok value
    | .error fault => .error (.badInteger name fault)

end Query

namespace Form

/-- Reads the content of a request from a query. -/
def ofQuery {α : Type} (form : Form α) (query : List UInt8) : Except QueryFault α := do
  let fields := form.shape.fields
  let draft ← (Query.pairs query).foldlM
    (fun draft (name, value) =>
      Draft.gather (Query.fieldValue name value) (.ok ()) (.error (.duplicateField name)) name
        fields draft)
    (Draft.empty fields)
  match Draft.complete fields draft with
  | .ok record => return form.build record
  | .error name => throw (.missingField name)

end Form

end Countinghouse
