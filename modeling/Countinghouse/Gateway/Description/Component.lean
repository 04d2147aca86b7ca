import Countinghouse.Request.Form

/-!
# Components of the interface description

A `Component` describes one kind of JSON value by name, so that others can refer to it. The
components of requests are made from their forms, the others are listed here property by
property.
-/

namespace Countinghouse.Description

/-- A kind of JSON value. -/
inductive Kind where
  | integer
  | text
  | optionalText
  | truth
  | time
  | identifier
  /-- What a component describes. -/
  | component (name : String)
  /-- A list of what a component describes. -/
  | list (name : String)
  deriving DecidableEq, Repr

/-- A reference to a component. -/
def reference (name : String) : Json :=
  .object [("$ref", .text ("#/components/schemas/" ++ name))]

/-- Fields that are there only when they have a value. -/
def optional (name : String) (value : Option Json) : List (String × Json) :=
  (value.map fun value => (name, value)).toList

/-- A type with the format of its values. -/
def formatted (type format : String) : Json :=
  .object [("type", .text type), ("format", .text format)]

/-- The description of a kind of value. -/
def Kind.toJson : Kind → Json
  | .integer => formatted "integer" "int64"
  | .text => .object [("type", .text "string")]
  | .optionalText => .object [("type", .list [.text "string", .text "null"])]
  | .truth => .object [("type", .text "boolean")]
  | .time => formatted "string" "date-time"
  | .identifier => formatted "string" "uuid"
  | .component name => reference name
  | .list name => .object [("type", .text "array"), ("items", reference name)]

/-- One property of an object. -/
structure Property where
  name : String
  kind : Kind
  description : Option String := none
  sample : Option Json := none

namespace Property

/-- A property that may be left out. -/
def isOptional (property : Property) : Bool := property.kind == .optionalText

/-- The description of a property. -/
def toJson (property : Property) : Json :=
  match property.kind.toJson with
  | .object fields =>
    .object (fields ++ optional "description" (property.description.map Json.text)
      ++ optional "example" property.sample)
  | other => other

end Property

/-- A description that others can refer to. -/
inductive Component where
  | choice (name description : String) (names : List String)
  | object (name : String) (description : Option String) (properties : List Property)

namespace Component

/-- The name that others refer to. -/
def name : Component → String
  | .choice name _ _ | .object name _ _ => name

/-- The description itself. -/
def toJson : Component → Json
  | .choice _ description names =>
    .object [("type", .text "string"), ("description", .text description),
      ("enum", .list (names.map Json.text))]
  | .object _ description properties =>
    let needed := properties.filter (!·.isOptional)
    .object (("type", .text "object") :: optional "description" (description.map Json.text)
      ++ (if needed.isEmpty then [] else
        [("required", .list (needed.map fun property => .text property.name))])
      ++ [("properties",
        .object (properties.map fun property => (property.name, property.toJson)))])

/-- The property that a field of a form is. -/
def propertyOf (samples notes : List (String × String)) : String × FieldType → Property
  | (name, type) =>
    { name
      kind := match type with
        | .text => .text
        | .optionalText => .optionalText
        | .integer => .integer
      description := notes.lookup name
      sample := (samples.lookup name).map Json.text }

/-- The component that describes a form. -/
def ofShape (shape : Shape) (description : Option String) (samples notes : List (String × String)) :
    Component :=
  .object shape.name description (shape.fields.map (propertyOf samples notes))

/-- Every component, by name. -/
def all : List Component := [
  .object "Account"
    (some ("Bank account\n\n`balance` is in minor currency units and only changes through the\n"
      ++ "atomic transfer primitive of the storage layer."))
    [⟨"id", .integer, none, none⟩, ⟨"owner", .text, none, none⟩,
      ⟨"balance", .integer, none, none⟩, ⟨"currency", .component "Currency", none, none⟩,
      ⟨"is_deleted", .truth, none, none⟩, ⟨"created_at", .time, none, none⟩],
  ofShape AccountRequest.form.shape none [("currency", "USD")] [],
  ofShape TransferRequest.form.shape none [] [("amount", "Minor units")],
  ofShape Registration.form.shape none
    [("username", "alice01"), ("full_name", "Alice Liddell"), ("email", "alice@example.com")] [],
  .choice "Currency" "ISO 4217 code of a supported currency" (Currency.all.map Currency.code),
  .object "Entry" (some "One signed leg of a transfer; the two legs of a transfer sum to zero")
    [⟨"id", .integer, none, none⟩, ⟨"account_id", .integer, none, none⟩,
      ⟨"amount", .integer, none, none⟩, ⟨"created_at", .time, none, none⟩],
  .object "HealthResponse" (some "Health check response data")
    [⟨"timestamp_ms", .integer, some "Server timestamp in milliseconds",
        some (.int 1703494800000)⟩,
      ⟨"version", .text, some "Git commit the binary was built from", some (.text "a1b2c3d")⟩],
  .object "LoginResponse" none
    [⟨"session_id", .identifier, none, none⟩, ⟨"access_token", .text, none, none⟩,
      ⟨"access_token_expires_at", .time, none, none⟩, ⟨"refresh_token", .text, none, none⟩,
      ⟨"refresh_token_expires_at", .time, none, none⟩,
      ⟨"user", .component "UserResponse", none, none⟩],
  ofShape Credentials.form.shape none [("username", "alice01")] [],
  ofShape RenewalRequest.form.shape none [] [],
  .object "RenewAccessTokenResponse" none
    [⟨"access_token", .text, none, none⟩, ⟨"access_token_expires_at", .time, none, none⟩],
  .object "Transfer" (some "A completed movement of funds between two accounts")
    [⟨"id", .integer, none, none⟩, ⟨"from_account_id", .integer, none, none⟩,
      ⟨"to_account_id", .integer, none, none⟩,
      ⟨"amount", .integer, some "Always positive, in minor units", none⟩,
      ⟨"created_at", .time, none, none⟩],
  .object "TransferTxResult" (some "Everything the atomic transfer primitive wrote, as committed")
    [⟨"transfer", .component "Transfer", none, none⟩,
      ⟨"from_account", .component "Account", none, none⟩,
      ⟨"to_account", .component "Account", none, none⟩,
      ⟨"from_entry", .component "Entry", none, none⟩,
      ⟨"to_entry", .component "Entry", none, none⟩],
  ofShape ProfileUpdate.form.shape
    (some "Omitted fields stay unchanged; `new_password` needs `old_password`") [] [],
  .object "UserResponse" (some "Public view of a user (no password hash)")
    [⟨"username", .text, none, none⟩, ⟨"full_name", .text, none, none⟩,
      ⟨"email", .text, none, none⟩, ⟨"created_at", .time, none, none⟩,
      ⟨"password_changed_at", .time, none, none⟩]]

end Component

end Countinghouse.Description
