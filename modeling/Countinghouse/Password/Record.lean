import Countinghouse.Token.Base64

/-!
# Written password hashes

A password hash is written as fields with a `$` before each: the algorithm, the version,
parameters, the salt and the hash. All but the algorithm may be left out from the end on,
and version and parameters also in between. `PasswordRecord.parse` reads such a text.
-/

namespace Countinghouse

/-- What can be wrong with a value in a written hash. -/
inductive PasswordFault.Value where
  | badCharacter (character : Char)
  | badFormat
  | malformed
  | tooLong
  | tooShort
  deriving DecidableEq, Repr

/-- What can be wrong with a written hash, or with a password that is to be hashed. -/
inductive PasswordFault where
  | missingField
  | trailingField
  | badName
  | badValue (fault : PasswordFault.Value)
  | tooManyParameters
  | badSalt (fault : PasswordFault.Value)
  | badEncoding
  | badLength
  | shortHash
  | badPassword
  deriving DecidableEq, Repr

namespace PasswordFault

/-- The text of a fault of a value. -/
def Value.message : Value → String
  | .badCharacter character => "contains invalid character: '" ++ String.singleton character ++ "'"
  | .badFormat => "value format is invalid"
  | .malformed => "value malformed"
  | .tooLong => "value to long"
  | .tooShort => "value to short"

/-- The text of a fault. -/
def message : PasswordFault → String
  | .missingField => "password hash string missing field"
  | .trailingField => "password hash string contains trailing characters"
  | .badName => "invalid parameter name"
  | .badValue fault => "invalid parameter value: " ++ fault.message
  | .tooManyParameters => "maximum number of parameters reached"
  | .badSalt fault => "salt invalid: " ++ fault.message
  | .badEncoding => "invalid Base64 encoding"
  | .badLength => "invalid Base64 length"
  | .shortHash => "output size too short, expected at least 10 bytes"
  | .badPassword => "invalid password"

end PasswordFault

/-- A written password hash in its fields. -/
structure PasswordRecord where
  algorithm : String
  version : Option Nat
  params : List (String × String)
  salt : Option String
  hash : Option (List UInt8)
  deriving DecidableEq, Repr

namespace PasswordRecord

/-- The name of an algorithm or a parameter: up to 32 lower-case letters, digits and
hyphens. -/
def readName (text : List Char) : Except PasswordFault String :=
  if 1 ≤ text.length ∧ text.length ≤ 32
      ∧ text.all (fun character => character.isLower || character.isDigit || character == '-') then
    .ok (String.ofList text)
  else .error .badName

/-- A character that a value may hold. -/
def isValueCharacter (character : Char) : Bool :=
  character.isAlphanum || ['/', '+', '.', '-'].contains character

/-- The number of bytes of a text. -/
def byteCount (text : List Char) : Nat := (String.ofList text).utf8ByteSize

/-- A value: up to 64 characters. -/
def readValue (text : List Char) : Except PasswordFault.Value String :=
  if 64 < byteCount text then .error .tooLong
  else
    match text.find? (fun character => !isValueCharacter character) with
    | some character => .error (.badCharacter character)
    | none => .ok (String.ofList text)

/-- The number that a value writes: decimal, without zeros in front, below 2^32. -/
def readDecimal (text : String) : Except PasswordFault.Value Nat :=
  let digits := text.toList
  if digits.isEmpty then .error .malformed
  else
    match digits.find? (fun character => !character.isDigit) with
    | some character => .error (.badCharacter character)
    | none =>
      let number := digits.foldl (fun number digit => number * 10 + (digit.toNat - 48)) 0
      if digits.head? = some '0' ∧ digits.length ≠ 1 then .error .badFormat
      else if Nat.pow 2 32 ≤ number then .error .badFormat
      else .ok number

/-- One parameter. -/
def readParam (text : List Char) : Except PasswordFault (String × String) := do
  match text.splitOn '=' with
  | [key] =>
    let _ ← readName key
    throw (.badValue .malformed)
  | [key, text] => return (← readName key, ← (readValue text).mapError .badValue)
  | key :: text :: _ =>
    let _ ← readName key
    let _ ← (readValue text).mapError .badValue
    throw (.badValue .malformed)
  | [] => throw .badName

/-- The parameters, joined by commas. -/
def readParams (text : List Char) : Except PasswordFault (List (String × String)) :=
  if 127 < byteCount text then .error .tooManyParameters
  else (text.splitOn ',').mapM readParam

/-- The salt as it is written: 4 to 64 characters. -/
def readSalt (text : List Char) : Except PasswordFault String :=
  if byteCount text < 4 then .error (.badSalt .tooShort)
  else (readValue text).mapError .badSalt

/-- The bytes of the hash: 10 to 64. -/
def readHash (text : List Char) : Except PasswordFault (List UInt8) :=
  if 64 < byteCount text * 3 / 4 then .error .badLength
  else
    match Base64.decode? Base64.standard text with
    | none => .error .badEncoding
    | some bytes => if bytes.length < 10 then .error .shortHash else .ok bytes

/-- The version, if the next field is one. -/
def readVersion : List (List Char) → Except PasswordFault (Option Nat × List (List Char))
  | ('v' :: '=' :: text) :: rest => do
    if text.contains ',' then return (none, ('v' :: '=' :: text) :: rest)
    let number ← (readValue text >>= readDecimal).mapError .badValue
    return (some number, rest)
  | fields => .ok (none, fields)

/-- Reads a written hash. -/
def parse (text : String) : Except PasswordFault PasswordRecord := do
  match text.toList.splitOn '$' with
  | [] :: algorithm :: fields =>
    let algorithm ← readName algorithm
    let (version, fields) ← readVersion fields
    let (params, fields) ← match fields with
      | field :: rest =>
        if field.contains '=' then pure (← readParams field, rest) else pure ([], fields)
      | [] => pure ([], [])
    match fields with
    | [] => return ⟨algorithm, version, params, none, none⟩
    | [saltText] => return ⟨algorithm, version, params, some (← readSalt saltText), none⟩
    | saltText :: hashText :: rest =>
      let salt ← readSalt saltText
      let hash ← readHash hashText
      if !rest.isEmpty then throw .trailingField
      return ⟨algorithm, version, params, some salt, some hash⟩
  | _ => throw .missingField

end PasswordRecord

end Countinghouse
