import Countinghouse.Bank.Basic
import Countinghouse.Hash.Argon2
import Countinghouse.Password.Record

/-!
# Passwords kept as Argon2 hashes

`Argon2.scheme` is the bank's way to keep passwords: a new one is hashed with the hybrid
variant at a given cost, and a kept one is checked with whatever variant, version and cost
it was written with.
-/

namespace Countinghouse.Argon2

/-- The cost of a hash that names none, and of the bank's own. -/
def usualCost : Cost := ⟨19456, 2, 1⟩

/-- The variant with a name. -/
def Variant.ofName? (name : String) : Option Variant :=
  if name = "argon2d" then some .dependent
  else if name = "argon2i" then some .independent
  else if name = "argon2id" then some .hybrid
  else none

/-- The version with a number; a hash that names none is of the later one. -/
def Version.ofCode? : Option Nat → Option Version
  | none => some .mixing
  | some 16 => some .overwriting
  | some 19 => some .mixing
  | some _ => none

/-- The parameters of a hash. -/
structure Parameters where
  cost : Cost
  /-- Further data that the hash depends on. -/
  extra : List UInt8

namespace Parameters

/-- Takes one parameter as it is written. A later one takes the place of an earlier. -/
def take (parameters : Parameters) : String × String → Option Parameters
  | ("m", text) => do
    return { parameters with cost.memory := ← (PasswordRecord.readDecimal text).toOption }
  | ("t", text) => do
    return { parameters with cost.passes := ← (PasswordRecord.readDecimal text).toOption }
  | ("p", text) => do
    return { parameters with cost.lanes := ← (PasswordRecord.readDecimal text).toOption }
  | ("keyid", text) => do
    guard ((← Base64.decode? Base64.standard text.toList).length ≤ 8)
    return parameters
  | ("data", text) => do
    let extra ← Base64.decode? Base64.standard text.toList
    guard (extra.length ≤ 32)
    return { parameters with extra }
  | _ => none

/-- The parameters that are written, if a hash can have them. -/
def ofList? (params : List (String × String)) : Option Parameters := do
  let parameters ← params.foldlM take ⟨usualCost, []⟩
  guard (8 ≤ parameters.cost.memory ∧ 8 * parameters.cost.lanes ≤ parameters.cost.memory)
  guard (1 ≤ parameters.cost.passes ∧ 1 ≤ parameters.cost.lanes)
  guard (parameters.cost.lanes ≤ 16777215)
  return parameters

end Parameters

/-- The most bytes that a password may have. -/
def maxPassword : Nat := 4294967295

/-- What is wrong with a password that cannot be hashed. -/
def fault? (password : String) : Option PasswordFault :=
  if maxPassword < password.utf8ByteSize then some .badPassword else none

/-- The hash of a password by the salt, variant, version and cost of a written one, if
there can be such a hash. -/
def rehash? (password : String) (record : PasswordRecord) : Option (List UInt8) := do
  let salt ← Base64.decode? Base64.standard (← record.salt).toList
  let hash ← record.hash
  let parameters ← Parameters.ofList? record.params
  let variant ← Variant.ofName? record.algorithm
  let version ← Version.ofCode? record.version
  guard (8 ≤ salt.length ∧ fault? password = none)
  return Input.hash
    { variant, version, cost := parameters.cost, password := password.toUTF8.toList, salt,
      extra := parameters.extra, size := hash.length }

/-- Whether a password is the one that was hashed. -/
def check (password hashed : String) : Except BankError Bool :=
  match PasswordRecord.parse hashed with
  | .error fault => .error (.internal ("Invalid hash format: " ++ fault.message))
  | .ok record =>
    match record.hash, rehash? password record with
    | some expected, some found => .ok (found == expected)
    | _, _ => .ok false

/-- The written hash of a password. -/
def write (cost : Cost) (salt : List UInt8) (password : String) : String :=
  let hash := Input.hash
    { variant := .hybrid, version := .mixing, cost, password := password.toUTF8.toList, salt,
      extra := [], size := 32 }
  "$argon2id$v=19$m=" ++ toString cost.memory ++ ",t=" ++ toString cost.passes ++ ",p="
    ++ toString cost.lanes ++ "$" ++ String.ofList (Base64.encode Base64.standard salt) ++ "$"
    ++ String.ofList (Base64.encode Base64.standard hash)

/-- Passwords kept as Argon2 hashes of the given cost. -/
def scheme (cost : Cost) : PasswordScheme where
  fault? password := (fault? password).map PasswordFault.message
  hash := write cost
  check := check

end Countinghouse.Argon2
