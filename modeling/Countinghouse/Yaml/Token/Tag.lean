import Countinghouse.Text.Utf8
import Countinghouse.Yaml.Token.Basic

/-!
# Tags, anchors and directives

What stands before a node or a document and says something about it.
-/

namespace Countinghouse.Scan

/-- Reads the name of an anchor, or of an alias for one. -/
def anchorName (isAlias : Bool) : Scan (Placed YamlToken) := do
  let start ← mark
  skip 1
  let name ← takeWhile isInName
  let ahead ← rest
  let isEnded := separates ahead || ahead.head?.any ("?:,]\x7d%@`".toList.contains ·)
  if name.isEmpty || !isEnded then
    failIn (if isAlias then "while scanning an alias" else "while scanning an anchor") start
      "did not find expected alphabetic or numeric character"
  let text := String.ofList name
  return ⟨if isAlias then .alias text else .anchor text, start, ← mark⟩

/-! ## Tags -/

/-- A character of a tag. A tag between angle brackets may hold some more. -/
def isInTag (isVerbatim : Bool) (character : Char) : Bool :=
  isInName character || ";/?:@&=+$.%!~*'()".toList.contains character
    || (isVerbatim && ",[]".toList.contains character)

/-- Reads one byte of a tag that is written as two digits after a percent sign. -/
def tagByte (activity : String) (start : Mark) : Scan UInt8 := do
  match ← rest with
  | '%' :: high :: low :: _ =>
    match Hex.read? [high, low] with
    | some value =>
      skip 3
      return UInt8.ofNat value
    | none => failIn activity start "did not find URI escaped octet"
  | _ => failIn activity start "did not find URI escaped octet"

/-- The number of bytes of a character, by its first byte. -/
def byteWidth (first : UInt8) : Nat :=
  if first < 0x80 then 1
  else if 0xc0 ≤ first && first < 0xe0 then 2
  else if 0xe0 ≤ first && first < 0xf0 then 3
  else if 0xf0 ≤ first && first < 0xf8 then 4
  else 0

/-- Reads the bytes of a character after its first byte. -/
def tagBytes (activity : String) (start : Mark) : Nat → Scan (List UInt8)
  | 0 => return []
  | count + 1 => do
    let byte ← tagByte activity start
    if byte &&& 0xc0 != 0x80 then failIn activity start "found an incorrect trailing UTF-8 octet"
    return byte :: (← tagBytes activity start count)

/-- Reads a character of a tag that is written as bytes. -/
def tagEscape (activity : String) (start : Mark) : Scan (List Char) := do
  let first ← tagByte activity start
  let width := byteWidth first
  if width = 0 then failIn activity start "found an incorrect leading UTF-8 octet"
  return Utf8.decodeLossy (first :: (← tagBytes activity start (width - 1)))

/-- Reads the characters of a tag. -/
def tagCharacters (activity : String) (start : Mark) (isVerbatim : Bool) :
    Nat → List Char → Scan (List Char)
  | 0, text => return text
  | rounds + 1, text => do
    match (← rest).head? with
    | some '%' =>
      let meaning ← tagEscape activity start
      tagCharacters activity start isVerbatim rounds (text ++ meaning)
    | some character =>
      if isInTag isVerbatim character then
        skip 1
        tagCharacters activity start isVerbatim rounds (text ++ [character])
      else return text
    | none => return text

/-- Reads the rest of a tag after its head; the leading mark of the head is no part of
it. -/
def tagRest (activity : String) (start : Mark) (isVerbatim : Bool) (head : List Char) :
    Scan String := do
  let text ← tagCharacters activity start isVerbatim ((← rest).length + 1) []
  if head.isEmpty && text.isEmpty then failIn activity start "did not find expected tag URI"
  return String.ofList (head.drop 1 ++ text)

/-- Reads the handle at the start of a tag. -/
def tagHandle : Scan (List Char) := do
  skip 1
  let name ← takeWhile isInName
  if (← rest).head? = some '!' then
    skip 1
    return '!' :: name ++ ['!']
  return '!' :: name

/-- Reads a tag. -/
def tag : Scan (Placed YamlToken) := do
  let start ← mark
  let (handle, text) ←
    if (← rest)[1]? = some '<' then
      skip 2
      let text ← tagRest "while parsing a tag" start true []
      if (← rest).head? ≠ some '>' then
        failIn "while scanning a tag" start "did not find the expected '>'"
      skip 1
      pure ("", text)
    else
      let handle ← tagHandle
      if 2 ≤ handle.length && handle.getLast? == some '!' then
        pure (String.ofList handle, ← tagRest "while parsing a tag" start false [])
      else
        let text ← tagRest "while parsing a tag" start false handle
        pure (if text.isEmpty then ("", "!") else ("!", text))
  let ahead ← rest
  if !separates ahead && !((← get).isInFlow && ahead.head? == some ',') then
    failIn "while scanning a tag" start "did not find expected whitespace or line break"
  return ⟨.tag handle text, start, ← mark⟩

/-! ## Directives -/

/-- Reads a part of the number of a version. -/
def versionNumber (start : Mark) : Scan Nat := do
  let digits := (← rest).takeWhile Char.isDigit
  if 9 < digits.length then
    skip 9
    failIn "while scanning a %YAML directive" start "found extremely long version number"
  skip digits.length
  if digits.isEmpty then
    failIn "while scanning a %YAML directive" start "did not find expected version number"
  return digits.foldl (fun value digit => value * 10 + (digit.toNat - 48)) 0

/-- Reads the value of a version directive. -/
def versionDirective (start : Mark) : Scan YamlToken := do
  let _ ← takeWhile isBlank
  let major ← versionNumber start
  if (← rest).head? ≠ some '.' then
    failIn "while scanning a %YAML directive" start "did not find expected digit or '.' character"
  skip 1
  return .versionDirective major (← versionNumber start)

/-- Reads the value of a tag directive. -/
def tagDirective (start : Mark) : Scan YamlToken := do
  let _ ← takeWhile isBlank
  if (← rest).head? ≠ some '!' then
    failIn "while scanning a tag directive" start "did not find expected '!'"
  let handle ← tagHandle
  if 2 ≤ handle.length && handle.getLast? != some '!' then
    failIn "while parsing a tag directive" start "did not find expected '!'"
  if !(← rest).head?.any isBlank then
    failIn "while scanning a %TAG directive" start "did not find expected whitespace"
  let _ ← takeWhile isBlank
  let lead ← tagRest "while parsing a %TAG directive" start true []
  if !separates (← rest) then
    failIn "while scanning a %TAG directive" start "did not find expected whitespace or line break"
  return .tagDirective (String.ofList handle) lead

/-- Reads a directive to the end of its line. -/
def directive : Scan (Placed YamlToken) := do
  let start ← mark
  let failHere {α : Type} (problem : String) : Scan α :=
    failIn "while scanning a directive" start problem
  skip 1
  let name ← takeWhile isInName
  if name.isEmpty then failHere "could not find expected directive name"
  if !separates (← rest) then failHere "found unexpected non-alphabetical character"
  let token ←
    if name = "YAML".toList then versionDirective start
    else if name = "TAG".toList then tagDirective start
    else failHere "found unknown directive name"
  let stop ← mark
  skipComment
  let ahead ← rest
  if !ahead.isEmpty && !ahead.head?.any isBreak then
    failHere "did not find expected comment or line break"
  let _ ← takeBreak
  return ⟨token, start, stop⟩

end Countinghouse.Scan
