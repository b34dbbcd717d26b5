import SuiteOutline.Document.Cursor
import SuiteOutline.Document.Token

/-!
# Anchors, tags and directives

Readers for what stands before a value: names under which it can be used again, tags, and the
directives of a document.
-/

namespace SuiteOutline.Document

/-! ## Anchors and aliases -/

/-- The signs that may follow a name directly. -/
def isAfterName (character : Char) : Bool :=
  character == '?' || character == ':' || character == ',' || character == ']'
    || character == '\x7d' || character == '%' || character == '@' || character == '\x60'

def scanAnchorName (words : String) : Scan (String × Mark) := do
  let start := (← get).mark
  Scan.skip 1
  let name ← Scan.takeRun isWordChar
  let cursor ← get
  if name.isEmpty || !(cursor.isSpaceAt 0 || cursor.isAtAny isAfterName) then
    Scan.fail words start "did not find expected alphabetic or numeric character"
  pure (String.ofList name, start)

def scanAnchor : Scan Placed := do
  let (name, start) ← scanAnchorName "while scanning an anchor"
  pure ⟨.anchor name, start, (← get).mark⟩

def scanAlias : Scan Placed := do
  let (name, start) ← scanAnchorName "while scanning an alias"
  pure ⟨.alias name, start, (← get).mark⟩

/-! ## Tags -/

/-- The characters of tags, besides letters and digits. Inside angle brackets and in directives a
comma and square brackets are allowed too. -/
def isTagSign (wide : Bool) (character : Char) : Bool :=
  ";/?:@&=+$.%!~*'()".toList.contains character
    || (wide && (character == ',' || character == '[' || character == ']'))

def sequenceLength? (leading : Nat) : Option Nat :=
  if leading < 0x80 then some 1
  else if leading < 0xC0 then none
  else if leading < 0xE0 then some 2
  else if leading < 0xF0 then some 3
  else if leading < 0xF8 then some 4
  else none

def scanOctet (words : String) (since : Mark) : Scan Nat := do
  let cursor ← get
  match cursor.rest with
  | '%' :: high :: low :: _ =>
      match hexDigit? high, hexDigit? low with
      | some high, some low =>
          Scan.skip 3
          pure (16 * high + low)
      | _, _ => Scan.fail words since "did not find URI escaped octet"
  | _ => Scan.fail words since "did not find URI escaped octet"

def scanTrailingOctets (words : String) (since : Mark) : Nat → Scan Octets
  | 0 => pure []
  | count + 1 => do
      let before ← get
      let octet ← scanOctet words since
      if octet / 64 != 2 then
        set before
        Scan.fail words since "found an incorrect trailing UTF-8 octet"
      else
        let others ← scanTrailingOctets words since count
        pure (UInt8.ofNat octet :: others)

/-- Reads the percent escapes of one character. Only its length is checked. -/
def scanEscapedChar (words : String) (since : Mark) : Scan Octets := do
  let before ← get
  let leading ← scanOctet words since
  match sequenceLength? leading with
  | none =>
      set before
      Scan.fail words since "found an incorrect leading UTF-8 octet"
  | some length =>
      let others ← scanTrailingOctets words since (length - 1)
      pure (UInt8.ofNat leading :: others)

/-- Reads the characters of a tag; the octets are collected latest first. -/
def scanTagChars (wide : Bool) (words : String) (since : Mark) : Nat → Octets → Scan Octets
  | 0, taken => pure taken
  | fuel + 1, taken => do
      let cursor ← get
      match cursor.peek? with
      | none => pure taken
      | some character =>
          if character == '%' then
            let escaped ← scanEscapedChar words since
            scanTagChars wide words since fuel (escaped.reverse ++ taken)
          else if isWordChar character || isTagSign wide character then
            Scan.skip 1
            scanTagChars wide words since fuel
              ((octets character.toString).reverse ++ taken)
          else pure taken

/-- Reads the characters of a tag after those of a handle that turned out to begin it, which count
as a part of it. A tag ends before an escaped NUL. -/
def scanTagText (wide directive : Bool) (head : String) (since : Mark) : Scan Octets := do
  let words := if directive then "while parsing a %TAG directive" else "while parsing a tag"
  let cursor ← get
  let taken ← scanTagChars wide words since cursor.size []
  if head.isEmpty && taken.isEmpty then
    Scan.fail words since "did not find expected tag URI"
  pure ((octets head).drop 1 ++ taken.reverse |>.takeWhile (· != 0))

/-- Reads a handle: a word between exclamation marks, or what may still become a tag. -/
def scanHandle (directive : Bool) (since : Mark) : Scan String := do
  let cursor ← get
  if !cursor.isAt '!' then
    Scan.fail (if directive then "while scanning a tag directive" else "while scanning a tag") since
      "did not find expected '!'"
  Scan.skip 1
  let word ← Scan.takeRun isWordChar
  if (← get).isAt '!' then
    Scan.skip 1
    pure ("!" ++ String.ofList word ++ "!")
  else if directive && !word.isEmpty then
    Scan.fail "while parsing a tag directive" since "did not find expected '!'"
  else pure ("!" ++ String.ofList word)

def scanVerbatimTag (since : Mark) : Scan Token := do
  Scan.skip 2
  let text ← scanTagText true false "" since
  if !(← get).isAt '>' then
    Scan.fail "while scanning a tag" since "did not find the expected '>'"
  Scan.skip 1
  pure (.tag "" text)

/-- Reads a tag with a handle; an exclamation mark alone is a tag by itself. -/
def scanShortTag (since : Mark) : Scan Token := do
  let handle ← scanHandle false since
  if handle.length > 1 && handle.endsWith "!" then
    pure (.tag handle (← scanTagText false false "" since))
  else
    let text ← scanTagText false false handle since
    pure (if text.isEmpty then .tag "" (octets "!") else .tag "!" text)

def scanTag (inFlow : Bool) : Scan Placed := do
  let cursor ← get
  let token ←
    if cursor.peekAt? 1 == some '<' then scanVerbatimTag cursor.mark else scanShortTag cursor.mark
  let after ← get
  if !after.isSpaceAt 0 && !(inFlow && after.isAt ',') then
    Scan.fail "while scanning a tag" cursor.mark "did not find expected whitespace or line break"
  pure ⟨token, cursor.mark, after.mark⟩

/-! ## Directives -/

def scanVersionNumber (since : Mark) : Scan Nat := do
  let words := "while scanning a %YAML directive"
  let before ← get
  let digits ← Scan.takeRun Char.isDigit
  if digits.isEmpty then Scan.fail words since "did not find expected version number"
  if digits.length > 9 then
    set (before.skip 9)
    Scan.fail words since "found extremely long version number"
  pure (digits.foldl (fun number digit => 10 * number + (digit.toNat - '0'.toNat)) 0)

def scanVersion (since : Mark) : Scan Token := do
  modify (·.skipRun isBlank)
  let major ← scanVersionNumber since
  if !(← get).isAt '.' then
    Scan.fail "while scanning a %YAML directive" since
      "did not find expected digit or '.' character"
  Scan.skip 1
  let minor ← scanVersionNumber since
  pure (.versionDirective major minor)

def scanTagDirective (since : Mark) : Scan Token := do
  let words := "while scanning a %TAG directive"
  modify (·.skipRun isBlank)
  let handle ← scanHandle true since
  if !(← get).isAtAny isBlank then Scan.fail words since "did not find expected whitespace"
  modify (·.skipRun isBlank)
  let opening ← scanTagText true true "" since
  if !(← get).isSpaceAt 0 then
    Scan.fail words since "did not find expected whitespace or line break"
  pure (.tagDirective handle opening)

def scanDirective : Scan Placed := do
  let words := "while scanning a directive"
  let start := (← get).mark
  Scan.skip 1
  let name ← Scan.takeRun isWordChar
  if name.isEmpty then Scan.fail words start "could not find expected directive name"
  if !(← get).isSpaceAt 0 then
    Scan.fail words start "found unexpected non-alphabetical character"
  let token ←
    match String.ofList name with
    | "YAML" => scanVersion start
    | "TAG" => scanTagDirective start
    | _ => Scan.fail words start "found unknown directive name"
  let stop := (← get).mark
  modify Cursor.skipComment
  if !(← get).isAtLineEnd then
    Scan.fail words start "did not find expected comment or line break"
  modify Cursor.skipLineEnd
  pure ⟨token, start, stop⟩

end SuiteOutline.Document
