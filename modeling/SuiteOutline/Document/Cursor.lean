import SuiteOutline.Document.Fault

/-!
# Reading characters

A cursor is a place in a document with the characters after it. Lines end with a line feed, a
carriage return, both together, or one of the three line ends of Unicode; the first four are all
read as a line feed.

Not every character may stand in a document. A text is examined in blocks, each as soon as it is
entered, so the text ends for its reader before the first block with such a character.
-/

namespace SuiteOutline.Document

def isAllowed (character : Char) : Bool :=
  let code := character.toNat
  code == 0x09 || code == 0x0A || code == 0x0D || (0x20 ≤ code && code ≤ 0x7E) || code == 0x85
    || (0xA0 ≤ code && code ≤ 0xD7FF) || (0xE000 ≤ code && code ≤ 0xFFFD) || 0x10000 ≤ code

def forbiddenOffset? : Nat → List Char → Option Nat
  | _, [] => none
  | offset, character :: rest =>
      if isAllowed character then forbiddenOffset? (offset + character.utf8Size) rest
      else some offset

/-- How many bytes a block of a text takes at most. -/
def blockSize : Nat := 16384

/-- The characters before the first block with one that a document may not hold. Of the block at
hand some characters are known, latest first, and a number of bytes is free. -/
def examined : Nat → List Char → List Char → List Char
  | _, block, [] => block.reverse
  | room, block, character :: rest =>
      let fits := decide (character.utf8Size ≤ room)
      let before := if fits then [] else block.reverse
      if isAllowed character then
        before ++ examined ((if fits then room else blockSize) - character.utf8Size)
          (character :: if fits then block else []) rest
      else before

def isBlank (character : Char) : Bool :=
  character == ' ' || character == '\t'

def isBreak (character : Char) : Bool :=
  character == '\n' || character == '\r' || character == '\x85' || character == '\u2028'
    || character == '\u2029'

def isWordChar (character : Char) : Bool :=
  character.isAlphanum || character == '_' || character == '-'

def hexDigit? (character : Char) : Option Nat :=
  if character.isDigit then some (character.toNat - '0'.toNat)
  else if 'a' ≤ character && character ≤ 'f' then some (character.toNat - 'a'.toNat + 10)
  else if 'A' ≤ character && character ≤ 'F' then some (character.toNat - 'A'.toNat + 10)
  else none

/-- Where a text cannot be read on. -/
structure Barrier where
  /-- The number of bytes before the block that cannot be entered. -/
  index : Nat
  /-- The number of bytes before the character in it that no document may hold. -/
  offset : Nat

structure Cursor where
  /-- The characters up to the barrier, and without one up to the end of the text. -/
  rest : List Char
  mark : Mark
  barrier : Option Barrier
  /-- The length of the whole text, which bounds the steps of every loop over what is left. -/
  size : Nat
  rest_length_le : rest.length ≤ size

namespace Cursor

def ofText (text : String) : Cursor :=
  let readable := examined blockSize [] text.toList
  let barrier := (forbiddenOffset? 0 text.toList).map fun offset => ⟨byteCount readable, offset⟩
  ⟨readable, Mark.start, barrier, readable.length, Nat.le_refl _⟩

/-- The cursor at a mark further on, with fewer characters after it. -/
def moveTo (cursor : Cursor) (rest : List Char) (mark : Mark)
    (shorter : rest.length ≤ cursor.rest.length) : Cursor :=
  ⟨rest, mark, cursor.barrier, cursor.size, Nat.le_trans shorter cursor.rest_length_le⟩

def peek? (cursor : Cursor) : Option Char :=
  cursor.rest.head?

def peekAt? (cursor : Cursor) (distance : Nat) : Option Char :=
  cursor.rest[distance]?

def isAt (cursor : Cursor) (character : Char) : Bool :=
  cursor.peek? == some character

/-- Whether the next character has a property; the end of the text has none. -/
def isAtAny (cursor : Cursor) (property : Char → Bool) : Bool :=
  cursor.peek?.any property

/-- Whether a blank, a line end or the end of the text stands a number of places further on. -/
def isSpaceAt (cursor : Cursor) (distance : Nat) : Bool :=
  match cursor.peekAt? distance with
  | none => true
  | some character => isBlank character || isBreak character

def isAtLineEnd (cursor : Cursor) : Bool :=
  match cursor.peek? with
  | none => true
  | some character => isBreak character

def skip (cursor : Cursor) (count : Nat) : Cursor :=
  cursor.moveTo (cursor.rest.drop count) (cursor.mark.advance (cursor.rest.take count))
    (List.drop_sublist count cursor.rest).length_le

def run (cursor : Cursor) (property : Char → Bool) : List Char × Cursor :=
  let taken := cursor.rest.takeWhile property
  (taken, cursor.moveTo (cursor.rest.dropWhile property) (cursor.mark.advance taken)
    (List.dropWhile_sublist property).length_le)

def skipRun (cursor : Cursor) (property : Char → Bool) : Cursor :=
  (cursor.run property).2

/-- How many characters the line end at the front of a text takes, and the characters as which it
is read; nothing if there is none. -/
def lineEndOf : List Char → Nat × List Char
  | '\r' :: '\n' :: _ => (2, ['\n'])
  | '\u2028' :: _ => (1, ['\u2028'])
  | '\u2029' :: _ => (1, ['\u2029'])
  | character :: _ => if isBreak character then (1, ['\n']) else (0, [])
  | [] => (0, [])

def lineEnd (cursor : Cursor) : List Char × Cursor :=
  match lineEndOf cursor.rest with
  | (0, _) => ([], cursor)
  | (width + 1, read) =>
      (read, cursor.moveTo (cursor.rest.drop (width + 1))
        (cursor.mark.nextLine (cursor.rest.take (width + 1)))
        (List.drop_sublist (width + 1) cursor.rest).length_le)

def skipLineEnd (cursor : Cursor) : Cursor :=
  cursor.lineEnd.2

/-- The cursor after the rest of a line that holds nothing but blanks and a comment. -/
def skipComment (cursor : Cursor) : Cursor :=
  let cursor := cursor.skipRun isBlank
  if cursor.isAt '#' then cursor.skipRun fun character => !isBreak character else cursor

/-- Whether the cursor stands at the start of a line that begins a document, or ends one. -/
def isAtDocumentLine (cursor : Cursor) (sign : Char) : Bool :=
  cursor.mark.column == 0 && cursor.isAt sign && cursor.peekAt? 1 == some sign
    && cursor.peekAt? 2 == some sign && cursor.isSpaceAt 3

def isAtDocumentBoundary (cursor : Cursor) : Bool :=
  cursor.isAtDocumentLine '-' || cursor.isAtDocumentLine '.'

/-- The fault of reading on at a mark, if the barrier is there. -/
def barrierFault? (cursor : Cursor) (mark : Mark) : Option SyntaxFault :=
  match cursor.barrier with
  | none => none
  | some barrier =>
      if barrier.index ≤ mark.index then some (SyntaxFault.forbidden barrier.offset) else none

def fault (cursor : Cursor) (words : String) (since : Mark) (problem : String) : SyntaxFault :=
  ⟨problem, cursor.mark, some ⟨words, since⟩⟩

end Cursor

abbrev Scan := StateT Cursor (Except SyntaxFault)

namespace Scan

def fail {α : Type} (words : String) (since : Mark) (problem : String) : Scan α := do
  throw ((← get).fault words since problem)

def skip (count : Nat) : Scan Unit :=
  modify fun cursor => cursor.skip count

def takeRun (property : Char → Bool) : Scan (List Char) :=
  modifyGet fun cursor => cursor.run property

def takeLineEnd : Scan (List Char) :=
  modifyGet Cursor.lineEnd

end Scan

end SuiteOutline.Document
