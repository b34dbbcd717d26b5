/-!
# Places in a document

A mark counts the bytes before a place and tells its line and column, all from zero; a column is a
character wide, however many bytes the character takes. In words lines and columns count from one.
-/

namespace SuiteOutline.Document

def byteCount : List Char → Nat
  | [] => 0
  | character :: rest => character.utf8Size + byteCount rest

/-- A place between two characters. -/
structure Mark where
  /-- The number of bytes before the place. -/
  index : Nat
  line : Nat
  column : Nat
  deriving DecidableEq

namespace Mark

def start : Mark :=
  ⟨0, 0, 0⟩

def advance (mark : Mark) (passed : List Char) : Mark :=
  { mark with
    index := mark.index + byteCount passed
    column := mark.column + passed.length }

def nextLine (mark : Mark) (passed : List Char) : Mark :=
  ⟨mark.index + byteCount passed, mark.line + 1, 0⟩

def isOrigin (mark : Mark) : Bool :=
  mark.line == 0 && mark.column == 0

def samePlace (first second : Mark) : Bool :=
  first.line == second.line && first.column == second.column

def text (mark : Mark) : String :=
  "line " ++ toString (mark.line + 1) ++ " column " ++ toString (mark.column + 1)

/-- The place as an addition to a message; the origin adds nothing. -/
def suffix (mark : Mark) : String :=
  if mark.isOrigin then "" else " at " ++ mark.text

end Mark

end SuiteOutline.Document
