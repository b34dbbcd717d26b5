import SuiteOutline.Text.Ranges
import SuiteOutline.Text.NameRanges

/-!
# Names of variables

A name is one character that may begin a name, followed by any number of characters that may
continue one. A line feed is in neither class, so a name never spans lines.
-/

namespace SuiteOutline.Text

/-- A letter of any script, a letter-like number, the low line or the dollar sign. -/
def isNameStart (character : Char) : Bool :=
  inRanges character.toNat nameStartRanges

/-- A character that may begin a name, a mark, a decimal digit or connecting punctuation. -/
def isNamePart (character : Char) : Bool :=
  isNameStart character || inRanges character.toNat namePartRanges

def isNameList : List Char → Bool
  | [] => false
  | first :: rest => isNameStart first && rest.all isNamePart

def isName (text : String) : Bool :=
  isNameList text.toList

end SuiteOutline.Text
