import SuiteOutline.Text.Ranges
import SuiteOutline.Text.UnseenRanges

/-!
# Texts as they are displayed in logs

A displayed text stands between double quotes on one line. Quotes, backslashes and the common
controls have short escapes; a character without a shape of its own is spelled by its code point.
-/

namespace SuiteOutline.Text

/-- Whether a character is drawn as itself in a displayed text. -/
def isSeen (character : Char) : Bool :=
  !inRanges character.toNat unseenRanges

def codePointEscape (character : Char) : List Char :=
  ['\\', 'u', '\x7b'] ++ Nat.toDigits 16 character.toNat ++ ['\x7d']

def displayedChar (character : Char) : List Char :=
  match character with
  | '"' => ['\\', '"']
  | '\\' => ['\\', '\\']
  | '\n' => ['\\', 'n']
  | '\r' => ['\\', 'r']
  | '\t' => ['\\', 't']
  | '\x00' => ['\\', '0']
  | other => if isSeen other then [other] else codePointEscape other

def displayed (text : String) : String :=
  String.ofList ('"' :: text.toList.flatMap displayedChar ++ ['"'])

def displayedList (texts : List String) : String :=
  "[" ++ ", ".intercalate (texts.map displayed) ++ "]"

end SuiteOutline.Text
