/-!
# Labels

A label names a case if it begins with the word "should" in any mixture of capitals, and a suite
otherwise. Only the letters A to Z have the letters of that word as their small forms, so folding
those is enough.
-/

namespace SuiteOutline

inductive LabelKind where
  | suite
  | case
  deriving DecidableEq

def caseWord : List Char :=
  "should".toList

def isCaseLabel (label : String) : Bool :=
  caseWord.isPrefixOf (label.toList.map Char.toLower)

def isSuiteLabel (label : String) : Bool :=
  !isCaseLabel label

namespace LabelKind

def ofLabel (label : String) : LabelKind :=
  if isCaseLabel label then .case else .suite

def name : LabelKind → String
  | .suite => "suite"
  | .case => "case"

end LabelKind

end SuiteOutline
