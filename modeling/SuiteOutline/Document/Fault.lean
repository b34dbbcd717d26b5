import SuiteOutline.Document.Mark
import SuiteOutline.Text.Displayed

/-!
# Faults of a document

Why a document cannot be read: its characters do not form a document, or what they form is not the
value that was asked for.
-/

namespace SuiteOutline.Document

/-- The activity during which a fault of the characters was met, and where it began. -/
structure Activity where
  words : String
  since : Mark

structure SyntaxFault where
  problem : String
  mark : Mark
  activity : Option Activity

def SyntaxFault.text (fault : SyntaxFault) : String :=
  fault.problem ++ fault.mark.suffix ++
    match fault.activity with
    | none => ""
    | some activity =>
        ", " ++ activity.words
          ++ (if activity.since.samePlace fault.mark then "" else activity.since.suffix)

def SyntaxFault.forbidden (offset : Nat) : SyntaxFault :=
  ⟨"control characters are not allowed"
      ++ (if offset == 0 then "" else " at position " ++ toString offset),
    Mark.start, none⟩

/-- A step from a collection to one of its members. -/
inductive Step where
  | item (index : Nat)
  | member (key : String)
  /-- A member whose key is no scalar. -/
  | unnamed
  | alias
  deriving DecidableEq

/-- The way from the root of a document to a value, innermost step first. -/
abbrev Route := List Step

/-- The way in words; the root is a full stop, and an alias leaves no word of its own. -/
def routeText : Route → String
  | [] => "."
  | .item index :: outer => routeText outer ++ "[" ++ toString index ++ "]"
  | .member key :: outer => (if outer.isEmpty then "" else routeText outer ++ ".") ++ key
  | .unnamed :: outer => (if outer.isEmpty then "" else routeText outer ++ ".") ++ "?"
  | .alias :: outer => routeText outer

/-- Where a value that does not fit stands. -/
structure Site where
  mark : Mark
  route : Route

inductive Fault where
  | malformed (fault : SyntaxFault)
  /-- A value that does not fit, with its place once that is known. -/
  | misfit (message : String) (site : Option Site)
  | unknownAnchor (mark : Mark)
  | tooNested (mark : Mark)
  | tooRepeated
  | severalDocuments
  | ended

namespace Fault

/-- Gives a value that does not fit its place, unless a place within it is known already. -/
def locate (fault : Fault) (mark : Mark) (route : Route) : Fault :=
  match fault with
  | .misfit message none => .misfit message (some ⟨mark, route⟩)
  | other => other

def mark? : Fault → Option Mark
  | .malformed fault => some fault.mark
  | .misfit _ site => site.map Site.mark
  | .unknownAnchor mark => some mark
  | .tooNested mark => some mark
  | .tooRepeated => none
  | .severalDocuments => none
  | .ended => none

/-- The number of bytes before the fault's place, and zero if it has none. -/
def offset (fault : Fault) : Nat :=
  match fault.mark? with
  | none => 0
  | some mark => mark.index

def text : Fault → String
  | .malformed fault => fault.text
  | .misfit message none => message
  | .misfit message (some site) =>
      (if routeText site.route == "." then "" else routeText site.route ++ ": ") ++ message
        ++ site.mark.suffix
  | .unknownAnchor mark => "unknown anchor" ++ mark.suffix
  | .tooNested mark => "recursion limit exceeded" ++ mark.suffix
  | .tooRepeated => "repetition limit exceeded"
  | .severalDocuments =>
      "deserializing from YAML containing more than one document is not supported"
  | .ended => "EOF while parsing a value"

end Fault

end SuiteOutline.Document
