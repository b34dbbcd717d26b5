import SuiteOutline.Document.Node
import SuiteOutline.Document.Resolution

/-!
# Data of a document

The general reading of a document: aliases are replaced by what they mean, scalars by their
meaning, and a tag of the document itself stays around its value. No two keys of a mapping are
equal. Collections nest at most 128 deep, and aliases are followed at most a hundred times for each
event of the document.
-/

namespace SuiteOutline.Document

inductive Number where
  | integer (value : Int)
  | real (value : Real)

inductive Data where
  | null
  | boolean (value : Bool)
  | number (value : Number)
  | text (value : String)
  | sequence (items : List Data)
  | mapping (members : List (Data × Data))
  | tagged (tag : String) (content : Data)

/-- Equality of numbers; an integer never equals a real. -/
def Number.same : Number → Number → Bool
  | .integer first, .integer second => first == second
  | .real first, .real second => first.same second
  | _, _ => false

def Number.text : Number → String
  | .integer value => toString value
  | .real value => value.text

/-- A tag without the exclamation mark at its front, unless it is nothing else. -/
def withoutMark (tag : String) : List Char :=
  match tag.toList with
  | '!' :: rest => if rest.isEmpty then ['!'] else rest
  | characters => characters

mutual

/-- Equality of values; the order of a mapping's members does not matter. -/
def Data.same : Data → Data → Bool
  | .null, .null => true
  | .boolean first, .boolean second => first == second
  | .number first, .number second => first.same second
  | .text first, .text second => first == second
  | .sequence first, .sequence second => sameItems first second
  | .mapping first, .mapping second =>
      first.length == second.length && sameMembers first second
  | .tagged firstTag first, .tagged secondTag second =>
      withoutMark firstTag == withoutMark secondTag && first.same second
  | _, _ => false

def sameItems : List Data → List Data → Bool
  | [], [] => true
  | first :: rest, second :: others => first.same second && sameItems rest others
  | _, _ => false

def sameMembers : List (Data × Data) → List (Data × Data) → Bool
  | [], _ => true
  | (key, value) :: rest, others =>
      others.any (fun other => key.same other.1 && value.same other.2) && sameMembers rest others

end

/-- Reading a document: the number of aliases followed so far, or a fault. -/
abbrev Reading := StateT Nat (Except Fault)

namespace Reading

/-- Gives the faults of a reading a place, where they have none. -/
def located {α : Type} (mark : Mark) (route : Route) (reading : Reading α) : Reading α := fun followed =>
  (reading followed).mapError fun fault => fault.locate mark route

def misfit {α : Type} (message : String) : Reading α :=
  throw (.misfit message none)

def cutOff {α : Type} (content : Content) : Reading α :=
  throw (content.fault.getD .ended)

def follow (content : Content) (number : Nat) : Reading Node := do
  let followed ← modifyGet fun followed => (followed + 1, followed + 1)
  if content.size * 100 < followed then throw .tooRepeated
  else pure (content.target number)

end Reading

namespace Data

def ofMeaning : Meaning → Except String Data
  | .null => .ok .null
  | .boolean value => .ok (.boolean value)
  | .integer value => .ok (.number (.integer value))
  | .wide value => .error (Meaning.mismatch (Meaning.wide value).words "any YAML value")
  | .real value => .ok (.number (.real value))
  | .text value => .ok (.text value)

def duplicateMessage : Data → String
  | .null => "duplicate entry with null key"
  | .boolean value => "duplicate entry with key `" ++ (if value then "true" else "false") ++ "`"
  | .number value => "duplicate entry with key " ++ value.text
  | .text value => "duplicate entry with key " ++ Text.displayed value
  | .sequence _ => "duplicate entry in YAML map"
  | .mapping _ => "duplicate entry in YAML map"
  | .tagged _ _ => "duplicate entry in YAML map"

def memberStep : Node → Step
  | .scalar _ written _ _ => .member written
  | _ => .unnamed

abbrev Reader := Route → Node → Reading Data

def readItems (content : Content) (reader : Reader) (route : Route) :
    Nat → List Node → Reading (List Data)
  | _, [] => pure []
  | index, item :: rest => do
      let data ← reader (.item index :: route) item
      let others ← readItems content reader route (index + 1) rest
      pure (data :: others)

/-- Reads the members of a mapping; the ones read before are given latest first. -/
def readMembers (reader : Reader) (route : Route) :
    List (Data × Data) → List (Node × Node) → Reading (List (Data × Data))
  | before, [] => pure before.reverse
  | before, (key, value) :: rest => do
      let keyData ← reader route key
      match before.find? fun member => member.1.same keyData with
      | some (present, _) => Reading.misfit (duplicateMessage present)
      | none =>
          let data ← reader (memberStep key :: route) value
          readMembers reader route ((keyData, data) :: before) rest

/-- Wraps a value in the tag of the document that it carries, if it carries one. -/
def wrapped (tag : Option Octets) (data : Data) : Data :=
  match tag.bind Meaning.localTag? with
  | none => data
  | some name => .tagged name data

/-- Whether a tag belongs to the document and so stays around its value. -/
def keepsTag (tag : Option Octets) : Bool :=
  (tag.bind Meaning.localTag?).isSome

/-- Reads a value that is no alias; the members of a collection are read by the given reader, and
without one the collection is nested too deep. -/
def readSolid (content : Content) (inner : Option Reader) (route : Route) :
    Node → Reading Data
  | .alias _ _ => Reading.cutOff content
  | .missing => Reading.cutOff content
  | .absent => pure .null
  | .scalar tag written style mark => Reading.located mark route do
      let meaning := Meaning.ofScalar (if keepsTag tag then none else tag) written style
      match meaning.bind ofMeaning with
      | .error message => Reading.misfit message
      | .ok data => pure (wrapped tag data)
  | .sequence tag mark items => Reading.located mark route do
      match inner with
      | none => throw (.tooNested mark)
      | some reader => pure (wrapped tag (.sequence (← readItems content reader route 0 items)))
  | .mapping tag mark members => Reading.located mark route do
      match inner with
      | none => throw (.tooNested mark)
      | some reader => pure (wrapped tag (.mapping (← readMembers reader route [] members)))

def readFollowing (content : Content) (inner : Option Reader) : Reader := fun route node =>
  match node with
  | .alias anchor mark => Reading.located mark route do
      readSolid content inner (.alias :: route) (← Reading.follow content anchor)
  | _ => readSolid content inner route node

def readWithin (content : Content) : Nat → Reader
  | 0 => readFollowing content none
  | levels + 1 => readFollowing content (some (readWithin content levels))

def nestingLimit : Nat := 128

end Data

namespace Content

/-- Reads a document as a whole: a fault of its characters and a second document are faults, even
where all values could be read. -/
def readWhole {α : Type} (content : Content) (reading : Reading α) : Except Fault α :=
  match reading 0 with
  | .error fault => .error fault
  | .ok (value, _) =>
      match content.fault with
      | some fault => .error fault
      | none => if content.isFollowed then .error .severalDocuments else .ok value

end Content

/-- The value of a text's only document; a text without documents has no value. -/
def Data.ofText (text : String) : Except Fault Data :=
  let content := Content.ofText text
  content.readWhole (Data.readWithin content Data.nestingLimit [] content.root)

end SuiteOutline.Document
