import SuiteOutline.Document.Data
import SuiteOutline.Options
import SuiteOutline.Report

/-!
# Options written as documents

A document of options is read member by member, without a general reading first: a member that is
not an option is passed over unread, and an option is read at its own type. Names take the text of
any scalar; the other options look at how a scalar is written. A value that was left out is an
empty mapping.
-/

namespace SuiteOutline

namespace Document

namespace Node

mutual

def isCutOff : Node → Bool
  | .missing => true
  | .sequence _ _ items => anyCutOff items
  | .mapping _ _ members => anyMemberCutOff members
  | .alias _ _ => false
  | .scalar _ _ _ _ => false
  | .absent => false

def anyCutOff : List Node → Bool
  | [] => false
  | item :: rest => item.isCutOff || anyCutOff rest

def anyMemberCutOff : List (Node × Node) → Bool
  | [] => false
  | (key, value) :: rest => key.isCutOff || value.isCutOff || anyMemberCutOff rest

end

end Node

namespace Reading

variable {α : Type}

def following (content : Content) (reader : Route → Node → Reading α) (route : Route)
    (node : Node) : Reading α :=
  match node with
  | .alias number mark => located mark route do
      reader (.alias :: route) (← follow content number)
  | other => reader route other

def unwantedScalar (tag : Option Octets) (text : String) (style : ScalarStyle) (wanted : String) :
    Reading α :=
  match Meaning.ofScalar tag text style with
  | .error message => misfit message
  | .ok meaning => misfit (Meaning.mismatch meaning.words wanted)

def unwanted (content : Content) (route : Route) (wanted : String) : Node → Reading α
  | .scalar tag text style mark => located mark route (unwantedScalar tag text style wanted)
  | .sequence _ mark _ => located mark route (misfit (Meaning.mismatch "sequence" wanted))
  | .mapping _ mark _ => located mark route (misfit (Meaning.mismatch "map" wanted))
  | .alias _ _ => cutOff content
  | .missing => cutOff content
  | .absent => throw .ended

def passOver (content : Content) (node : Node) : Reading Unit :=
  if node.isCutOff then cutOff content else pure ()

def readText (content : Content) (wanted : String) (route : Route) (node : Node) :
    Reading String :=
  following content (fun route solid =>
    match solid with
    | .scalar _ text _ _ => pure text
    | other => unwanted content route wanted other) route node

def readChar (content : Content) (route : Route) (node : Node) : Reading Char :=
  following content (fun route solid =>
    match solid with
    | .scalar _ text _ mark =>
        match text.toList with
        | [character] => pure character
        | _ => located mark route (misfit (Meaning.refusal text "a character"))
    | other => unwanted content route "a character" other) route node

/-- Whether a scalar is written so that its text may mean something other than a text: it is
plain, or a literal block under the tag of the wanted kind. -/
def isReadable (kind : String) (tag : Option Octets) (style : ScalarStyle) : Bool :=
  style == .plain || (style == .literal && tag == some (Meaning.commonTag kind))

def readWith (content : Content) (kind wanted : String) (understand : String → Option α)
    (route : Route) (node : Node) : Reading α :=
  following content (fun route solid =>
    match solid with
    | .scalar tag text style mark =>
        match understand text with
        | some value =>
            if isReadable kind tag style then pure value
            else unwanted content route wanted (.scalar tag text style mark)
        | none => unwanted content route wanted (.scalar tag text style mark)
    | other => unwanted content route wanted other) route node

def readBoolean (content : Content) : Route → Node → Reading Bool :=
  readWith content "bool" "a boolean" Meaning.boolean?

def word? (text : String) : Option UInt64 :=
  match Meaning.unsigned? text.toList with
  | none => none
  | some number => if number < UInt64.size then some (UInt64.ofNat number) else none

def readWord (content : Content) : Route → Node → Reading UInt64 :=
  readWith content "int" "usize" word?

def unknownPolicy (name : String) : Reading α :=
  misfit ("unknown variant `" ++ name ++ "`, expected `warn` or `reject`")

def policyNamed (name : String) : Reading EntryPolicy :=
  if name == "warn" then pure .warn
  else if name == "reject" then pure .reject
  else unknownPolicy name

def readNothing (content : Content) (route : Route) (node : Node) : Reading Unit :=
  match node with
  | .scalar _ text style mark =>
      if style == .plain && (text.isEmpty || Meaning.isNull text) then pure ()
      else located mark route (misfit (Meaning.refusal text "null"))
  | other => unwanted content route "unit" other

/-- Reads an alternative by its tag; an unknown tag is a fault of what is around it. -/
def readTagged (content : Content) (route : Route) (name : String) (node : Node) :
    Reading EntryPolicy := do
  let policy ← policyNamed name
  readNothing content route node
  pure policy

/-- Reads a policy: by its name, or by a tag over nothing. -/
def readPolicy (content : Content) (route : Route) (node : Node) : Reading EntryPolicy :=
  let wanted := "a YAML tag starting with '!'"
  following content (fun route solid =>
    match solid with
    | .scalar tag text style mark =>
        match tag.bind Meaning.localTag? with
        | some name => readTagged content route name (.scalar tag text style mark)
        | none => located mark route (policyNamed text)
    | .mapping tag mark members =>
        match tag.bind Meaning.localTag? with
        | some name => readTagged content route name (.mapping tag mark members)
        | none => unwanted content route wanted (.mapping tag mark members)
    | .sequence tag mark items =>
        match tag.bind Meaning.localTag? with
        | some name => readTagged content route name (.sequence tag mark items)
        | none => unwanted content route wanted (.sequence tag mark items)
    | other => unwanted content route wanted other) route node

/-- How the value of an option is read into a record; a key that is no option has none. -/
abbrev Fields (α : Type) := String → Option (α → Route → Node → Reading α)

def field {α β : Type} (read : Route → Node → Reading β) (put : β → α → α) :
    Option (α → Route → Node → Reading α) :=
  some fun record route node => do
    let value ← read route node
    pure (put value record)

/-- Reads the members of a mapping into a record; no option may be given twice. -/
def readFields (content : Content) (fields : Fields α) (route : Route) :
    List String → α → List (Node × Node) → Reading α
  | _, record, [] => pure record
  | seen, record, (key, value) :: rest => do
      let name ← readText content "field identifier" route key
      match fields name with
      | none =>
          passOver content value
          readFields content fields route seen record rest
      | some read =>
          if seen.contains name then misfit ("duplicate field `" ++ name ++ "`")
          else
            let extended ← read record (Data.memberStep key :: route) value
            readFields content fields route (name :: seen) extended rest

/-- Reads a record from a mapping, or from a value that was left out. -/
def readRecord (content : Content) (wanted : String) (fields : Fields α) (record : α)
    (route : Route) (node : Node) : Reading α :=
  following content (fun route solid =>
    match solid with
    | .mapping _ mark members =>
        located mark route (readFields content fields route [] record members)
    | .absent => pure record
    | .scalar tag text style mark =>
        if style == .plain && text.isEmpty then pure record
        else unwanted content route wanted (.scalar tag text style mark)
    | other => unwanted content route wanted other) route node

end Reading

end Document

open Document (Content Fault Reading)

def Dialect.fields (content : Content) : Reading.Fields Dialect := fun name =>
  let named := fun (put : String → Dialect → Dialect) =>
    Reading.field (Reading.readText content "a string") put
  match name with
  | "describe" => named fun value dialect => { dialect with describe := value }
  | "it" => named fun value dialect => { dialect with it := value }
  | "before_each" => named fun value dialect => { dialect with beforeEach := value }
  | "after_each" => named fun value dialect => { dialect with afterEach := value }
  | "module" => named fun value dialect => { dialect with module := value }
  | "inject" => named fun value dialect => { dialect with inject := value }
  | "marker" =>
      Reading.field (Reading.readChar content) fun value dialect => { dialect with marker := value }
  | _ => none

def Options.fields (content : Content) : Reading.Fields Options := fun name =>
  match name with
  | "debug" =>
      Reading.field (Reading.readBoolean content) fun value options =>
        { options with debug := value }
  | "max_depth" =>
      Reading.field (Reading.readWord content) fun value options =>
        { options with maxDepth := value }
  | "unknown_entries" =>
      Reading.field (Reading.readPolicy content) fun value options =>
        { options with unknownEntries := value }
  | "validate_identifiers" =>
      Reading.field (Reading.readBoolean content) fun value options =>
        { options with validateIdentifiers := value }
  | "dialect" =>
      Reading.field
        (Reading.readRecord content "struct Dialect" (Dialect.fields content) ({} : Dialect))
        fun value options => { options with dialect := value }
  | _ => none

def isWhiteSpace (character : Char) : Bool :=
  let code := character.toNat
  (0x09 ≤ code && code ≤ 0x0D) || code == 0x20 || code == 0x85 || code == 0xA0 || code == 0x1680
    || (0x2000 ≤ code && code ≤ 0x200A) || code == 0x2028 || code == 0x2029 || code == 0x202F
    || code == 0x205F || code == 0x3000

/-- The options that a text describes; white space alone describes the defaults. -/
def Options.ofText (text : String) : Except Fault Options :=
  if text.toList.all isWhiteSpace then .ok {}
  else
    let content := Content.ofText text
    content.readWhole
      (Reading.readRecord content "struct CompileOptions" (Options.fields content) {} []
        content.root)

def optionsReport (document : SourceText) (fault : Fault) : Report :=
  (Report.inDocument .load ("invalid config: " ++ fault.text) document
    (Span.at fault.offset)).withCause (Cause.ofText fault.text)

end SuiteOutline
