import SuiteOutline.Document.Event

/-!
# Nodes

The events of one document form a tree of nodes. A fault may cut a document off; then what was
read of it still forms a tree, with a missing node wherever more should have followed.

Anchors are numbered by how many names were known before, so a name that is used twice shares the
number of the next new name; the latest value with a number is the one that its aliases mean.
-/

namespace SuiteOutline.Document

inductive Node where
  | alias (number : Nat) (mark : Mark)
  | scalar (tag : Option Octets) (text : String) (style : ScalarStyle) (mark : Mark)
  | sequence (tag : Option Octets) (mark : Mark) (items : List Node)
  | mapping (tag : Option Octets) (mark : Mark) (members : List (Node × Node))
  /-- The content of a stream without documents. -/
  | absent
  /-- The place where a document was cut off. -/
  | missing

/-- A value under an anchor: the anchor's number, and how many events came before the value. -/
structure Anchored where
  number : Nat
  position : Nat
  node : Node

/-- A document as far as it could be read. -/
structure Content where
  root : Node
  anchored : List Anchored
  /-- How many events the document consists of. -/
  size : Nat
  /-- The fault that cut the document off. -/
  fault : Option Fault
  /-- Whether anything but the end of the stream follows the document. -/
  isFollowed : Bool

namespace Content

/-- The latest value among those under anchors with a number. -/
def latest (number : Nat) : List Anchored → Option Anchored → Option Anchored
  | [], found => found
  | anchored :: rest, found =>
      let isLater := match found with
        | none => true
        | some other => decide (other.position < anchored.position)
      latest number rest (if anchored.number == number && isLater then some anchored else found)

def target (content : Content) (number : Nat) : Node :=
  match latest number content.anchored none with
  | none => .missing
  | some anchored => anchored.node

end Content

/-- A collection whose members are being read, latest first. -/
structure OpenCollection where
  isMapping : Bool
  tag : Option Octets
  mark : Mark
  /-- The number of its anchor and its position, if it has an anchor. -/
  anchor : Option (Nat × Nat)
  members : List Node

/-- A tree of nodes as far as its events have been read. -/
structure Growth where
  /-- The numbers of the anchors' names. -/
  numbers : List (String × Nat)
  anchored : List Anchored
  /-- The collections that are open, innermost first. -/
  opened : List OpenCollection
  root : Option Node
  size : Nat

namespace Growth

def empty : Growth :=
  ⟨[], [], [], none, 0⟩

/-- Members of a mapping in order, two by two. -/
def pairs : List Node → List (Node × Node)
  | [] => []
  | [key] => [(key, .missing)]
  | key :: value :: rest => (key, value) :: pairs rest

def collectionNode (collection : OpenCollection) : Node :=
  if collection.isMapping then
    .mapping collection.tag collection.mark (pairs collection.members.reverse)
  else .sequence collection.tag collection.mark collection.members.reverse

/-- Adds a finished node to the innermost collection; outside of all it is the root. -/
def addNode (growth : Growth) (node : Node) : Growth :=
  match growth.opened with
  | [] => { growth with root := some node }
  | innermost :: others =>
      { growth with opened := { innermost with members := node :: innermost.members } :: others }

def remember (growth : Growth) (anchor : Option (Nat × Nat)) (node : Node) : Growth :=
  match anchor with
  | none => growth
  | some (number, position) =>
      { growth with anchored := ⟨number, position, node⟩ :: growth.anchored }

/-- Gives a number to the anchor of the node that comes next. -/
def nameAnchor (growth : Growth) (anchor : Option String) : Option (Nat × Nat) × Growth :=
  match anchor with
  | none => (none, growth)
  | some name =>
      let number := growth.numbers.length
      let others := growth.numbers.filter fun known => known.1 != name
      (some (number, growth.size), { growth with numbers := (name, number) :: others })

def count (growth : Growth) : Growth :=
  { growth with size := growth.size + 1 }

def openCollection (growth : Growth) (isMapping : Bool) (properties : Properties) (mark : Mark) :
    Growth :=
  let (anchor, growth) := growth.nameAnchor properties.anchor
  { growth.count with
    opened := ⟨isMapping, properties.tag, mark, anchor, []⟩ :: growth.opened }

def closeCollection (growth : Growth) : Growth :=
  match growth.opened with
  | [] => growth
  | innermost :: others =>
      let node := collectionNode innermost
      ({ growth with opened := others }.remember innermost.anchor node).addNode node

/-- Adds an event; an alias without its anchor is a fault. -/
def addEvent (growth : Growth) (placed : PlacedEvent) : Except Fault Growth :=
  match placed.event with
  | .alias name =>
      match growth.numbers.find? fun known => known.1 == name with
      | none => .error (.unknownAnchor placed.mark)
      | some (_, number) => .ok (growth.count.addNode (.alias number placed.mark))
  | .scalar properties text style =>
      let (anchor, growth) := growth.nameAnchor properties.anchor
      let node := Node.scalar properties.tag text style placed.mark
      .ok ((growth.count.remember anchor node).addNode node)
  | .sequenceStart properties => .ok (growth.openCollection false properties placed.mark)
  | .mappingStart properties => .ok (growth.openCollection true properties placed.mark)
  | .sequenceEnd => .ok growth.count.closeCollection
  | .mappingEnd => .ok growth.count.closeCollection
  | .streamStart => .ok growth
  | .streamEnd => .ok growth
  | .documentStart => .ok growth
  | .documentEnd => .ok growth

/-- Ends the members of a collection at the place where the document was cut off. -/
def cutMembers (collection : OpenCollection) : OpenCollection :=
  if collection.isMapping && collection.members.length % 2 == 0 then
    { collection with members := .missing :: .missing :: collection.members }
  else { collection with members := .missing :: collection.members }

/-- Closes the collections that were open when the document was cut off. -/
def cutOff : Nat → Growth → Growth
  | 0, growth => growth
  | depth + 1, growth =>
      match growth.opened with
      | [] => growth
      | innermost :: others =>
          cutOff depth { growth with opened := cutMembers innermost :: others }.closeCollection

def content (growth : Growth) (fault : Option Fault) (isFollowed : Bool) : Content :=
  let whole := cutOff growth.opened.length growth
  ⟨whole.root.getD .missing, whole.anchored, growth.size, fault, isFollowed⟩

end Growth

namespace Content

def goesOn (grammar : Grammar) : Bool :=
  match Parse.event grammar with
  | .error _ => true
  | .ok (placed, _) =>
      match placed.event with
      | .streamEnd => false
      | _ => true

def read : Nat → Grammar → Growth → Content
  | 0, _, growth => growth.content (some .ended) false
  | fuel + 1, grammar, growth =>
      match Parse.event grammar with
      | .error fault => growth.content (some (.malformed fault)) false
      | .ok (placed, after) =>
          match placed.event with
          | .streamEnd => ⟨.absent, [], 1, none, false⟩
          | .documentEnd => growth.content none (goesOn after)
          | _ =>
              match growth.addEvent placed with
              | .error fault => growth.content (some fault) false
              | .ok grown => read fuel after grown

/-- The first document of a text. Each character gives rise to a few events at most. -/
def ofText (text : String) : Content :=
  read (16 * text.length + 64) (Grammar.ofText text) Growth.empty

end Content

end SuiteOutline.Document
