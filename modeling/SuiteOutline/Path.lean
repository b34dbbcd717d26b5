/-!
# Paths

A path is a text with slashes. Paths are ordered part by part, not character by character: a
directory comes before every name that only begins like its own. Repeated slashes, and full stops
after the first part, count for nothing.
-/

namespace SuiteOutline.Path

inductive Part where
  | root
  | current
  | parent
  | named (name : String)
  deriving DecidableEq

def split : List Char → List (List Char)
  | [] => [[]]
  | character :: rest =>
      match split rest with
      | [] => [[character]]
      | piece :: others =>
          if character == '/' then [] :: piece :: others else (character :: piece) :: others

def pieces (path : String) : List String :=
  (split path.toList).map String.ofList

/-- A piece as a part; what counts for nothing is left out. -/
def partOf? (piece : String) : Option Part :=
  if piece == "" || piece == "." then none
  else if piece == ".." then some .parent
  else some (.named piece)

def parts (path : String) : List Part :=
  match pieces path with
  | [] => []
  | first :: rest =>
      let others := rest.filterMap partOf?
      if first == "" then if rest.isEmpty then [] else .root :: others
      else if first == "." then .current :: others
      else (partOf? first).toList ++ others

/-- The order of parts: roots, full stops, two full stops, and names by their characters. -/
def Part.order : Part → Part → Ordering
  | .root, .root => .eq
  | .root, _ => .lt
  | _, .root => .gt
  | .current, .current => .eq
  | .current, _ => .lt
  | _, .current => .gt
  | .parent, .parent => .eq
  | .parent, _ => .lt
  | _, .parent => .gt
  | .named first, .named second =>
      if first < second then .lt else if first = second then .eq else .gt

/-- The order of lists of parts: the first difference decides, and a beginning comes first. -/
def orderParts : List Part → List Part → Ordering
  | [], [] => .eq
  | [], _ :: _ => .lt
  | _ :: _, [] => .gt
  | first :: rest, second :: others => (first.order second).then (orderParts rest others)

def order (first second : String) : Ordering :=
  orderParts (parts first) (parts second)

def notAfter (first second : String) : Bool :=
  order first second != .gt

def join (path name : String) : String :=
  if path.endsWith "/" then path ++ name else path ++ "/" ++ name

def fileName? (path : String) : Option String :=
  match (parts path).getLast? with
  | some (.named name) => some name
  | _ => none

/-- What follows the last full stop of a name that does not begin with it. -/
def extensionOf? (name : String) : Option String :=
  let backwards := name.toList.reverse
  let after := backwards.takeWhile (· != '.')
  match backwards.drop after.length with
  | _ :: _ :: _ => some (String.ofList after.reverse)
  | _ => none

def extension? (path : String) : Option String :=
  (fileName? path).bind extensionOf?

end SuiteOutline.Path
