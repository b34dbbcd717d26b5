import SuiteOutline.Path

/-!
# Files

What this library asks of files: the text of one, and all that lies below a directory. A tree of
directories held in memory answers the same questions; paths are followed in it from its root.
-/

namespace SuiteOutline

inductive FileFault where
  | missing
  | isDirectory
  | notADirectory
  | notText
  | unusableName
  | other (text : String)
  deriving DecidableEq

def FileFault.text : FileFault → String
  | .missing => "No such file or directory (os error 2)"
  | .isDirectory => "Is a directory (os error 21)"
  | .notADirectory => "Not a directory (os error 20)"
  | .notText => "stream did not contain valid UTF-8"
  | .unusableName => "file name contained an unexpected NUL byte"
  | .other text => text

structure Found where
  path : String
  isFile : Bool
  deriving DecidableEq

/-- Access to files; the directory that is searched is itself among what is found. -/
structure Files (m : Type → Type) where
  read : String → m (Except FileFault String)
  walk : String → m (Except FileFault (List Found))

inductive FileTree where
  | file (content : List UInt8)
  | directory (entries : List (String × FileTree))

namespace FileTree

def child? (name : String) : List (String × FileTree) → Option FileTree
  | [] => none
  | (present, tree) :: rest => if present = name then some tree else child? name rest

def putEntry (name : String) (tree : FileTree) :
    List (String × FileTree) → List (String × FileTree)
  | [] => [(name, tree)]
  | (present, old) :: rest =>
      if present = name then (present, tree) :: rest else (present, old) :: putEntry name tree rest

/-- Puts a tree at the end of a path of names; directories on the way are made. -/
def put (tree : FileTree) : List String → FileTree → FileTree
  | [], _ => tree
  | name :: rest, holder =>
      let entries := match holder with
        | .file _ => []
        | .directory entries => entries
      let old := (child? name entries).getD (.directory [])
      .directory (putEntry name (put tree rest old) entries)

/-- Follows the pieces of a path from a tree, inside the directories given innermost first. -/
def follow : List FileTree → FileTree → List String → Except FileFault FileTree
  | _, tree, [] => .ok tree
  | around, tree, piece :: rest =>
      match tree with
      | .file _ => .error .notADirectory
      | .directory entries =>
          if piece == "" || piece == "." then follow around tree rest
          else if piece == ".." then
            match around with
            | [] => follow [] tree rest
            | outer :: others => follow others outer rest
          else
            match child? piece entries with
            | none => .error .missing
            | some inner => follow (tree :: around) inner rest

def find (tree : FileTree) (path : String) : Except FileFault FileTree :=
  if path.contains '\x00' then .error .unusableName
  else if path.isEmpty || path.startsWith "/" then .error .missing
  else follow [] tree (Path.pieces path)

def readText (tree : FileTree) (path : String) : Except FileFault String := do
  match ← tree.find path with
  | .directory _ => .error .isDirectory
  | .file content =>
      match String.fromUTF8? ⟨content.toArray⟩ with
      | some text => .ok text
      | none => .error .notText

mutual

/-- All that stands at a path, the path itself first. -/
def walkFrom (path : String) : FileTree → List Found
  | .file _ => [⟨path, true⟩]
  | .directory entries => ⟨path, false⟩ :: walkEntries path entries

def walkEntries (path : String) : List (String × FileTree) → List Found
  | [] => []
  | (name, tree) :: rest => walkFrom (Path.join path name) tree ++ walkEntries path rest

end

def files (tree : FileTree) : Files Id where
  read := tree.readText
  walk path := (tree.find path).map (walkFrom path)

end FileTree

def isSpecPath (path : String) : Bool :=
  match Path.extension? path with
  | none => false
  | some extension => ["yaml", "yml", "json"].contains extension

/-- The spec documents among what was found, in the order of paths. -/
def specPaths (found : List Found) : List String :=
  ((found.filter fun item => item.isFile && isSpecPath item.path).map Found.path).mergeSort
    Path.notAfter

end SuiteOutline
