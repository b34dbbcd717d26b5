import SuiteOutline.Callable
import SuiteOutline.Rows

/-!
# Specs

A spec is an ordered table from labels to bindings. A binding is a callable, a sequence of
entries, a spec bound directly to the label, or a value of some other kind; an entry is a
reference still to be decoded, a hook, a nested spec, or a value of some other kind.
-/

namespace SuiteOutline

variable {ν : Type}

mutual

/-- An ordered table of labels and what they are bound to. -/
inductive Spec (ν : Type := Value) where
  | mk (rows : List (String × Binding ν))

inductive Binding (ν : Type := Value) where
  | callable (callable : Callable ν)
  | sequence (entries : List (Entry ν))
  /-- A spec outside a sequence, for which there is no use. -/
  | mapping (spec : Spec ν)
  /-- Anything else, by the name of its kind. -/
  | other (kind : String)

inductive Entry (ν : Type := Value) where
  | reference (raw : String)
  | hook (callable : Callable ν)
  | suite (spec : Spec ν)
  /-- Anything else, by the name of its kind. -/
  | other (kind : String)

end

def Binding.shape : Binding ν → String
  | .callable _ => "callable"
  | .sequence _ => "sequence"
  | .mapping _ => "mapping"
  | .other kind => kind

def Entry.shape : Entry ν → String
  | .reference _ => "string"
  | .hook _ => "callable"
  | .suite _ => "mapping"
  | .other kind => kind

namespace Spec

def empty : Spec ν :=
  .mk []

def rows : Spec ν → List (String × Binding ν)
  | .mk rows => rows

def labels (spec : Spec ν) : List String :=
  Rows.keys spec.rows

def size (spec : Spec ν) : Nat :=
  spec.rows.length

def isEmpty (spec : Spec ν) : Bool :=
  spec.rows.isEmpty

def get? (spec : Spec ν) (label : String) : Option (Binding ν) :=
  Rows.find? label spec.rows

/-- Binds a label; a label that is present keeps its place. -/
def insert (spec : Spec ν) (label : String) (binding : Binding ν) : Spec ν :=
  .mk (Rows.insert label binding spec.rows)

def insertSuite (spec : Spec ν) (label : String) (entries : List (Entry ν)) : Spec ν :=
  spec.insert label (.sequence entries)

def insertCase (spec : Spec ν) (label source : String) : Spec ν :=
  spec.insert label (.callable (Callable.ofSource source))

def ofList (bindings : List (String × Binding ν)) : Spec ν :=
  .mk (Rows.ofList bindings)

/-- Specs nested in one another: each label holds one suite, whose only entry is the next. -/
def chain (labels : List String) (inner : Spec ν) : Spec ν :=
  labels.foldr (fun label nested => empty.insertSuite label [.suite nested]) inner

end Spec

mutual

/-- Equality of specs as tables: the same labels with the same bindings, in any order. -/
def Spec.same : Spec ν → Spec ν → Bool
  | .mk rows, other => rows.length == other.size && sameRows rows other

def sameRows : List (String × Binding ν) → Spec ν → Bool
  | [], _ => true
  | (label, binding) :: rest, other =>
      (match other.get? label with
        | some counterpart => binding.same counterpart
        | none => false) && sameRows rest other

/-- Equality of bindings; entries of sequences are compared in order. -/
def Binding.same : Binding ν → Binding ν → Bool
  | .callable first, .callable second => first.same second
  | .sequence first, .sequence second => sameEntries first second
  | .mapping first, .mapping second => first.same second
  | .other first, .other second => first == second
  | _, _ => false

def sameEntries : List (Entry ν) → List (Entry ν) → Bool
  | [], [] => true
  | first :: rest, second :: others => first.same second && sameEntries rest others
  | _, _ => false

def Entry.same : Entry ν → Entry ν → Bool
  | .reference first, .reference second => first == second
  | .hook first, .hook second => first.same second
  | .suite first, .suite second => first.same second
  | .other first, .other second => first == second
  | _, _ => false

end

end SuiteOutline
