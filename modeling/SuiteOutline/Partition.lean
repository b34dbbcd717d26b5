import SuiteOutline.Block
import SuiteOutline.Reference

/-!
# Partitions of a suite

The entries of a suite fall into buckets: modules to load, dependencies to inject, hooks to run
before and after each case, and nested blocks. Each bucket keeps the order in which its members
were met. An entry without a place is dropped, and the partition records it.
-/

namespace SuiteOutline

variable {ν : Type}

inductive DropReason where
  /-- A hook without a role, met when there are hooks of both roles. -/
  | hooksTaken
  | unsupportedShape
  deriving DecidableEq

def DropReason.text : DropReason → String
  | .hooksTaken => "both hook slots are taken and the callable is not named before or after"
  | .unsupportedShape => "unsupported entry shape"

/-- An entry without a place: its suite, its position there, its shape, and the reason. -/
structure DroppedEntry where
  suite : String
  index : Nat
  shape : String
  reason : DropReason
  deriving DecidableEq

def DroppedEntry.text (entry : DroppedEntry) : String :=
  "entry " ++ toString entry.index ++ " of '" ++ entry.suite ++ "' (" ++ entry.shape ++ "): "
    ++ entry.reason.text

structure Partition (ν : Type := Value) where
  modules : List String
  dependencies : List String
  before : List (Callable ν)
  after : List (Callable ν)
  nested : List (Block ν)
  dropped : List DroppedEntry

namespace Partition

def empty : Partition ν :=
  ⟨[], [], [], [], [], []⟩

def addReference (partition : Partition ν) (reference : Reference) : Partition ν :=
  { partition with
    modules := partition.modules ++ (if reference.role.loadsModule then [reference.name] else [])
    dependencies :=
      partition.dependencies ++ (if reference.role.injects then [reference.name] else []) }

/-- Places a hook by its role. A hook without one runs before each case if no hook does yet, else
after each case if no hook does yet; otherwise it has no place. -/
def addHook? (partition : Partition ν) (hook : Callable ν) : Option (Partition ν) :=
  if hook.isBefore || (partition.before.isEmpty && !hook.isAfter) then
    some { partition with before := partition.before ++ [hook] }
  else if hook.isAfter || (partition.after.isEmpty && !hook.isBefore) then
    some { partition with after := partition.after ++ [hook] }
  else none

def addNested (partition : Partition ν) (blocks : List (Block ν)) : Partition ν :=
  { partition with nested := partition.nested ++ blocks }

def addDropped (partition : Partition ν) (entry : DroppedEntry) : Partition ν :=
  { partition with dropped := partition.dropped ++ [entry] }

/-- The items of the suite in the order of registration, however its entries were mixed: modules,
dependencies, hooks before, hooks after, nested blocks. -/
def items (partition : Partition ν) : List (Item ν) :=
  (if partition.modules.isEmpty then [] else [.modules partition.modules])
    ++ (if partition.dependencies.isEmpty then [] else [.inject partition.dependencies])
    ++ partition.before.map .before
    ++ partition.after.map .after
    ++ partition.nested.map .nested

end Partition

end SuiteOutline
