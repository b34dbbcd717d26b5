import SuiteOutline.Callable
import SuiteOutline.Label

/-!
# Blocks

A block is what one label compiles to. Its body is the callable bound to the label, or the items
of a suite in the order in which they are registered.
-/

namespace SuiteOutline

variable {ν : Type}

mutual

/-- A compiled label. -/
inductive Block (ν : Type := Value) where
  | mk (kind : LabelKind) (label : String) (body : BlockBody ν)

inductive BlockBody (ν : Type := Value) where
  | callable (callable : Callable ν)
  | items (items : List (Item ν))

inductive Item (ν : Type := Value) where
  /-- One hook that loads every listed module. -/
  | modules (names : List String)
  /-- One hook that injects every listed dependency. -/
  | inject (names : List String)
  | before (hook : Callable ν)
  | after (hook : Callable ν)
  | nested (block : Block ν)

end

namespace Block

def kind : Block ν → LabelKind
  | .mk kind _ _ => kind

def label : Block ν → String
  | .mk _ label _ => label

def body : Block ν → BlockBody ν
  | .mk _ _ body => body

/-- The block of a label bound to a callable; the label tells its kind. -/
def ofCallable (label : String) (callable : Callable ν) : Block ν :=
  .mk (LabelKind.ofLabel label) label (.callable callable)

def ofItems (label : String) (items : List (Item ν)) : Block ν :=
  .mk .suite label (.items items)

def withKind (block : Block ν) (kind : LabelKind) : Block ν :=
  .mk kind block.label block.body

def items (block : Block ν) : List (Item ν) :=
  match block.body with
  | .items items => items
  | .callable _ => []

def isCallable (block : Block ν) : Bool :=
  match block.body with
  | .items _ => false
  | .callable _ => true

end Block

mutual

/-- Equality of blocks; live bodies are not compared. -/
def Block.same : Block ν → Block ν → Bool
  | .mk kind label body, .mk otherKind otherLabel other =>
      kind == otherKind && label == otherLabel && body.same other

def BlockBody.same : BlockBody ν → BlockBody ν → Bool
  | .callable first, .callable second => first.same second
  | .items first, .items second => sameItems first second
  | _, _ => false

def sameItems : List (Item ν) → List (Item ν) → Bool
  | [], [] => true
  | first :: rest, second :: others => first.same second && sameItems rest others
  | _, _ => false

def Item.same : Item ν → Item ν → Bool
  | .modules first, .modules second => first == second
  | .inject first, .inject second => first == second
  | .before first, .before second => first.same second
  | .after first, .after second => first.same second
  | .nested first, .nested second => first.same second
  | _, _ => false

end

def sameBlocks (first second : List (Block ν)) : Bool :=
  first.isEqv second Block.same

end SuiteOutline
