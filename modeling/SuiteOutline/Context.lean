import SuiteOutline.Rows
import SuiteOutline.Text.Displayed

/-!
# Test contexts

A context holds the values bound for one run of a case, by dependency name and in the order of
their first binding. A value is read back at the type at which it was bound, and at no other.

Contexts hold values of any types: all that reading asks of a value is that it carries its type.
Where no word is said on the values, they are those of `Value`, of three types.
-/

namespace SuiteOutline

/-- Values that carry the type at which they were bound. Types are told apart by `=`; their names
are for messages only, and two types may share one. -/
class Typed (α : Type) (τ : outParam Type) where
  type : α → τ
  typeName : τ → String

/-- A value that scripts of body steps bind. -/
inductive Value where
  | boolean (value : Bool)
  | integer (value : Int64)
  | text (value : String)
  deriving DecidableEq

inductive ValueType where
  | boolean
  | integer
  | text
  deriving DecidableEq

def ValueType.name : ValueType → String
  | .boolean => "bool"
  | .integer => "i64"
  | .text => "alloc::string::String"

def Value.type : Value → ValueType
  | .boolean _ => .boolean
  | .integer _ => .integer
  | .text _ => .text

instance : Typed Value ValueType where
  type := Value.type
  typeName := ValueType.name

/-- Values with the truth values among them. -/
class HasBooleans (α : Type) where
  boolean : Bool → α

instance : HasBooleans Value where
  boolean := .boolean

inductive CaseFailure where
  | failed (message : String)
  | unbound (name : String)
  /-- A name bound to a value of another type than the one with the name `expected`. -/
  | wrongType (name expected : String)
  /-- A callable that is only a source text. -/
  | noBody
  deriving DecidableEq

def CaseFailure.text : CaseFailure → String
  | .failed message => message
  | .unbound name => "dependency '" ++ name ++ "' is not bound in the test context"
  | .wrongType name expected => "dependency '" ++ name ++ "' is not a " ++ expected
  | .noBody => "callable has no live body"

/-- Bound values by name; no name is bound twice. -/
structure Context (α : Type := Value) where
  rows : List (String × α)
  distinct : (Rows.keys rows).Nodup

namespace Context

variable {α τ : Type}

def empty : Context α :=
  ⟨[], List.nodup_nil⟩

/-- Binds a name to a value, at whatever type it was bound before. -/
def bind (context : Context α) (name : String) (value : α) : Context α :=
  ⟨Rows.insert name value context.rows, Rows.nodup_keys_insert context.distinct⟩

/-- Binds a name to a value that has other holders. -/
def bindShared (context : Context α) (name : String) (value : α) : Context α :=
  context.bind name value

/-- The bound names in the order of their first binding. -/
def names (context : Context α) : List String :=
  Rows.keys context.rows

def contains (context : Context α) (name : String) : Bool :=
  Rows.contains name context.rows

section

variable [Typed α τ] [DecidableEq τ]

/-- The value of a name, if it is bound at the given type. -/
def get? (context : Context α) (name : String) (type : τ) : Option α :=
  match Rows.find? name context.rows with
  | none => none
  | some value => if Typed.type value = type then some value else none

/-- The value of a name at a type, or why there is none. -/
def require (context : Context α) (name : String) (type : τ) : Except CaseFailure α :=
  match Rows.find? name context.rows with
  | none => .error (.unbound name)
  | some value =>
      if Typed.type value = type then .ok value
      else .error (.wrongType name (Typed.typeName α type))

end

def displayed (context : Context α) : String :=
  "TestContext \x7b bound: " ++ Text.displayedList context.names ++ " \x7d"

end Context

end SuiteOutline
