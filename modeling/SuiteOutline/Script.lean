import SuiteOutline.Block
import SuiteOutline.Options
import SuiteOutline.Text.Literal

/-!
# Programs as text

The text that registers blocks with a test framework. Sources of callables stand in it as they
are; labels and names of modules stand in it as literals. The text of several blocks is their
texts one after the other.
-/

namespace SuiteOutline.Script

open Text

variable (dialect : Dialect)

def kindName : LabelKind → String
  | .suite => dialect.describe
  | .case => dialect.it

/-- The parameter through which a dependency arrives. -/
def parameter (name : String) : String :=
  dialect.marker.toString ++ name ++ dialect.marker.toString

def registerCallable (kind : LabelKind) (label : String) (callable : Callable ν) : String :=
  kindName dialect kind ++ "(" ++ Literal.quote label ++ ", " ++ callable.source ++ ");"

def openSuite (label : String) : String :=
  dialect.describe ++ "(" ++ Literal.quote label ++ ", function() \x7b"

def closeSuite : String :=
  "\x7d);"

def loadModule (name : String) : String :=
  dialect.module ++ "(" ++ Literal.quote name ++ ");"

/-- One hook that loads modules in order. -/
def loadModules (names : List String) : String :=
  dialect.beforeEach ++ "(function() \x7b" ++ String.join (names.map (loadModule dialect)) ++ "\x7d);"

/-- Copies a parameter into the variable of its dependency. -/
def assignment (name : String) : String :=
  name ++ " = " ++ parameter dialect name ++ ";"

/-- Declares a variable for each dependency, and one hook that fills them. -/
def injectAll (names : List String) : String :=
  "var " ++ ",".intercalate names ++ ";" ++ dialect.beforeEach ++ "(" ++ dialect.inject
    ++ "(function(" ++ ",".intercalate (names.map (parameter dialect)) ++ ") \x7b"
    ++ String.join (names.map (assignment dialect)) ++ "\x7d));"

def beforeHook (hook : Callable ν) : String :=
  dialect.beforeEach ++ "(" ++ hook.source ++ ");"

def afterHook (hook : Callable ν) : String :=
  dialect.afterEach ++ "(" ++ hook.source ++ ");"

mutual

def block : Block ν → String
  | .mk kind label (.callable callable) => registerCallable dialect kind label callable
  | .mk _ label (.items items) => openSuite dialect label ++ itemTexts items ++ closeSuite

def itemTexts : List (Item ν) → String
  | [] => ""
  | first :: rest => item first ++ itemTexts rest

def item : Item ν → String
  | .modules names => loadModules dialect names
  | .inject names => injectAll dialect names
  | .before hook => beforeHook dialect hook
  | .after hook => afterHook dialect hook
  | .nested nested => block nested

end

def blocks (blocks : List (Block ν)) : String :=
  String.join (blocks.map (block dialect))

end SuiteOutline.Script
