import SuiteOutline.Text.Name
import SuiteOutline.Report

/-!
# References

A string entry of a suite names a module to load, a dependency to inject, or both. Its last
character tells which: a plus sign names both, a colon names a module, anything else belongs to
the name of a dependency. One character is taken off and never more.
-/

namespace SuiteOutline

inductive Role where
  | module
  | dependency
  | moduleAndDependency
  deriving DecidableEq

namespace Role

def loadsModule : Role → Bool
  | .module => true
  | .dependency => false
  | .moduleAndDependency => true

def injects : Role → Bool
  | .module => false
  | .dependency => true
  | .moduleAndDependency => true

def name : Role → String
  | .module => "module"
  | .dependency => "dependency"
  | .moduleAndDependency => "module_and_dependency"

def words : Role → String
  | .module => "module"
  | .dependency => "dependency"
  | .moduleAndDependency => "module and dependency"

/-- The characters that mark the role at the end of an entry. -/
def suffix : Role → List Char
  | .module => [':']
  | .dependency => []
  | .moduleAndDependency => ['+']

end Role

/-- A decoded string entry. -/
structure Reference where
  name : String
  role : Role
  deriving DecidableEq

inductive ReferenceError where
  | emptyName (role : Role)
  | notAName (name : String)
  deriving DecidableEq

def ReferenceError.report : ReferenceError → Report
  | .emptyName role =>
      (Report.ofMessage .reference ("empty " ++ role.words ++ " name")).withHelp
        "a dependency needs a name, written before any '+' suffix"
  | .notAName name =>
      (Report.ofMessage .reference
        ("dependency '" ++ name ++ "' is not a valid identifier")).withHelp
        "dependency names become variable names in the generated suite"

namespace Reference

/-- Reads an entry given backwards, last character first. -/
def decodeReversed : List Char → Reference
  | '+' :: rest => ⟨String.ofList rest.reverse, .moduleAndDependency⟩
  | ':' :: rest => ⟨String.ofList rest.reverse, .module⟩
  | characters => ⟨String.ofList characters.reverse, .dependency⟩

def decode (raw : String) : Reference :=
  decodeReversed raw.toList.reverse

def encode (reference : Reference) : String :=
  String.ofList (reference.name.toList ++ reference.role.suffix)

/-- Checks that a reference can be written: what is injected has a name, and if names are checked
it is one that a variable may have. Modules may be called anything. -/
def validate (reference : Reference) (checkNames : Bool) : Except ReferenceError Unit :=
  if reference.role.injects && reference.name.isEmpty then .error (.emptyName reference.role)
  else if checkNames && reference.role.injects && !Text.isName reference.name then
    .error (.notAName reference.name)
  else .ok ()

end Reference

end SuiteOutline
