/-!
# Options of a compilation

Every option has a default, so a document of options only names what it changes.
-/

namespace SuiteOutline

/-- What becomes of an entry that has no place. -/
inductive EntryPolicy where
  | warn
  | reject
  deriving DecidableEq

def EntryPolicy.name : EntryPolicy → String
  | .warn => "warn"
  | .reject => "reject"

/-- The names under which a test framework offers what a program calls. -/
structure Dialect where
  describe : String := "describe"
  it : String := "it"
  beforeEach : String := "beforeEach"
  afterEach : String := "afterEach"
  module : String := "module"
  inject : String := "inject"
  /-- The character on both sides of a dependency's name when it names a parameter. -/
  marker : Char := '_'
  deriving DecidableEq

structure Options where
  /-- Whether the steps of a compilation are noted. -/
  debug : Bool := false
  /-- How many suites may enclose a spec. -/
  maxDepth : UInt64 := 256
  unknownEntries : EntryPolicy := .warn
  /-- Whether the names of dependencies have to be names of variables. -/
  validateIdentifiers : Bool := true
  dialect : Dialect := {}
  deriving DecidableEq

end SuiteOutline
