import SuiteOutline.Partition
import SuiteOutline.Script

/-!
# Notes of a compilation

With debugging on, a compilation notes what it dropped, the partition of every suite, and the
texts that it produced. Notes only observe: nothing reads them back.
-/

namespace SuiteOutline

variable {ν : Type}

inductive Note (ν : Type := Value) where
  | dropped (entry : DroppedEntry)
  | partitioned (suite : String) (depth : UInt64) (partition : Partition ν)
  | compiled (suite : String) (block : Block ν)
  | returned (depth : UInt64) (blocks : List (Block ν))
  | finished (blocks : List (Block ν))

namespace Note

def bucketLines (dialect : Dialect) (partition : Partition ν) : String :=
  "\n  modules: " ++ Text.displayedList partition.modules
    ++ "\n  dependencies: " ++ Text.displayedList partition.dependencies
    ++ "\n  before: " ++ Text.displayedList (partition.before.map Callable.source)
    ++ "\n  after: " ++ Text.displayedList (partition.after.map Callable.source)
    ++ "\n  nested: " ++ Text.displayedList (partition.nested.map (Script.block dialect))

/-- The note in words; program texts in it are written in a dialect. -/
def text (dialect : Dialect) : Note ν → String
  | .dropped entry => "dropped " ++ entry.text
  | .partitioned suite depth partition =>
      "suite '" ++ suite ++ "' (depth " ++ toString depth.toNat ++ ")"
        ++ bucketLines dialect partition
  | .compiled suite block =>
      "fragment for '" ++ suite ++ "':\n  " ++ Script.block dialect block
  | .returned depth blocks =>
      "returning fragment (depth " ++ toString depth.toNat ++ "):\n  "
        ++ Script.blocks dialect blocks
  | .finished blocks => "final program:\n  " ++ Script.blocks dialect blocks

end Note

/-- What a buffer that was empty holds after messages, each on lines of its own. The line end
before a message is left out while the buffer holds no character. -/
def bufferMessages (messages : List String) : String :=
  messages.foldl (fun buffer message =>
    if buffer.isEmpty then message else buffer ++ "\n" ++ message) ""

end SuiteOutline
