import SuiteOutline.Context

/-!
# Callables

A callable is the source text of a hook or a case, with the role that it plays among the hooks of
a suite. It may carry a live body, which runs against a test context. Two callables are the same
if they have the same source and the same role; bodies are never compared.
-/

namespace SuiteOutline

variable {ν : Type}

/-- The role of a callable among a suite's hooks. -/
inductive HookTag where
  | before
  | after
  | unmarked
  deriving DecidableEq

namespace HookTag

def beforeOpening : List Char :=
  "function before".toList

def afterOpening : List Char :=
  "function after".toList

def sniff (source : String) : HookTag :=
  if beforeOpening.isPrefixOf source.toList then .before
  else if afterOpening.isPrefixOf source.toList then .after
  else .unmarked

/-- The role's name in serialised data. -/
def name : HookTag → String
  | .before => "before"
  | .after => "after"
  | .unmarked => "unmarked"

/-- The role's name in logs. -/
def displayed : HookTag → String
  | .before => "Before"
  | .after => "After"
  | .unmarked => "Unmarked"

end HookTag

/-- Computations that read and change a context, and succeed or fail, as live bodies do. -/
abbrev TestM (ν : Type) := ExceptT CaseFailure (StateM (Context ν))

structure Callable (ν : Type := Value) where
  source : String
  tag : HookTag
  body : Option (TestM ν Unit)

namespace Callable

def ofSource (source : String) : Callable ν :=
  ⟨source, HookTag.sniff source, none⟩

def tagged (callable : Callable ν) (tag : HookTag) : Callable ν :=
  { callable with tag := tag }

def before (source : String) : Callable ν :=
  (ofSource source).tagged .before

def after (source : String) : Callable ν :=
  (ofSource source).tagged .after

def withBody (callable : Callable ν) (body : TestM ν Unit) : Callable ν :=
  { callable with body := some body }

def isBefore (callable : Callable ν) : Bool :=
  callable.tag == .before

def isAfter (callable : Callable ν) : Bool :=
  callable.tag == .after

/-- Runs the live body; a callable without one fails and leaves the context alone. -/
def invoke (callable : Callable ν) : TestM ν Unit :=
  match callable.body with
  | some body => body
  | none => throw .noBody

/-- Whether two callables have the same source and role. -/
def same (first second : Callable ν) : Bool :=
  first.source == second.source && first.tag == second.tag

def displayed (callable : Callable ν) : String :=
  "Callable \x7b source: " ++ Text.displayed callable.source
    ++ ", tag: " ++ callable.tag.displayed
    ++ ", live: " ++ (if callable.body.isSome then "true" else "false") ++ " \x7d"

end Callable

end SuiteOutline
