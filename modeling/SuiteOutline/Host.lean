import SuiteOutline.Report

/-!
# Script hosts

A host turns the text of a program into a unit, and invokes a unit against a scope. It may refuse
a text, and an invocation may fail; either way the host says why.
-/

namespace SuiteOutline

/-- How a host answers; `σ` is its state. -/
structure ScriptHost (σ unit scope : Type) where
  compile : String → σ → Except Cause unit × σ
  invoke : unit → σ → scope → Except Cause Unit × σ × scope

inductive HostError where
  | refused (cause : Cause)
  | failed (cause : Cause)

def HostError.report : HostError → Report
  | .refused cause =>
      (Report.ofMessage .host "the generated program failed to compile").withCause cause
  | .failed cause =>
      (Report.ofMessage .host "the generated program failed when invoked").withCause cause

/-- Compiles a text once, and if the host accepts it invokes the unit once. -/
def ScriptHost.execute {σ unit scope : Type} (host : ScriptHost σ unit scope) (program : String)
    (state : σ) (ambient : scope) : Except HostError Unit × σ × scope :=
  match host.compile program state with
  | (.error cause, state) => (.error (.refused cause), state, ambient)
  | (.ok compiled, state) =>
      match host.invoke compiled state ambient with
      | (.error cause, state, ambient) => (.error (.failed cause), state, ambient)
      | (.ok (), state, ambient) => (.ok (), state, ambient)

/-! ## Balanced texts -/

/-- Where a scan of a text stands: the brackets that are open, innermost first, and whether it is
inside quotes and behind a backslash there. -/
structure BracketScan where
  opened : List Char
  quoted : Bool
  escaped : Bool
  deriving DecidableEq

namespace BracketScan

def start : BracketScan :=
  ⟨[], false, false⟩

def opening? : Char → Option Char
  | ')' => some '('
  | '\x7d' => some '\x7b'
  | ']' => some '['
  | _ => none

def isOpening (character : Char) : Bool :=
  character == '(' || character == '\x7b' || character == '['

/-- One character; a closing bracket that closes nothing open stops the scan. -/
def step (scan : BracketScan) (character : Char) : Option BracketScan :=
  if scan.quoted then
    if scan.escaped then some { scan with escaped := false }
    else if character == '\\' then some { scan with escaped := true }
    else if character == '\'' then some { scan with quoted := false }
    else some scan
  else if character == '\'' then some { scan with quoted := true }
  else if isOpening character then some { scan with opened := character :: scan.opened }
  else
    match opening? character with
    | none => some scan
    | some wanted =>
        match scan.opened with
        | [] => none
        | innermost :: others =>
            if innermost == wanted then some { scan with opened := others } else none

def steps (scan : BracketScan) : List Char → Option BracketScan
  | [] => some scan
  | character :: rest =>
      match scan.step character with
      | none => none
      | some next => next.steps rest

end BracketScan

/-- Whether every bracket of a text closes the latest open one, and all brackets and quotes are
closed at its end. -/
def isBalanced (text : String) : Bool :=
  match BracketScan.start.steps text.toList with
  | none => false
  | some scan => scan.opened.isEmpty && !scan.quoted

/-! ## A host that records -/

/-- What a recording host was asked: the texts that it accepted, and how often it was invoked. -/
structure HostRecord where
  compiled : List String
  invocations : Nat

namespace HostRecord

def empty : HostRecord :=
  ⟨[], 0⟩

/-- A host that accepts balanced texts. Its scope collects what was invoked against it, unless
invocations are made to fail. -/
def host (failInvoke : Bool) : ScriptHost HostRecord String (List String) where
  compile program record :=
    if isBalanced program then
      (.ok program, { record with compiled := record.compiled ++ [program] })
    else (.error (Cause.ofText ("unbalanced program: " ++ program)), record)
  invoke unit record scope :=
    let invoked := { record with invocations := record.invocations + 1 }
    if failInvoke then (.error (Cause.ofText "describe is not defined"), invoked, scope)
    else (.ok (), invoked, scope ++ [unit])

end HostRecord

end SuiteOutline
