import SuiteOutline.Compile
import SuiteOutline.Framework
import SuiteOutline.Host

/-!
# Programs

A program is a compiled spec with its text. It is handed to a script host or registered with a
framework only when the whole spec has compiled, so a failure anywhere leaves both untouched.
-/

namespace SuiteOutline

variable {ν : Type}

/-- A compiled spec: its text, its blocks, and the entries that were dropped. -/
structure Program (ν : Type := Value) where
  text : String
  blocks : List (Block ν)
  dropped : List DroppedEntry

/-- What compiling at a depth leads to. -/
inductive Outcome (ν : Type := Value) where
  | executed (program : Program ν)
  | fragment (text : String)

inductive RunError where
  | compile (error : CompileError)
  | host (error : HostError)

def RunError.report : RunError → Report
  | .compile error => error.report
  | .host error => error.report

structure Noted (α : Type) (ν : Type := Value) where
  result : α
  notes : List (Note ν)

namespace Options

variable (options : Options)

/-- The notes as messages: there are none unless debugging is on. -/
def messages (notes : List (Note ν)) : List String :=
  if options.debug then notes.map (Note.text options.dialect) else []

/-- Compiles a spec as if it stood at a depth. -/
def compileBlocks (spec : Spec ν) (depth : UInt64) : Run (List (Block ν)) ν :=
  spec.compile options [] depth

def fragment (spec : Spec ν) (depth : UInt64) : Noted (Except CompileError String) ν :=
  let run := options.compileBlocks spec depth
  match run.outcome with
  | .error error => ⟨.error error, run.notes⟩
  | .ok blocks =>
      ⟨.ok (Script.blocks options.dialect blocks), run.notes ++ [.returned depth blocks]⟩

def program (spec : Spec ν) : Noted (Except CompileError (Program ν)) ν :=
  let run := options.compileBlocks spec 0
  match run.outcome with
  | .error error => ⟨.error error, run.notes⟩
  | .ok blocks =>
      ⟨.ok ⟨Script.blocks options.dialect blocks, blocks, run.dropped⟩,
        run.notes ++ [.finished blocks]⟩

variable {σ unit scope : Type}

def run (host : ScriptHost σ unit scope) (spec : Spec ν) (state : σ) (ambient : scope) :
    Noted (Except RunError (Program ν)) ν × σ × scope :=
  let compiled := options.program spec
  match compiled.result with
  | .error error => (⟨.error (.compile error), compiled.notes⟩, state, ambient)
  | .ok program =>
      match host.execute program.text state ambient with
      | (.error error, state, ambient) => (⟨.error (.host error), compiled.notes⟩, state, ambient)
      | (.ok (), state, ambient) => (⟨.ok program, compiled.notes⟩, state, ambient)

/-- Compiles a spec at a depth. At depth zero its program is run through the host; anywhere else
the host is left alone. -/
def compileAt (host : ScriptHost σ unit scope) (spec : Spec ν) (depth : UInt64) (state : σ)
    (ambient : scope) : Noted (Except RunError (Outcome ν)) ν × σ × scope :=
  if depth = 0 then
    let (ran, state, ambient) := options.run host spec state ambient
    (⟨ran.result.map .executed, ran.notes⟩, state, ambient)
  else
    let written := options.fragment spec depth
    (⟨(written.result.mapError .compile).map .fragment, written.notes⟩, state, ambient)

def register (framework : Framework σ ν) (spec : Spec ν) (state : σ) :
    Noted (Except CompileError (Program ν)) ν × σ :=
  let compiled := options.program spec
  match compiled.result with
  | .error error => (⟨.error error, compiled.notes⟩, state)
  | .ok program => (compiled, framework.register program.blocks state)

end Options

end SuiteOutline
