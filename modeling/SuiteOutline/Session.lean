import SuiteOutline.CommandLine
import SuiteOutline.Loading
import SuiteOutline.Program
import SuiteOutline.Serialised

/-!
# Sessions

A request is carried out over files and leaves a transcript: how it ended, the lines that it wrote
as its result, and the lines that it wrote beside it. A failure before anything was compiled
leaves no result at all. A check goes on after a document that fails, and fails at its end.
-/

namespace SuiteOutline

inductive ExitStatus where
  | success
  | failure
  | misuse
  deriving DecidableEq

def ExitStatus.code : ExitStatus → UInt32
  | .success => 0
  | .failure => 1
  | .misuse => 2

/-- What a session leaves: its status, the lines of its result, and the lines beside it. -/
structure Transcript where
  status : ExitStatus
  output : List String
  diagnostics : List String
  deriving DecidableEq

def lineText (lines : List String) : String :=
  String.join (lines.map fun line => line ++ "\n")

/-- The lines that tell of a failure: the report, what lies beneath it, and the hint. -/
def Report.diagnostics (report : Report) : List String :=
  ("error: " ++ report.text) :: report.causes.map (fun cause => "caused by: " ++ cause)
    ++ report.help.toList.map fun help => "help: " ++ help

def DroppedEntry.warning (entry : DroppedEntry) : String :=
  "warning: dropped " ++ entry.text

def Transcript.ofReport (report : Report) : Transcript :=
  ⟨.failure, [], report.diagnostics⟩

/-! ## Attempts -/

/-- What came of one document: the messages of its compilation, and its program or a report. -/
structure Attempt where
  messages : List String
  result : Except Report Program

namespace Attempt

def failed (attempt : Attempt) : Bool :=
  match attempt.result with
  | .error _ => true
  | .ok _ => false

/-- The lines beside the result: messages, and then warnings or the report. -/
def diagnostics (attempt : Attempt) : List String :=
  attempt.messages ++
    match attempt.result with
    | .error report => report.diagnostics
    | .ok program => program.dropped.map DroppedEntry.warning

def transcript (attempt : Attempt) (written : Program → String) : Transcript :=
  match attempt.result with
  | .error _ => ⟨.failure, [], attempt.diagnostics⟩
  | .ok program => ⟨.success, [written program], attempt.diagnostics⟩

def checkLine (path : String) (attempt : Attempt) : String :=
  (if attempt.failed then "✗ " else "✓ ") ++ path

end Attempt

def checkSummary (count failures : Nat) : List String :=
  ["", "Checked " ++ toString count ++ " spec files"]
    ++ if failures = 0 then [] else [toString failures ++ " failed"]

def checkReport (count failures : Nat) : Report :=
  Report.ofMessage .format
    (toString failures ++ " of " ++ toString count ++ " spec files failed to compile")

def checkTranscript (attempts : List (String × Attempt)) : Transcript :=
  let failures := attempts.countP fun (_, attempt) => attempt.failed
  let output := attempts.map (fun (path, attempt) => attempt.checkLine path)
    ++ checkSummary attempts.length failures
  let diagnostics := attempts.flatMap fun (_, attempt) => attempt.diagnostics
  if failures = 0 then ⟨.success, output, diagnostics⟩
  else ⟨.failure, output, diagnostics ++ (checkReport attempts.length failures).diagnostics⟩

/-! ## Requests -/

def versionLine : String :=
  "specsuite 0.1.0"

def usageLines : List String :=
  ["Compile declarative test-suite specs into framework registration code.",
    "",
    "Usage: specsuite [--config PATH] [--debug] [-v...] COMMAND",
    "",
    "Commands:",
    "  emit FILE      print the generated program of a spec document",
    "  blocks FILE    print the compiled blocks of a spec document",
    "  check [PATH]   compile every spec document below a directory, by default specs"]

namespace Files

variable {m : Type → Type} [Monad m] (files : Files m)

def attempt (options : Options) (path : String) : m Attempt := do
  match ← files.loadSpec path with
  | .error report => pure ⟨[], .error report⟩
  | .ok spec =>
      let compiled := options.program spec
      pure ⟨options.messages compiled.notes, compiled.result.mapError CompileError.report⟩

def attemptAll (options : Options) : List String → m (List (String × Attempt))
  | [] => pure []
  | path :: rest => do
      let first ← files.attempt options path
      let others ← attemptAll options rest
      pure ((path, first) :: others)

def perform (options : Options) : Command → m Transcript
  | .emit path => do
      let attempt ← files.attempt options path
      pure (attempt.transcript Program.text)
  | .blocks path => do
      let attempt ← files.attempt options path
      pure (attempt.transcript fun program => (blocksToJson program.blocks).pretty)
  | .check directory => do
      match ← files.discover directory with
      | .error report => pure (.ofReport report)
      | .ok paths => do
          let attempts ← files.attemptAll options paths
          pure (checkTranscript attempts)

/-- The options that flags ask for: those of their document, with debugging on if either says so. -/
def optionsOf (flags : Flags) : m (Except Report Options) := do
  match flags.config with
  | none => pure (.ok { debug := flags.debug })
  | some path =>
      match ← files.loadOptions path with
      | .error report => pure (.error report)
      | .ok options => pure (.ok { options with debug := options.debug || flags.debug })

def carryOut : Request → m Transcript
  | .version => pure ⟨.success, [versionLine], []⟩
  | .help => pure ⟨.success, usageLines, []⟩
  | .misuse => pure ⟨.misuse, [], usageLines⟩
  | .run flags command => do
      match ← files.optionsOf flags with
      | .error report => pure (.ofReport report)
      | .ok options => files.perform options command

end Files

end SuiteOutline
