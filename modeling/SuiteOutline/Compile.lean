import SuiteOutline.Note
import SuiteOutline.Spec

/-!
# Compiling specs to blocks

One pass over a spec, label by label and entry by entry in their order, gives a block for every
label. It stops at the first failure. What was noted up to there stays noted, and what was dropped
is reported beside the blocks: first what was dropped in nested suites, then what was dropped in
the suite itself.
-/

namespace SuiteOutline

variable {ν : Type}

/-- What is bound to a label that cannot be compiled. -/
inductive Misfit where
  | sequence
  | mapping
  | other (kind : String)
  deriving DecidableEq

def Misfit.shape : Misfit → String
  | .sequence => "sequence"
  | .mapping => "mapping"
  | .other kind => kind

def Misfit.help : LabelKind → Misfit → String
  | .case, .sequence =>
      "labels starting with 'should' are cases and take a callable; rename the label to make it a suite"
  | _, .mapping => "wrap nested suites in a sequence: `Label: [ \x7b nested: ... \x7d ]`"
  | _, _ => "bind the label to a callable, or a suite label to a sequence of entries"

inductive CompileError where
  | tooDeep (limit : UInt64) (path : List String)
  | unusable (kind : LabelKind) (path : List String) (found : Misfit)
  | badReference (index : Nat) (suite : String) (cause : ReferenceError)
  | unplaced (entry : DroppedEntry)
  deriving DecidableEq

/-- A chain of labels, outermost first, in words. -/
def pathText (path : List String) : String :=
  " > ".intercalate path

def CompileError.report : CompileError → Report
  | .tooDeep limit path =>
      (Report.ofMessage .format
        ("spec nesting exceeds " ++ toString limit.toNat ++ " levels at '" ++ pathText path
          ++ "'")).withHelp
        "raise max_depth in the compile options if this nesting is intended"
  | .unusable kind path found =>
      (Report.ofMessage .format
        ("expected sequence or callable for " ++ kind.name ++ " '" ++ pathText path ++ "', found "
          ++ found.shape)).withHelp (found.help kind)
  | .badReference index suite cause =>
      (Report.ofMessage .reference
        ("entry " ++ toString index ++ " of '" ++ suite ++ "' is not a usable reference")).withCause
        (.report cause.report)
  | .unplaced entry =>
      (Report.ofMessage .unrecognizedEntry entry.text).withHelp
        "suite entries are reference strings, callables, or nested mappings"

/-- The result of a part of a compilation: a value or the first failure, with all that was noted
and dropped on the way. -/
structure Run (α : Type) (ν : Type := Value) where
  outcome : Except CompileError α
  notes : List (Note ν)
  dropped : List DroppedEntry

namespace Run

variable {α β : Type}

def ok (value : α) : Run α ν :=
  ⟨.ok value, [], []⟩

def fail (error : CompileError) : Run α ν :=
  ⟨.error error, [], []⟩

/-- One part after another; the second is left out if the first fails. -/
def andThen (first : Run α ν) (next : α → Run β ν) : Run β ν :=
  match first.outcome with
  | .error error => ⟨.error error, first.notes, first.dropped⟩
  | .ok value =>
      let second := next value
      ⟨second.outcome, first.notes ++ second.notes, first.dropped ++ second.dropped⟩

def map (run : Run α ν) (function : α → β) : Run β ν :=
  ⟨run.outcome.map function, run.notes, run.dropped⟩

def report (value : α) (notes : List (Note ν)) (dropped : List DroppedEntry) : Run α ν :=
  ⟨.ok value, notes, dropped⟩

theorem exists_of_andThen_ok {first : Run α ν} {next : α → Run β ν} {result : β}
    (succeeded : (first.andThen next).outcome = .ok result) :
    ∃ value, first.outcome = .ok value ∧ (next value).outcome = .ok result := by
  rw [andThen] at succeeded
  cases outcome : first.outcome with
  | error error =>
      simp only [outcome] at succeeded
      cases succeeded
  | ok value =>
      simp only [outcome] at succeeded
      exact ⟨value, rfl, succeeded⟩

theorem exists_of_map_ok {run : Run α ν} {function : α → β} {result : β}
    (succeeded : (run.map function).outcome = .ok result) :
    ∃ value, run.outcome = .ok value ∧ result = function value := by
  rw [map] at succeeded
  cases outcome : run.outcome with
  | error error =>
      rw [outcome] at succeeded
      cases succeeded
  | ok value =>
      rw [outcome] at succeeded
      cases succeeded
      exact ⟨value, rfl, rfl⟩

end Run

/-- An entry whose nested spec, if it is one, has been compiled. -/
inductive Piece (ν : Type := Value) where
  | reference (raw : String)
  | hook (callable : Callable ν)
  | nested (blocks : Run (List (Block ν)) ν)
  | other (kind : String)

def Piece.ofEntry (compileNested : Spec ν → Run (List (Block ν)) ν) : Entry ν → Piece ν
  | .reference raw => .reference raw
  | .hook callable => .hook callable
  | .suite spec => .nested (compileNested spec)
  | .other kind => .other kind

namespace Partition

/-- An entry without a place is recorded, or fails the compilation, as the policy says. -/
def drop (partition : Partition ν) (policy : EntryPolicy) (entry : DroppedEntry) :
    Run (Partition ν) ν :=
  match policy with
  | .reject => .fail (.unplaced entry)
  | .warn => .ok (partition.addDropped entry)

def addPiece (options : Options) (suite : String) (index : Nat) (partition : Partition ν) :
    Piece ν → Run (Partition ν) ν
  | .reference raw =>
      let reference := Reference.decode raw
      match reference.validate options.validateIdentifiers with
      | .error cause => .fail (.badReference index suite cause)
      | .ok () => .ok (partition.addReference reference)
  | .hook callable =>
      match partition.addHook? callable with
      | some placed => .ok placed
      | none =>
          partition.drop options.unknownEntries ⟨suite, index, "callable", .hooksTaken⟩
  | .nested blocks => blocks.map partition.addNested
  | .other kind => partition.drop options.unknownEntries ⟨suite, index, kind, .unsupportedShape⟩

def addPieces (options : Options) (suite : String) (index : Nat) (partition : Partition ν) :
    List (Piece ν) → Run (Partition ν) ν
  | [] => .ok partition
  | piece :: rest =>
      (addPiece options suite index partition piece).andThen fun extended =>
        addPieces options suite (index + 1) extended rest

def ofPieces (options : Options) (suite : String) (pieces : List (Piece ν)) : Run (Partition ν) ν :=
  addPieces options suite 0 empty pieces

def ofEntries (options : Options) (suite : String) (compileNested : Spec ν → Run (List (Block ν)) ν)
    (entries : List (Entry ν)) : Run (Partition ν) ν :=
  ofPieces options suite (entries.map (Piece.ofEntry compileNested))

end Partition

/-- Completes a suite from its partition: reports what was dropped, and notes what was dropped,
the buckets and the block. -/
def finishSuite (label suite : String) (depth : UInt64) (partition : Partition ν) :
    Run (Block ν) ν :=
  let block := Block.ofItems label partition.items
  Run.report block
    (partition.dropped.map Note.dropped
      ++ [.partitioned suite depth partition, .compiled suite block])
    partition.dropped

mutual

/-- Compiles a spec below the suites of a path. Only the number of those suites counts against
the limit; the depth is for notes alone. -/
def Spec.compile (options : Options) (path : List String) (depth : UInt64) :
    Spec ν → Run (List (Block ν)) ν
  | .mk rows =>
      if options.maxDepth.toNat < path.length then .fail (.tooDeep options.maxDepth path)
      else compileRows options path depth rows

def compileRows (options : Options) (path : List String) (depth : UInt64) :
    List (String × Binding ν) → Run (List (Block ν)) ν
  | [] => .ok []
  | (label, binding) :: rest =>
      (binding.compile options path depth label).andThen fun block =>
        (compileRows options path depth rest).map (block :: ·)

def Binding.compile (options : Options) (path : List String) (depth : UInt64) (label : String) :
    Binding ν → Run (Block ν) ν
  | .callable callable => .ok (Block.ofCallable label callable)
  | .sequence entries =>
      if isCaseLabel label then .fail (.unusable .case (path ++ [label]) .sequence)
      else
        let inner := path ++ [label]
        (Partition.ofPieces options (pathText inner)
          (compileEntries options inner depth entries)).andThen
          (finishSuite label (pathText inner) depth)
  | .mapping _ => .fail (.unusable (LabelKind.ofLabel label) (path ++ [label]) .mapping)
  | .other kind => .fail (.unusable (LabelKind.ofLabel label) (path ++ [label]) (.other kind))

def compileEntries (options : Options) (path : List String) (depth : UInt64) :
    List (Entry ν) → List (Piece ν)
  | [] => []
  | entry :: rest =>
      entry.compile options path depth :: compileEntries options path depth rest

def Entry.compile (options : Options) (path : List String) (depth : UInt64) : Entry ν → Piece ν
  | .reference raw => .reference raw
  | .hook callable => .hook callable
  | .suite spec => .nested (spec.compile options path (depth + 1))
  | .other kind => .other kind

end

theorem Entry.compile_eq (options : Options) (path : List String) (depth : UInt64)
    (entry : Entry ν) :
    entry.compile options path depth
      = Piece.ofEntry (Spec.compile options path (depth + 1)) entry := by
  cases entry <;> simp [Entry.compile, Piece.ofEntry]

theorem compileEntries_eq (options : Options) (path : List String) (depth : UInt64)
    (entries : List (Entry ν)) :
    compileEntries options path depth entries
      = entries.map (Piece.ofEntry (Spec.compile options path (depth + 1))) := by
  induction entries with
  | nil => simp [compileEntries]
  | cons entry rest ih => simp [compileEntries, ih, Entry.compile_eq]

end SuiteOutline
