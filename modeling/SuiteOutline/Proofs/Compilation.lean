import SuiteOutline.Program
import SuiteOutline.Proofs.Position

/-!
# What a compilation comes to

A compilation visits the positions of its spec in document order.  It fails with the error of the
first position that offends; if none does, it gives the blocks that the spec stands for and reports
every entry without a place.  Neither the blocks nor the reported entries depend on the options or
on the depth.
-/

namespace SuiteOutline

variable {ν : Type}

/-! ## Blocks and records of a spec -/

mutual

/-- The blocks that a spec without offending positions stands for. -/
def Spec.blocks : Spec ν → List (Block ν)
  | .mk rows => rowBlocks rows

def rowBlocks : List (String × Binding ν) → List (Block ν)
  | [] => []
  | (label, binding) :: rest => binding.block label :: rowBlocks rest

/-- The block of a label.  A label bound to no callable and no sequence offends, and the block
given here is never used. -/
def Binding.block (label : String) : Binding ν → Block ν
  | .callable callable => Block.ofCallable label callable
  | .sequence entries =>
      Block.ofItems label (Partition.sorted "" (entryBlocks entries) entries).items
  | .mapping _ => Block.ofItems label []
  | .other _ => Block.ofItems label []

def entryBlocks : List (Entry ν) → List (Block ν)
  | [] => []
  | entry :: rest => entry.blocks ++ entryBlocks rest

def Entry.blocks : Entry ν → List (Block ν)
  | .reference _ => []
  | .hook _ => []
  | .suite spec => spec.blocks
  | .other _ => []

end

mutual

def Spec.dropped (path : List String) : Spec ν → List DroppedEntry
  | .mk rows => rowsDropped path rows

def rowsDropped (path : List String) : List (String × Binding ν) → List DroppedEntry
  | [] => []
  | (label, binding) :: rest => binding.dropped (path ++ [label]) ++ rowsDropped path rest

/-- The records of the entries without a place in a suite: those of nested suites come first. -/
def Binding.dropped (path : List String) : Binding ν → List DroppedEntry
  | .callable _ => []
  | .sequence entries => entriesDropped path entries ++ Entries.dropped (pathText path) entries
  | .mapping _ => []
  | .other _ => []

def entriesDropped (path : List String) : List (Entry ν) → List DroppedEntry
  | [] => []
  | entry :: rest => entry.dropped path ++ entriesDropped path rest

def Entry.dropped (path : List String) : Entry ν → List DroppedEntry
  | .reference _ => []
  | .hook _ => []
  | .suite spec => spec.dropped path
  | .other _ => []

end

theorem Spec.blocks_eq_map (spec : Spec ν) :
    spec.blocks = spec.rows.map fun (label, binding) => binding.block label := by
  obtain ⟨rows⟩ := spec
  rw [Spec.blocks, Spec.rows]
  induction rows with
  | nil => rw [rowBlocks, List.map_nil]
  | cons row rest ih => rw [rowBlocks, ih, List.map_cons]

theorem entryBlocks_eq_flatMap (entries : List (Entry ν)) :
    entryBlocks entries = entries.flatMap Entry.blocks := by
  induction entries with
  | nil => rw [entryBlocks, List.flatMap_nil]
  | cons entry rest ih => rw [entryBlocks, ih, List.flatMap_cons]

theorem Spec.dropped_eq_flatMap (path : List String) (spec : Spec ν) :
    spec.dropped path = spec.rows.flatMap fun (label, binding) =>
      binding.dropped (path ++ [label]) := by
  obtain ⟨rows⟩ := spec
  rw [Spec.dropped, Spec.rows]
  induction rows with
  | nil => rw [rowsDropped, List.flatMap_nil]
  | cons row rest ih => rw [rowsDropped, ih, List.flatMap_cons]

theorem entriesDropped_eq_flatMap (path : List String) (entries : List (Entry ν)) :
    entriesDropped path entries = entries.flatMap (Entry.dropped path) := by
  induction entries with
  | nil => rw [entriesDropped, List.flatMap_nil]
  | cons entry rest ih => rw [entriesDropped, ih, List.flatMap_cons]

/-! ## Settled runs -/

namespace Run

variable {α β : Type} {options : Options}

/-- What a run gives its caller: the value with the dropped entries, or the failure alone. -/
def result (run : Run α ν) : Except CompileError (α × List DroppedEntry) :=
  run.outcome.map fun value => (value, run.dropped)

theorem result_ok_iff {run : Run α ν} {value : α} {dropped : List DroppedEntry} :
    run.result = .ok (value, dropped) ↔ run.outcome = .ok value ∧ run.dropped = dropped := by
  cases outcome : run.outcome <;> simp [result, outcome, Except.map]

theorem result_error_iff {run : Run α ν} {error : CompileError} :
    run.result = .error error ↔ run.outcome = .error error := by
  cases outcome : run.outcome <;> simp [result, outcome, Except.map]

/-- A run settles positions: it fails with the error of the first that offends; if none does, it
gives a value and reports dropped entries. -/
structure Settles (options : Options) (positions : List (Position ν)) (value : α)
    (dropped : List DroppedEntry) (run : Run α ν) : Prop where
  outcome_eq : run.outcome =
    match positions.findSome? (Position.fault? options) with
    | some error => .error error
    | none => .ok value
  dropped_eq : positions.findSome? (Position.fault? options) = none → run.dropped = dropped

namespace Settles

theorem ok (value : α) : Settles (ν := ν) options [] value [] (.ok value) :=
  ⟨rfl, fun _ => rfl⟩

theorem fail {position : Position ν} {error : CompileError}
    (offends : position.fault? options = some error) (rest : List (Position ν)) (value : α)
    (dropped : List DroppedEntry) :
    Settles options (position :: rest) value dropped (.fail error) := by
  constructor
  · simp [Run.fail, offends]
  · intro innocent
    simp [offends] at innocent

theorem cons {position : Position ν} (innocent : position.fault? options = none)
    {positions : List (Position ν)} {value : α} {dropped : List DroppedEntry} {run : Run α ν}
    (settles : Settles options positions value dropped run) :
    Settles options (position :: positions) value dropped run := by
  have same : (position :: positions).findSome? (Position.fault? options) =
      positions.findSome? (Position.fault? options) := by
    simp [innocent]
  constructor
  · rw [same]
    exact settles.outcome_eq
  · rw [same]
    exact settles.dropped_eq

theorem andThen {first : Run α ν} {next : α → Run β ν} {positions others : List (Position ν)}
    {value : α} {result : β} {dropped below : List DroppedEntry}
    (settlesFirst : Settles options positions value dropped first)
    (settlesNext : Settles options others result below (next value)) :
    Settles options (positions ++ others) result (dropped ++ below) (first.andThen next) := by
  have outcome := settlesFirst.outcome_eq
  cases found : positions.findSome? (Position.fault? options) with
  | some error =>
      rw [found] at outcome
      constructor
      · simp [Run.andThen, outcome, List.findSome?_append, found]
      · intro innocent
        simp [List.findSome?_append, found] at innocent
  | none =>
      rw [found] at outcome
      have both : (positions ++ others).findSome? (Position.fault? options) =
          others.findSome? (Position.fault? options) := by
        simp [List.findSome?_append, found]
      constructor
      · rw [both]
        simpa [Run.andThen, outcome] using settlesNext.outcome_eq
      · rw [both]
        intro innocent
        simp [Run.andThen, outcome, settlesFirst.dropped_eq found, settlesNext.dropped_eq innocent]

theorem map {run : Run α ν} {positions : List (Position ν)} {value : α}
    {dropped : List DroppedEntry} (settles : Settles options positions value dropped run)
    (function : α → β) :
    Settles options positions (function value) dropped (run.map function) := by
  constructor
  · rw [Run.map, settles.outcome_eq]
    cases positions.findSome? (Position.fault? options) <;> rfl
  · exact settles.dropped_eq

theorem of_ok {run : Run α ν} {positions : List (Position ν)} {value : α}
    {dropped : List DroppedEntry} (settles : Settles options positions value dropped run)
    {result : α} (succeeded : run.outcome = .ok result) :
    result = value ∧ run.dropped = dropped ∧
      positions.findSome? (Position.fault? options) = none := by
  have outcome := settles.outcome_eq
  rw [succeeded] at outcome
  cases found : positions.findSome? (Position.fault? options) with
  | some error =>
      rw [found] at outcome
      cases outcome
  | none =>
      rw [found] at outcome
      cases outcome
      exact ⟨rfl, settles.dropped_eq found, rfl⟩

theorem result_eq {run : Run α ν} {positions : List (Position ν)} {value : α}
    {dropped : List DroppedEntry} (settles : Settles options positions value dropped run) :
    run.result =
      match positions.findSome? (Position.fault? options) with
      | some error => .error error
      | none => .ok (value, dropped) := by
  have outcome := settles.outcome_eq
  cases found : positions.findSome? (Position.fault? options) with
  | some error =>
      rw [found] at outcome
      exact result_error_iff.mpr outcome
  | none =>
      rw [found] at outcome
      exact result_ok_iff.mpr ⟨outcome, settles.dropped_eq found⟩

end Settles

end Run

/-! ## Suites -/

namespace Partition

variable (options : Options) (path : List String) (nested : List (Block ν))
  (earlier : List (Entry ν))

theorem items_sorted (suite other : String) (entries : List (Entry ν)) :
    (sorted suite nested entries).items = (sorted other nested entries).items := rfl

theorem drop_settles {entry : Entry ν} {record : DroppedEntry}
    (found : entry.dropped? (pathText path) earlier = some record)
    (shape : Position.entryFault? options path earlier entry =
      match options.unknownEntries with
      | .warn => none
      | .reject => (entry.dropped? (pathText path) earlier).map .unplaced) :
    ((sorted (pathText path) nested earlier).drop options.unknownEntries record).Settles options
      [.atEntry path earlier entry] (sorted (pathText path) nested (earlier ++ [entry])) [] := by
  cases policy : options.unknownEntries with
  | reject =>
      refine .fail ?_ _ _ _
      rw [Position.fault?, shape, policy, found]
      rfl
  | warn =>
      refine .cons ?_ ?_
      · rw [Position.fault?, shape, policy]
      · rw [sorted_concat_dropped _ _ _ found]
        exact .ok _

end Partition

theorem finishSuite_settles (options : Options) (label : String) (path : List String)
    (depth : UInt64) (entries : List (Entry ν)) :
    (finishSuite label (pathText path) depth
      (Partition.sorted (pathText path) (entryBlocks entries) entries)).Settles options []
      ((Binding.sequence entries).block label) (Entries.dropped (pathText path) entries) := by
  constructor
  · rw [Binding.block, Partition.items_sorted (entryBlocks entries) "" (pathText path)]
    rfl
  · intro _
    rfl

mutual

theorem Spec.compile_settles (options : Options) (path : List String) (depth : UInt64)
    (earlier : List (Entry ν)) :
    ∀ spec : Spec ν,
      (spec.compile options path depth).Settles options
        (.atEntry path earlier (.suite spec) :: spec.positions path) spec.blocks
        (spec.dropped path)
  | .mk rows => by
      rw [Spec.compile, Spec.positions, Spec.blocks, Spec.dropped]
      split
      · rename_i deep
        refine .fail ?_ _ _ _
        exact if_pos deep
      · rename_i notDeep
        refine .cons ?_ (compileRows_settles options path depth rows)
        exact if_neg notDeep

theorem compileRows_settles (options : Options) (path : List String) (depth : UInt64) :
    ∀ rows : List (String × Binding ν),
      (compileRows options path depth rows).Settles options (rowPositions path rows)
        (rowBlocks rows) (rowsDropped path rows)
  | [] => by
      rw [compileRows, rowPositions, rowBlocks, rowsDropped]
      exact .ok []
  | (label, binding) :: rest => by
      rw [compileRows, rowPositions, rowBlocks, rowsDropped]
      exact (Binding.compile_settles options path depth label binding).andThen
        ((compileRows_settles options path depth rest).map _)

theorem Binding.compile_settles (options : Options) (path : List String) (depth : UInt64)
    (label : String) :
    ∀ binding : Binding ν,
      (binding.compile options path depth label).Settles options
        (.atLabel path label binding :: binding.positions (path ++ [label]))
        (binding.block label) (binding.dropped (path ++ [label]))
  | .callable callable => by
      rw [Binding.compile, Binding.positions, Binding.block, Binding.dropped]
      exact .cons rfl (.ok _)
  | .sequence entries => by
      rw [Binding.compile, Binding.positions, Binding.dropped]
      split
      · rename_i isCase
        refine .fail ?_ _ _ _
        exact if_pos isCase
      · rename_i notCase
        have sorts := compileEntries_settles options (path ++ [label]) depth [] [] entries
        have finishes := finishSuite_settles options label (path ++ [label]) depth entries
        rw [← List.append_nil (entryPositions (path ++ [label]) [] entries)]
        refine .cons ?_ (sorts.andThen finishes)
        exact if_neg notCase
  | .mapping spec => by
      rw [Binding.compile]
      exact .fail rfl _ _ _
  | .other kind => by
      rw [Binding.compile]
      exact .fail rfl _ _ _

theorem compileEntries_settles (options : Options) (path : List String) (depth : UInt64)
    (nested : List (Block ν)) (earlier : List (Entry ν)) :
    ∀ entries : List (Entry ν),
      (Partition.addPieces options (pathText path) earlier.length
        (Partition.sorted (pathText path) nested earlier)
        (compileEntries options path depth entries)).Settles options
        (entryPositions path earlier entries)
        (Partition.sorted (pathText path) (nested ++ entryBlocks entries) (earlier ++ entries))
        (entriesDropped path entries)
  | [] => by
      rw [compileEntries, entryPositions, entryBlocks, entriesDropped, List.append_nil,
        List.append_nil]
      exact .ok _
  | entry :: rest => by
      have first := Entry.compile_settles options path depth nested earlier entry
      have others := compileEntries_settles options path depth (nested ++ entry.blocks)
        (earlier ++ [entry]) rest
      rw [List.length_append, List.length_singleton] at others
      rw [compileEntries, Partition.addPieces, entryPositions, entryBlocks, entriesDropped,
        ← List.append_assoc, ← List.cons_append, List.append_cons earlier entry rest]
      exact first.andThen others

theorem Entry.compile_settles (options : Options) (path : List String) (depth : UInt64)
    (nested : List (Block ν)) (earlier : List (Entry ν)) :
    ∀ entry : Entry ν,
      (Partition.addPiece options (pathText path) earlier.length
        (Partition.sorted (pathText path) nested earlier)
        (entry.compile options path depth)).Settles options
        (.atEntry path earlier entry :: entry.positions path)
        (Partition.sorted (pathText path) (nested ++ entry.blocks) (earlier ++ [entry]))
        (entry.dropped path)
  | .reference raw => by
      rw [Entry.compile, Entry.positions, Entry.blocks, Entry.dropped, List.append_nil]
      simp only [Partition.addPiece]
      split
      · rename_i cause invalid
        refine .fail ?_ _ _ _
        simp only [Position.fault?, Position.entryFault?, invalid]
      · rename_i valid
        refine .cons ?_ ?_
        · simp only [Position.fault?, Position.entryFault?, valid]
        · rw [Partition.sorted_concat_reference]
          exact .ok _
  | .hook callable => by
      rw [Entry.compile, Entry.positions, Entry.blocks, Entry.dropped, List.append_nil]
      simp only [Partition.addPiece, Partition.addHook?_sorted]
      by_cases homeless : Hooks.bucket? (Entries.hooks earlier) callable = none
      · rw [if_pos homeless]
        exact Partition.drop_settles options path nested earlier
          ((Entry.dropped?_hook_eq_some_iff _ _ _ _).mpr ⟨homeless, rfl⟩) rfl
      · rw [if_neg homeless]
        have noRecord : (Entry.hook callable).dropped? (pathText path) earlier = none := by
          simp [Entry.dropped?, Entry.dropReason?, homeless]
        refine .cons ?_ (.ok _)
        simp only [Position.fault?, Position.entryFault?, noRecord]
        cases options.unknownEntries <;> rfl
  | .suite spec => by
      have below := Spec.compile_settles options path (depth + 1) earlier spec
      rw [Entry.compile, Entry.positions, Entry.blocks, Entry.dropped,
        Partition.sorted_concat_suite]
      exact below.map _
  | .other kind => by
      rw [Entry.compile, Entry.positions, Entry.blocks, Entry.dropped, List.append_nil]
      exact Partition.drop_settles options path nested earlier rfl rfl

end

theorem Options.compileBlocks_settles (options : Options) (spec : Spec ν) (depth : UInt64) :
    (options.compileBlocks spec depth).Settles options (spec.positions []) spec.blocks
      (spec.dropped []) := by
  cases spec with
  | mk rows =>
      have shallow : ¬ options.maxDepth.toNat < ([] : List String).length := Nat.not_lt_zero _
      rw [Options.compileBlocks, Spec.compile, if_neg shallow, Spec.positions, Spec.blocks,
        Spec.dropped]
      exact compileRows_settles options [] depth rows

/-- A spec gives its blocks and records unless one of its positions offends. -/
theorem Options.compileBlocks_result_ok_iff {options : Options} {spec : Spec ν} {depth : UInt64}
    {blocks : List (Block ν)} {dropped : List DroppedEntry} :
    (options.compileBlocks spec depth).result = .ok (blocks, dropped) ↔
      (∀ position ∈ spec.positions [], position.fault? options = none) ∧
        blocks = spec.blocks ∧ dropped = spec.dropped [] := by
  rw [(options.compileBlocks_settles spec depth).result_eq, ← List.findSome?_eq_none_iff]
  cases (spec.positions []).findSome? (Position.fault? options) <;> simp [eq_comm]

/-- A spec fails with the error of the first position that offends. -/
theorem Options.compileBlocks_result_error_iff {options : Options} {spec : Spec ν} {depth : UInt64}
    {error : CompileError} :
    (options.compileBlocks spec depth).result = .error error ↔
      ∃ front position rest, spec.positions [] = front ++ position :: rest ∧
        position.fault? options = some error ∧
        ∀ innocent ∈ front, innocent.fault? options = none := by
  rw [(options.compileBlocks_settles spec depth).result_eq, ← List.findSome?_eq_some_iff]
  cases (spec.positions []).findSome? (Position.fault? options) <;> simp

theorem Options.program_result_ok_iff {options : Options} {spec : Spec ν} {program : Program ν} :
    (options.program spec).result = .ok program ↔
      (options.compileBlocks spec 0).result = .ok (program.blocks, program.dropped) ∧
        program.text = Script.blocks options.dialect program.blocks := by
  obtain ⟨text, blocks, dropped⟩ := program
  rw [Options.program, Run.result]
  cases (options.compileBlocks spec 0).outcome with
  | error error => simp [Except.map]
  | ok made =>
      simp only [Except.map, Except.ok.injEq, Program.mk.injEq, Prod.mk.injEq]
      constructor
      · rintro ⟨rfl, rfl, rfl⟩
        exact ⟨⟨rfl, rfl⟩, rfl⟩
      · rintro ⟨⟨rfl, rfl⟩, rfl⟩
        exact ⟨rfl, rfl, rfl⟩

theorem Options.fragment_result_ok_iff {options : Options} {spec : Spec ν} {depth : UInt64}
    {text : String} :
    (options.fragment spec depth).result = .ok text ↔
      ∃ blocks dropped, (options.compileBlocks spec depth).result = .ok (blocks, dropped) ∧
        text = Script.blocks options.dialect blocks := by
  rw [Options.fragment, Run.result]
  cases (options.compileBlocks spec depth).outcome <;> simp [Except.map, eq_comm]

end SuiteOutline
