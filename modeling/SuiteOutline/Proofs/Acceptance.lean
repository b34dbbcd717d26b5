import Mathlib.Data.List.Forall2
import SuiteOutline.Program
import SuiteOutline.Proofs.Sorting

/-!
# What a compilation accepts

When a compilation gives a value, and which one, said constructor by constructor.  A suite is
accepted if the names of its dependencies are admitted, no entry is refused for want of a place,
and the specs among its entries are accepted in turn; its partition is then its entries sorted into
buckets.  Only the names, the hooks and the specs of the entries matter, not how they are mixed.
-/

namespace SuiteOutline

variable {ν : Type}

namespace Run

variable {α β : Type}

theorem andThen_ok_iff {first : Run α ν} {next : α → Run β ν} {result : β} :
    (first.andThen next).outcome = .ok result ↔
      ∃ value, first.outcome = .ok value ∧ (next value).outcome = .ok result := by
  refine ⟨exists_of_andThen_ok, ?_⟩
  rintro ⟨value, firstOk, nextOk⟩
  rw [andThen, firstOk]
  exact nextOk

theorem map_ok_iff {run : Run α ν} {function : α → β} {result : β} :
    (run.map function).outcome = .ok result ↔
      ∃ value, run.outcome = .ok value ∧ result = function value := by
  refine ⟨exists_of_map_ok, ?_⟩
  rintro ⟨value, runOk, rfl⟩
  rw [map, runOk]
  rfl

@[simp]
theorem ok_outcome_iff {value result : α} :
    (Run.ok value : Run α ν).outcome = .ok result ↔ result = value := by
  rw [Run.ok, Except.ok.injEq, eq_comm]

@[simp]
theorem fail_outcome_ne {error : CompileError} {result : α} :
    (Run.fail error : Run α ν).outcome ≠ .ok result := by
  intro impossible
  cases impossible

end Run

/-! ## References -/

/-- Whether a name may stand for something to inject. -/
def Options.Admits (options : Options) (name : String) : Prop :=
  name ≠ "" ∧ (options.validateIdentifiers = true → Text.isName name = true)

theorem Reference.validate_ok_iff (options : Options) (reference : Reference) :
    reference.validate options.validateIdentifiers = .ok () ↔
      (reference.role.injects = true → options.Admits reference.name) := by
  unfold validate Options.Admits
  cases reference.role.injects with
  | false => simp
  | true =>
      by_cases isEmpty : reference.name = ""
      · simp [isEmpty]
      · have notEmpty : reference.name.isEmpty = false := by simpa using isEmpty
        cases options.validateIdentifiers with
        | false => simp [notEmpty, isEmpty]
        | true =>
            cases Text.isName reference.name <;> simp [notEmpty, isEmpty]

/-! ## Suites -/

def Entry.spec? : Entry ν → Option (Spec ν)
  | .suite spec => some spec
  | _ => none

namespace Entries

def specs (entries : List (Entry ν)) : List (Spec ν) :=
  entries.filterMap Entry.spec?

/-- Entries behind earlier ones are accepted, and the specs among them give these blocks. -/
structure Accepted (options : Options) (compileNested : Spec ν → Run (List (Block ν)) ν)
    (earlier entries : List (Entry ν)) (nested : List (List (Block ν))) : Prop where
  names : ∀ name ∈ dependencyNames entries, options.Admits name
  placed : options.unknownEntries = .reject →
    ∀ place ∈ withEarlier earlier entries, place.2.dropReason? place.1 = none
  specs : List.Forall₂ (fun spec blocks => (compileNested spec).outcome = .ok blocks)
    (specs entries) nested

variable {options : Options} {compileNested : Spec ν → Run (List (Block ν)) ν}
  {earlier entries : List (Entry ν)} {nested : List (List (Block ν))}

theorem dependencyNames_cons (entry : Entry ν) (rest : List (Entry ν)) :
    dependencyNames (entry :: rest) = dependencyNames [entry] ++ dependencyNames rest := by
  have split : references (entry :: rest) = references [entry] ++ references rest :=
    List.filterMap_append (l := [entry])
  rw [dependencyNames, split, List.filter_append, List.map_append, dependencyNames, dependencyNames]

theorem specs_cons (entry : Entry ν) (rest : List (Entry ν)) :
    specs (entry :: rest) = specs [entry] ++ specs rest :=
  List.filterMap_append (l := [entry])

theorem accepted_nil_iff : Accepted options compileNested earlier [] nested ↔ nested = [] := by
  constructor
  · intro accepted
    exact List.forall₂_nil_left_iff.mp accepted.specs
  · rintro rfl
    exact ⟨by simp [dependencyNames, references], by simp [withEarlier], .nil⟩

theorem accepted_cons_iff (entry : Entry ν) (rest : List (Entry ν)) :
    Accepted options compileNested earlier (entry :: rest) nested ↔
      ∃ own others, nested = own ++ others ∧
        Accepted options compileNested earlier [entry] own ∧
        Accepted options compileNested (earlier ++ [entry]) rest others := by
  constructor
  · intro accepted
    have specs := accepted.specs
    rw [specs_cons] at specs
    have names := accepted.names
    rw [dependencyNames_cons] at names
    have own := List.forall₂_take_append nested _ _ specs.flip
    have others := List.forall₂_drop_append nested _ _ specs.flip
    refine ⟨_, _, (List.take_append_drop _ nested).symm, ⟨?_, ?_, own.flip⟩, ⟨?_, ?_, others.flip⟩⟩
    · exact fun name member => names name (List.mem_append_left _ member)
    · intro strict place member
      rw [withEarlier, withEarlier, List.mem_singleton] at member
      rw [member]
      exact accepted.placed strict (earlier, entry) List.mem_cons_self
    · exact fun name member => names name (List.mem_append_right _ member)
    · exact fun strict place member =>
        accepted.placed strict place (List.mem_cons_of_mem _ member)
  · rintro ⟨own, others, rfl, first, more⟩
    refine ⟨?_, ?_, ?_⟩
    · rw [dependencyNames_cons]
      intro name member
      rcases List.mem_append.mp member with inEntry | inRest
      · exact first.names name inEntry
      · exact more.names name inRest
    · intro strict place member
      rcases List.mem_cons.mp member with rfl | inRest
      · exact first.placed strict _ (by simp [withEarlier])
      · exact more.placed strict place inRest
    · rw [specs_cons]
      exact List.rel_append first.specs more.specs

theorem exists_accepted_plain_iff {entry : Entry ν} (plain : entry.spec? = none)
    {result : List (List (Block ν)) → Prop} :
    (∃ own, Accepted options compileNested earlier [entry] own ∧ result own) ↔
      ((∀ name ∈ dependencyNames [entry], options.Admits name) ∧
        (options.unknownEntries = .reject → entry.dropReason? earlier = none)) ∧ result [] := by
  have noSpecs : Entries.specs [entry] = [] := by simp [Entries.specs, plain]
  constructor
  · rintro ⟨own, accepted, holds⟩
    have empty := accepted.specs
    rw [noSpecs, List.forall₂_nil_left_iff] at empty
    rw [empty] at holds
    exact ⟨⟨accepted.names, fun strict => accepted.placed strict _ List.mem_cons_self⟩, holds⟩
  · rintro ⟨⟨names, placed⟩, holds⟩
    refine ⟨[], ⟨names, ?_, ?_⟩, holds⟩
    · simpa [withEarlier] using placed
    · rw [noSpecs]
      exact .nil

end Entries

/-! ## Partitions -/

namespace Partition

variable {options : Options} {compileNested : Spec ν → Run (List (Block ν)) ν} {suite : String}
  {nested : List (Block ν)} {earlier : List (Entry ν)}

theorem drop_ok_iff {partition dropped : Partition ν} {policy : EntryPolicy}
    {record : DroppedEntry} :
    (partition.drop policy record).outcome = .ok dropped ↔
      policy ≠ .reject ∧ dropped = partition.addDropped record := by
  cases policy with
  | warn => simp [drop]
  | reject => simp [drop]

theorem addPiece_ok_iff (entry : Entry ν) {extended : Partition ν} :
    (addPiece options suite earlier.length (sorted suite nested earlier)
        (Piece.ofEntry compileNested entry)).outcome = .ok extended ↔
      ∃ own, Entries.Accepted options compileNested earlier [entry] own ∧
        extended = sorted suite (nested ++ own.flatten) (earlier ++ [entry]) := by
  cases entry with
  | reference raw =>
      have admitted : (∀ name ∈ Entries.dependencyNames [(.reference raw : Entry ν)],
            options.Admits name) ↔
          (Reference.decode raw).validate options.validateIdentifiers = .ok () := by
        rw [Reference.validate_ok_iff]
        cases injects : (Reference.decode raw).role.injects <;>
          simp [Entries.dependencyNames, Entries.references, Entry.reference?, injects]
      rw [Entries.exists_accepted_plain_iff rfl, admitted, Piece.ofEntry, addPiece]
      simp only [Entry.dropReason?, implies_true, and_true, List.flatten_nil, List.append_nil,
        sorted_concat_reference]
      cases (Reference.decode raw).validate options.validateIdentifiers with
      | error cause => simp
      | ok _ => simp
  | hook callable =>
      have noNames : Entries.dependencyNames [.hook callable] = [] := rfl
      rw [Entries.exists_accepted_plain_iff rfl, noNames, Piece.ofEntry, addPiece, addHook?_sorted,
        Entry.dropReason?]
      by_cases homeless : Hooks.bucket? (Entries.hooks earlier) callable = none
      · have record := (Entry.dropped?_hook_eq_some_iff suite earlier callable _).mpr
          ⟨homeless, rfl⟩
        simp [homeless, drop_ok_iff, sorted_concat_dropped _ _ _ record]
      · simp [homeless]
  | suite spec =>
      rw [Piece.ofEntry, addPiece, Run.map_ok_iff]
      constructor
      · rintro ⟨blocks, compiled, rfl⟩
        refine ⟨[blocks], ⟨?_, ?_, ?_⟩, ?_⟩
        · simp [Entries.dependencyNames, Entries.references, Entry.reference?]
        · simp [withEarlier, Entry.dropReason?]
        · exact .cons compiled .nil
        · simp [sorted_concat_suite]
      · rintro ⟨own, accepted, rfl⟩
        obtain ⟨blocks, others, compiled, noOthers, rfl⟩ :=
          List.forall₂_cons_left_iff.mp accepted.specs
        rw [List.forall₂_nil_left_iff.mp noOthers]
        exact ⟨blocks, compiled, by simp [sorted_concat_suite]⟩
  | other kind =>
      have noNames : Entries.dependencyNames [(.other kind : Entry ν)] = [] := rfl
      have record : (Entry.other kind).dropped? suite earlier =
          some ⟨suite, earlier.length, kind, .unsupportedShape⟩ := rfl
      rw [Entries.exists_accepted_plain_iff rfl, noNames, Piece.ofEntry, addPiece, drop_ok_iff,
        List.flatten_nil, List.append_nil, sorted_concat_dropped _ _ _ record]
      simp [Entry.dropReason?]

theorem addPieces_ok_iff (nested : List (Block ν)) (earlier entries : List (Entry ν))
    {partition : Partition ν} :
    (addPieces options suite earlier.length (sorted suite nested earlier)
        (entries.map (Piece.ofEntry compileNested))).outcome = .ok partition ↔
      ∃ below, Entries.Accepted options compileNested earlier entries below ∧
        partition = sorted suite (nested ++ below.flatten) (earlier ++ entries) := by
  induction entries generalizing earlier nested with
  | nil => simp [addPieces, Entries.accepted_nil_iff]
  | cons entry rest ih =>
      have longer : earlier.length + 1 = (earlier ++ [entry]).length := by simp
      rw [List.map_cons, addPieces, Run.andThen_ok_iff, longer]
      constructor
      · rintro ⟨extended, added, more⟩
        obtain ⟨own, ownAccepted, rfl⟩ := (addPiece_ok_iff entry).mp added
        obtain ⟨others, accepted, rfl⟩ := (ih _ _).mp more
        refine ⟨own ++ others, ?_, by simp⟩
        exact (Entries.accepted_cons_iff entry rest).mpr ⟨own, others, rfl, ownAccepted, accepted⟩
      · rintro ⟨below, accepted, rfl⟩
        obtain ⟨own, others, rfl, ownAccepted, othersAccepted⟩ :=
          (Entries.accepted_cons_iff entry rest).mp accepted
        refine ⟨_, (addPiece_ok_iff entry).mpr ⟨own, ownAccepted, rfl⟩, ?_⟩
        exact (ih _ _).mpr ⟨others, othersAccepted, by simp⟩

/-- The entries of a suite have a partition exactly if they are accepted, and the partition is
then the sorted entries with the blocks of the specs among them. -/
theorem ofEntries_ok_iff (entries : List (Entry ν)) {partition : Partition ν} :
    (ofEntries options suite compileNested entries).outcome = .ok partition ↔
      ∃ below, Entries.Accepted options compileNested [] entries below ∧
        partition = sorted suite below.flatten entries :=
  addPieces_ok_iff [] [] entries

end Partition

/-! ## Specs -/

variable {options : Options} {path : List String} {depth : UInt64}

theorem Spec.compile_ok_iff {rows : List (String × Binding ν)} {blocks : List (Block ν)} :
    ((Spec.mk rows).compile options path depth).outcome = .ok blocks ↔
      path.length ≤ options.maxDepth.toNat ∧
        (compileRows options path depth rows).outcome = .ok blocks := by
  rw [Spec.compile]
  split
  · rename_i deep
    simp [Nat.not_le.mpr deep]
  · rename_i shallow
    simp [Nat.not_lt.mp shallow]

theorem compileRows_ok_iff {rows : List (String × Binding ν)} {blocks : List (Block ν)} :
    (compileRows options path depth rows).outcome = .ok blocks ↔
      List.Forall₂ (fun row block => (row.2.compile options path depth row.1).outcome = .ok block)
        rows blocks := by
  induction rows generalizing blocks with
  | nil => rw [compileRows, Run.ok_outcome_iff, List.forall₂_nil_left_iff]
  | cons row rest ih =>
      obtain ⟨label, binding⟩ := row
      simp only [compileRows, Run.andThen_ok_iff, Run.map_ok_iff, List.forall₂_cons_left_iff, ih]
      constructor
      · rintro ⟨block, first, others, more, rfl⟩
        exact ⟨block, others, first, more, rfl⟩
      · rintro ⟨block, others, first, more, rfl⟩
        exact ⟨block, first, others, more, rfl⟩

theorem Binding.compile_callable_ok_iff {label : String} {callable : Callable ν} {block : Block ν} :
    ((Binding.callable callable).compile options path depth label).outcome = .ok block ↔
      block = Block.ofCallable label callable := by
  rw [Binding.compile, Run.ok_outcome_iff]

theorem Binding.compile_sequence_ok_iff {label : String} {entries : List (Entry ν)}
    {block : Block ν} :
    ((Binding.sequence entries).compile options path depth label).outcome = .ok block ↔
      isCaseLabel label = false ∧ ∃ below,
        Entries.Accepted options (Spec.compile options (path ++ [label]) (depth + 1)) [] entries
          below ∧
        block = Block.ofItems label
          (Partition.sorted (pathText (path ++ [label])) below.flatten entries).items := by
  rw [Binding.compile]
  split
  · rename_i isCase
    simp [isCase]
  · rename_i notCase
    rw [Run.andThen_ok_iff, compileEntries_eq]
    constructor
    · rintro ⟨partition, sorts, finishes⟩
      obtain ⟨below, accepted, rfl⟩ := (Partition.ofEntries_ok_iff entries).mp sorts
      refine ⟨by simpa using notCase, below, accepted, ?_⟩
      cases finishes
      rfl
    · rintro ⟨-, below, accepted, rfl⟩
      exact ⟨_, (Partition.ofEntries_ok_iff entries).mpr ⟨below, accepted, rfl⟩, rfl⟩

theorem Binding.compile_mapping_ne_ok {label : String} {spec : Spec ν} {block : Block ν} :
    ((Binding.mapping spec).compile options path depth label).outcome ≠ .ok block := by
  rw [Binding.compile]
  exact Run.fail_outcome_ne

theorem Binding.compile_other_ne_ok {label kind : String} {block : Block ν} :
    ((Binding.other kind).compile options path depth label).outcome ≠ .ok block := by
  rw [Binding.compile]
  exact Run.fail_outcome_ne

/-! ## Induction -/

/-- What holds of a block at a path if it holds of the blocks of callables, and of the block of an
accepted suite as soon as it holds of the blocks below the suite. -/
structure CompileStep (options : Options) (holds : List String → Block ν → Prop) : Prop where
  callable : ∀ (path : List String) (label : String) (callable : Callable ν),
    holds path (Block.ofCallable label callable)
  suite : ∀ (path : List String) (depth : UInt64) (label : String) (entries : List (Entry ν))
    (below : List (List (Block ν))),
    path.length ≤ options.maxDepth.toNat → isCaseLabel label = false →
    Entries.Accepted options (Spec.compile options (path ++ [label]) depth) [] entries below →
    (∀ block ∈ below.flatten, holds (path ++ [label]) block) →
    holds path (Block.ofItems label
      (Partition.sorted (pathText (path ++ [label])) below.flatten entries).items)

section Induction

variable {holds : List String → Block ν → Prop}

mutual

/-- What every step of a compilation keeps holds of every block that a spec compiles to. -/
theorem Spec.compile_induction (step : CompileStep options holds) :
    ∀ (spec : Spec ν) (path : List String) (depth : UInt64) {blocks : List (Block ν)},
      (spec.compile options path depth).outcome = .ok blocks → ∀ block ∈ blocks, holds path block
  | .mk rows, path, depth, blocks, compiled => by
      obtain ⟨shallow, rowsCompiled⟩ := Spec.compile_ok_iff.mp compiled
      exact compileRows_induction step rows path depth shallow (compileRows_ok_iff.mp rowsCompiled)

theorem compileRows_induction (step : CompileStep options holds) :
    ∀ (rows : List (String × Binding ν)) (path : List String) (depth : UInt64)
      {blocks : List (Block ν)},
      path.length ≤ options.maxDepth.toNat →
      List.Forall₂ (fun row block => (row.2.compile options path depth row.1).outcome = .ok block)
        rows blocks →
      ∀ block ∈ blocks, holds path block
  | [], _, _, _, _, compiled => by
      rw [List.forall₂_nil_left_iff.mp compiled]
      simp
  | (label, binding) :: rest, path, depth, _, shallow, compiled => by
      obtain ⟨first, others, own, more, rfl⟩ := List.forall₂_cons_left_iff.mp compiled
      intro block member
      rcases List.mem_cons.mp member with rfl | inOthers
      · exact Binding.compile_induction step binding path depth label shallow own
      · exact compileRows_induction step rest path depth shallow more block inOthers

theorem Binding.compile_induction (step : CompileStep options holds) :
    ∀ (binding : Binding ν) (path : List String) (depth : UInt64) (label : String)
      {block : Block ν},
      path.length ≤ options.maxDepth.toNat →
      (binding.compile options path depth label).outcome = .ok block → holds path block
  | .callable callable, path, _, label, _, _, compiled => by
      rw [Binding.compile_callable_ok_iff.mp compiled]
      exact step.callable path label callable
  | .sequence entries, path, depth, label, _, shallow, compiled => by
      obtain ⟨isSuite, below, accepted, rfl⟩ := Binding.compile_sequence_ok_iff.mp compiled
      exact step.suite path (depth + 1) label entries below shallow isSuite accepted
        (compileEntries_induction step entries (path ++ [label]) (depth + 1) accepted.specs)
  | .mapping _, _, _, _, _, _, compiled => absurd compiled Binding.compile_mapping_ne_ok
  | .other _, _, _, _, _, _, compiled => absurd compiled Binding.compile_other_ne_ok

theorem compileEntries_induction (step : CompileStep options holds) :
    ∀ (entries : List (Entry ν)) (path : List String) (depth : UInt64)
      {below : List (List (Block ν))},
      List.Forall₂ (fun spec blocks => (spec.compile options path depth).outcome = .ok blocks)
        (Entries.specs entries) below →
      ∀ block ∈ below.flatten, holds path block
  | [], _, _, _, compiled => by
      rw [List.forall₂_nil_left_iff.mp compiled]
      simp
  | .suite spec :: rest, path, depth, _, compiled => by
      obtain ⟨first, others, own, more, rfl⟩ := List.forall₂_cons_left_iff.mp compiled
      intro block member
      rw [List.flatten_cons, List.mem_append] at member
      rcases member with inFirst | inOthers
      · exact Spec.compile_induction step spec path depth own block inFirst
      · exact compileEntries_induction step rest path depth more block inOthers
  | .reference _ :: rest, path, depth, _, compiled =>
      compileEntries_induction step rest path depth compiled
  | .hook _ :: rest, path, depth, _, compiled =>
      compileEntries_induction step rest path depth compiled
  | .other _ :: rest, path, depth, _, compiled =>
      compileEntries_induction step rest path depth compiled

end

end Induction

namespace Options

theorem fragment_ok_iff {spec : Spec ν} {text : String} :
    (options.fragment spec depth).result = .ok text ↔
      ∃ blocks, (options.compileBlocks spec depth).outcome = .ok blocks ∧
        text = Script.blocks options.dialect blocks := by
  rw [fragment]
  cases outcome : (options.compileBlocks spec depth).outcome with
  | error error => simp
  | ok blocks => simp [eq_comm]

theorem program_ok_iff {spec : Spec ν} {program : Program ν} :
    (options.program spec).result = .ok program ↔
      ∃ blocks, (options.compileBlocks spec 0).outcome = .ok blocks ∧
        program = ⟨Script.blocks options.dialect blocks, blocks,
          (options.compileBlocks spec 0).dropped⟩ := by
  rw [Options.program]
  cases outcome : (options.compileBlocks spec 0).outcome with
  | error error => simp
  | ok blocks => simp [eq_comm]

end Options

end SuiteOutline
