import SuiteOutline.Proofs.Acceptance

/-!
# How the entries of a suite are mixed

A suite's entries are sorted into buckets that keep the order in which each kind was met, so it
does not matter how the kinds are mixed with one another, nor where among them stands something for
which no suite has a use.  This holds of one suite with any compilation of nested specs, and of
whole specs in which any number of suites are mixed differently.
-/

namespace SuiteOutline

variable {ν : Type}

/-- Two lists of entries ask for the same modules and the same dependencies and hold the same
hooks, each in the same order. -/
structure Entries.Alike (first second : List (Entry ν)) : Prop where
  modules : moduleNames first = moduleNames second
  dependencies : dependencyNames first = dependencyNames second
  hooks : hooks first = hooks second

mutual

/-- Two specs that differ only in how the entries of their suites are mixed. -/
inductive Spec.Interleaved : Spec ν → Spec ν → Prop where
  | rows {first second : List (String × Binding ν)} (same : RowsInterleaved first second) :
      Spec.Interleaved (.mk first) (.mk second)

inductive RowsInterleaved : List (String × Binding ν) → List (String × Binding ν) → Prop where
  | nil : RowsInterleaved [] []
  | cons {label : String} {first second : Binding ν} {rest others : List (String × Binding ν)}
      (binding : Binding.Interleaved first second) (more : RowsInterleaved rest others) :
      RowsInterleaved ((label, first) :: rest) ((label, second) :: others)

/-- The same binding, or sequences that are mixed differently. -/
inductive Binding.Interleaved : Binding ν → Binding ν → Prop where
  | same {binding : Binding ν} : Binding.Interleaved binding binding
  | sequence {first second : List (Entry ν)} (alike : Entries.Alike first second)
      (specs : SpecsInterleaved (Entries.specs first) (Entries.specs second)) :
      Binding.Interleaved (.sequence first) (.sequence second)

inductive SpecsInterleaved : List (Spec ν) → List (Spec ν) → Prop where
  | nil : SpecsInterleaved [] []
  | cons {first second : Spec ν} {rest others : List (Spec ν)}
      (spec : Spec.Interleaved first second) (more : SpecsInterleaved rest others) :
      SpecsInterleaved (first :: rest) (second :: others)

end

namespace Entries.Alike

variable {first second : List (Entry ν)}

theorem symm (alike : Alike first second) : Alike second first :=
  ⟨alike.modules.symm, alike.dependencies.symm, alike.hooks.symm⟩

theorem sorted_eq (alike : Alike first second) (suite : String) (nested : List (Block ν)) :
    Partition.sorted suite nested second =
      { Partition.sorted suite nested first with
        dropped := Entries.dropped suite second } := by
  simp only [Partition.sorted, alike.modules, alike.dependencies, alike.hooks]

theorem items_eq (alike : Alike first second) (suite : String) (nested : List (Block ν)) :
    (Partition.sorted suite nested first).items = (Partition.sorted suite nested second).items := by
  rw [alike.sorted_eq]
  rfl

variable {options : Options} {compileNested : Spec ν → Run (List (Block ν)) ν}
  {nested : List (List (Block ν))}

theorem accepted (alike : Alike first second) (warn : options.unknownEntries = .warn)
    (specs : List.Forall₂ (fun spec blocks => (compileNested spec).outcome = .ok blocks)
      (Entries.specs second) nested)
    (accepted : Accepted options compileNested [] first nested) :
    Accepted options compileNested [] second nested where
  names := by
    rw [← alike.dependencies]
    exact accepted.names
  placed := by
    intro strict
    rw [warn] at strict
    cases strict
  specs := specs

end Entries.Alike

/-! ## One suite -/

theorem Partition.ofEntries_ok_of_alike {options : Options} {suite : String}
    {compileNested : Spec ν → Run (List (Block ν)) ν} {first second : List (Entry ν)}
    {partition : Partition ν} (warn : options.unknownEntries = .warn)
    (alike : Entries.Alike first second) (specs : Entries.specs first = Entries.specs second)
    (sorts : (ofEntries options suite compileNested first).outcome = .ok partition) :
    (ofEntries options suite compileNested second).outcome =
      .ok { partition with dropped := Entries.dropped suite second } := by
  obtain ⟨below, accepted, rfl⟩ := (ofEntries_ok_iff first).mp sorts
  have sameSpecs := accepted.specs
  rw [specs] at sameSpecs
  rw [← alike.sorted_eq]
  exact (ofEntries_ok_iff second).mpr ⟨below, alike.accepted warn sameSpecs accepted, rfl⟩

/-! ## Whole specs -/

variable {options : Options}

mutual

theorem Spec.Interleaved.compile_ok_iff (warn : options.unknownEntries = .warn) :
    ∀ {first second : Spec ν}, Spec.Interleaved first second →
      ∀ (path : List String) (depth : UInt64) (blocks : List (Block ν)),
        (first.compile options path depth).outcome = .ok blocks ↔
          (second.compile options path depth).outcome = .ok blocks
  | _, _, .rows same, path, depth, blocks => by
      have rows := same.compile_ok_iff warn path depth blocks
      rw [Spec.compile_ok_iff, Spec.compile_ok_iff, compileRows_ok_iff, compileRows_ok_iff, rows]

theorem RowsInterleaved.compile_ok_iff (warn : options.unknownEntries = .warn) :
    ∀ {first second : List (String × Binding ν)}, RowsInterleaved first second →
      ∀ (path : List String) (depth : UInt64) (blocks : List (Block ν)),
        List.Forall₂
            (fun row block => (row.2.compile options path depth row.1).outcome = .ok block)
            first blocks ↔
          List.Forall₂
            (fun row block => (row.2.compile options path depth row.1).outcome = .ok block)
            second blocks
  | _, _, .nil, _, _, _ => Iff.rfl
  | _, _, @RowsInterleaved.cons _ label _ _ _ _ binding more, path, depth, blocks => by
      have own := binding.compile_ok_iff warn path depth label
      have others := more.compile_ok_iff warn path depth
      simp only [List.forall₂_cons_left_iff, own, others]

theorem Binding.Interleaved.compile_ok_iff (warn : options.unknownEntries = .warn) :
    ∀ {first second : Binding ν}, Binding.Interleaved first second →
      ∀ (path : List String) (depth : UInt64) (label : String) (block : Block ν),
        (first.compile options path depth label).outcome = .ok block ↔
          (second.compile options path depth label).outcome = .ok block
  | _, _, .same, _, _, _, _ => Iff.rfl
  | _, _, .sequence alike specs, path, depth, label, block => by
      have below := specs.compile_ok_iff warn (path ++ [label]) (depth + 1)
      rw [Binding.compile_sequence_ok_iff, Binding.compile_sequence_ok_iff]
      constructor
      · rintro ⟨isSuite, nested, accepted, rfl⟩
        refine ⟨isSuite, nested, ?_, ?_⟩
        · exact alike.accepted warn ((below nested).mp accepted.specs) accepted
        · rw [alike.items_eq]
      · rintro ⟨isSuite, nested, accepted, rfl⟩
        refine ⟨isSuite, nested, ?_, ?_⟩
        · exact alike.symm.accepted warn ((below nested).mpr accepted.specs) accepted
        · rw [alike.items_eq]

theorem SpecsInterleaved.compile_ok_iff (warn : options.unknownEntries = .warn) :
    ∀ {first second : List (Spec ν)}, SpecsInterleaved first second →
      ∀ (path : List String) (depth : UInt64) (nested : List (List (Block ν))),
        List.Forall₂ (fun spec blocks => (spec.compile options path depth).outcome = .ok blocks)
            first nested ↔
          List.Forall₂ (fun spec blocks => (spec.compile options path depth).outcome = .ok blocks)
            second nested
  | _, _, .nil, _, _, _ => Iff.rfl
  | _, _, .cons spec more, path, depth, nested => by
      have own := spec.compile_ok_iff warn path depth
      have others := more.compile_ok_iff warn path depth
      simp only [List.forall₂_cons_left_iff, own, others]

end

/-- With entries without a place dropped rather than refused, it does not matter how the kinds of
entries are mixed.  Two lists of entries with the same modules, dependencies, hooks and specs, each
in their order, have the same partition but for what is dropped, whatever nested specs compile to;
and two specs in which any number of suites differ only in this way compile to the same blocks and
have the same text, or neither of them compiles. -/
theorem compilation_ignores_interleaving {options : Options}
    (warn : options.unknownEntries = .warn) :
    (∀ (suite : String) (compileNested : Spec ν → Run (List (Block ν)) ν)
      (first second : List (Entry ν)),
      Entries.Alike first second → Entries.specs first = Entries.specs second →
      ∀ partition : Partition ν,
        (Partition.ofEntries options suite compileNested first).outcome = .ok partition →
        ∃ other : Partition ν,
          (Partition.ofEntries options suite compileNested second).outcome = .ok other ∧
          other.modules = partition.modules ∧ other.dependencies = partition.dependencies ∧
          other.before = partition.before ∧ other.after = partition.after ∧
          other.nested = partition.nested) ∧
    ∀ first second : Spec ν, first.Interleaved second →
      (∀ (depth : UInt64) (blocks : List (Block ν)),
        (options.compileBlocks first depth).outcome = .ok blocks ↔
          (options.compileBlocks second depth).outcome = .ok blocks) ∧
      (∀ (depth : UInt64) (text : String),
        (options.fragment first depth).result = .ok text ↔
          (options.fragment second depth).result = .ok text) ∧
      ∀ program : Program ν, (options.program first).result = .ok program →
        ∃ other : Program ν, (options.program second).result = .ok other ∧
          other.blocks = program.blocks ∧ other.text = program.text := by
  constructor
  · intro suite compileNested first second alike specs partition sorts
    have sorted := Partition.ofEntries_ok_of_alike warn alike specs sorts
    exact ⟨_, sorted, rfl, rfl, rfl, rfl, rfl⟩
  · intro first second interleaved
    have compiles : ∀ (depth : UInt64) (blocks : List (Block ν)),
        (options.compileBlocks first depth).outcome = .ok blocks ↔
          (options.compileBlocks second depth).outcome = .ok blocks :=
      interleaved.compile_ok_iff warn []
    refine ⟨compiles, ?_, ?_⟩
    · intro depth text
      simp only [Options.fragment_ok_iff, compiles]
    · intro program made
      obtain ⟨blocks, compiled, rfl⟩ := Options.program_ok_iff.mp made
      have compiledToo := (compiles 0 blocks).mp compiled
      exact ⟨_, Options.program_ok_iff.mpr ⟨blocks, compiledToo, rfl⟩, rfl, rfl⟩

/-- A suite and a suite within it, both mixed differently, with one reference in place of two. -/
theorem compilation_ignores_interleaving_widget :
    ({} : Options).unknownEntries = .warn ∧
    (∃ other : Partition,
      (Partition.ofEntries {} "Widget" (fun _ => .ok [])
          [.hook (.ofSource "f"), .reference "a:", .other "number", .reference "a"]).outcome =
        .ok other ∧
      other.modules = ["a"] ∧ other.dependencies = ["a"] ∧ other.before = [.ofSource "f"] ∧
      other.after = [] ∧ other.nested = []) ∧
    (({} : Options).compileBlocks (ν := Value)
        (.mk [("Widget", .sequence [.hook (.ofSource "f"), .reference "a:",
          .suite (.mk [("Inner", .sequence [.other "number", .reference "b"])]),
          .reference "a"])]) 0).outcome =
      .ok [.mk .suite "Widget" (.items [.modules ["a"], .inject ["a"], .before (.ofSource "f"),
        .nested (.mk .suite "Inner" (.items [.inject ["b"]]))])] := by
  have warn : ({} : Options).unknownEntries = .warn := rfl
  obtain ⟨suites, specs⟩ := compilation_ignores_interleaving (ν := Value) warn
  refine ⟨rfl, ?_, ?_⟩
  · have alike : Entries.Alike (ν := Value) [.reference "a+", .hook (.ofSource "f")]
        [.hook (.ofSource "f"), .reference "a:", .other "number", .reference "a"] :=
      ⟨by decide, by decide, rfl⟩
    exact suites "Widget" (fun _ => .ok []) _ _ alike rfl
      ⟨["a"], ["a"], [.ofSource "f"], [], [], []⟩ rfl
  · have inner : Spec.Interleaved (ν := Value) (.mk [("Inner", .sequence [.reference "b"])])
        (.mk [("Inner", .sequence [.other "number", .reference "b"])]) :=
      .rows (.cons (.sequence ⟨by decide, by decide, rfl⟩ .nil) .nil)
    have outer : Spec.Interleaved (ν := Value)
        (.mk [("Widget", .sequence [.reference "a+",
          .suite (.mk [("Inner", .sequence [.reference "b"])]), .hook (.ofSource "f")])])
        (.mk [("Widget", .sequence [.hook (.ofSource "f"), .reference "a:",
          .suite (.mk [("Inner", .sequence [.other "number", .reference "b"])]),
          .reference "a"])]) :=
      .rows (.cons (.sequence ⟨by decide, by decide, rfl⟩ (.cons inner .nil)) .nil)
    exact ((specs _ _ outer).1 0 _).mp rfl

end SuiteOutline
