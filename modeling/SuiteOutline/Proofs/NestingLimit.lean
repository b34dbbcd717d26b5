import SuiteOutline.Proofs.Nesting

/-!
# The limit on nesting

How deep the suites of a compiled spec are nested.  The limit is held against the number of suites
around a spec when the spec is entered.  A suite that no spec is entered below is not counted, so
the suites may be nested one level deeper than the limit says.
-/

namespace SuiteOutline

variable {ν : Type}

/-- Suites of a block tree by their labels, each nested in the one before. -/
inductive Block.Chain : List (Block ν) → List String → Prop where
  | nil {blocks : List (Block ν)} : Block.Chain blocks []
  | cons {blocks : List (Block ν)} {label : String} {items : List (Item ν)} {labels : List String}
      (isSuite : .mk .suite label (.items items) ∈ blocks)
      (below : Block.Chain (items.filterMap Item.nested?) labels) :
      Block.Chain blocks (label :: labels)

/-- A spec has a suite with these entries below its own labels, the last of which is that of the
suite. -/
inductive Spec.HasSuite : Spec ν → List String → List (Entry ν) → Prop where
  | own {spec : Spec ν} {label : String} {entries : List (Entry ν)}
      (bound : (label, .sequence entries) ∈ spec.rows) : Spec.HasSuite spec [label] entries
  | nested {spec inner : Spec ν} {label : String} {entries found : List (Entry ν)}
      {labels : List String} (bound : (label, .sequence entries) ∈ spec.rows)
      (inside : .suite inner ∈ entries) (has : Spec.HasSuite inner labels found) :
      Spec.HasSuite spec (label :: labels) found

theorem Block.Chain.mono {blocks more : List (Block ν)} {labels : List String}
    (chain : Block.Chain blocks labels) (subset : blocks ⊆ more) : Block.Chain more labels := by
  cases chain with
  | nil => exact .nil
  | cons isSuite below => exact .cons (subset isSuite) below

theorem Entries.mem_specs_iff {inner : Spec ν} {entries : List (Entry ν)} :
    inner ∈ Entries.specs entries ↔ .suite inner ∈ entries := by
  rw [specs, List.mem_filterMap]
  constructor
  · rintro ⟨entry, member, isSpec⟩
    cases entry with
    | suite spec =>
        cases isSpec
        exact member
    | _ => cases isSpec
  · intro member
    exact ⟨_, member, rfl⟩

namespace Spec

theorem induction_nested {holds : Spec ν → Prop}
    (step : ∀ spec : Spec ν, (∀ label entries inner, (label, .sequence entries) ∈ spec.rows →
      .suite inner ∈ entries → holds inner) → holds spec)
    (spec : Spec ν) : holds spec := by
  apply step
  intro label entries inner bound inside
  have rowSmaller := List.sizeOf_lt_of_mem bound
  have entrySmaller := List.sizeOf_lt_of_mem inside
  exact induction_nested step inner
termination_by sizeOf spec
decreasing_by
  obtain ⟨rows⟩ := spec
  simp only [Spec.rows, Prod.mk.sizeOf_spec, Binding.sequence.sizeOf_spec,
    Entry.suite.sizeOf_spec, Spec.mk.sizeOf_spec] at *
  omega

/-! ## Suites of a spec and suites of its blocks -/

theorem nested_items_sorted (entries : List (Entry ν)) :
    (Partition.sorted "" (entryBlocks entries) entries).items.filterMap Item.nested? =
      (Entries.specs entries).flatMap Spec.blocks := by
  rw [Partition.nested_items, ← entryBlocks_eq_flatMap_specs]
  rfl

theorem sequence_mem_blocks {spec : Spec ν} {label : String} {entries : List (Entry ν)}
    (bound : (label, .sequence entries) ∈ spec.rows) :
    .mk .suite label (.items (Partition.sorted "" (entryBlocks entries) entries).items) ∈
      spec.blocks := by
  rw [blocks_eq_map, List.mem_map]
  exact ⟨_, bound, rfl⟩

theorem HasSuite.chain {spec : Spec ν} {labels : List String} {entries : List (Entry ν)}
    (has : spec.HasSuite labels entries) : Block.Chain spec.blocks labels := by
  induction has with
  | own bound => exact .cons (sequence_mem_blocks bound) .nil
  | nested bound inside has ih =>
      refine .cons (sequence_mem_blocks bound) ?_
      rw [nested_items_sorted]
      exact ih.mono fun _ member =>
        List.mem_flatMap.mpr ⟨_, Entries.mem_specs_iff.mpr inside, member⟩

section Innocent

variable {options : Options} {path : List String}

theorem innocent_nested {spec inner : Spec ν} {label : String} {entries : List (Entry ν)}
    (innocent : ∀ position ∈ spec.positions path, position.fault? options = none)
    (bound : (label, .sequence entries) ∈ spec.rows) (inside : .suite inner ∈ entries) :
    ∀ position ∈ inner.positions (path ++ [label]), position.fault? options = none :=
  fun position isIn => innocent position (positions_subset_of_nested bound inside path isIn)

theorem exists_sequence_of_mem_blocks {spec : Spec ν} {label : String} {items : List (Item ν)}
    (innocent : ∀ position ∈ spec.positions path, position.fault? options = none)
    (isSuite : .mk .suite label (.items items) ∈ spec.blocks) :
    ∃ entries, (label, .sequence entries) ∈ spec.rows ∧
      items = (Partition.sorted "" (entryBlocks entries) entries).items := by
  rw [blocks_eq_map, List.mem_map] at isSuite
  obtain ⟨⟨name, binding⟩, bound, isBlock⟩ := isSuite
  have atLabel : .atLabel path name binding ∈ spec.positions path := by
    rw [positions_eq_flatMap, List.mem_flatMap]
    exact ⟨_, bound, List.mem_cons_self⟩
  have usable := innocent _ atLabel
  cases binding with
  | callable callable =>
      have noItems := congrArg Block.body isBlock
      cases noItems
  | sequence entries =>
      cases isBlock
      exact ⟨entries, bound, rfl⟩
  | mapping spec => cases usable
  | other kind => cases usable

theorem exists_hasSuite_of_chain {spec : Spec ν} {label : String} {labels : List String}
    (innocent : ∀ position ∈ spec.positions path, position.fault? options = none)
    (chain : Block.Chain spec.blocks (label :: labels)) :
    ∃ entries, spec.HasSuite (label :: labels) entries := by
  -- Below a suite stand the blocks of several specs together; the next label tells which of them
  -- the chain goes through, so the induction is on the labels.
  induction labels generalizing spec label path with
  | nil =>
      cases chain with
      | cons isSuite _ =>
          obtain ⟨entries, bound, -⟩ := exists_sequence_of_mem_blocks innocent isSuite
          exact ⟨entries, .own bound⟩
  | cons next more ih =>
      cases chain with
      | cons isSuite below =>
          obtain ⟨entries, bound, rfl⟩ := exists_sequence_of_mem_blocks innocent isSuite
          rw [nested_items_sorted] at below
          cases below with
          | cons isNested further =>
              obtain ⟨inner, member, ofInner⟩ := List.mem_flatMap.mp isNested
              have inside := Entries.mem_specs_iff.mp member
              obtain ⟨found, has⟩ :=
                ih (innocent_nested innocent bound inside) (.cons ofInner further)
              exact ⟨found, .nested bound inside has⟩

/-! ## Keeping and exceeding the limit -/

theorem length_le_of_nested {spec inner : Spec ν} {label : String} {entries : List (Entry ν)}
    (innocent : ∀ position ∈ spec.positions path, position.fault? options = none)
    (bound : (label, .sequence entries) ∈ spec.rows) (inside : .suite inner ∈ entries) :
    (path ++ [label]).length ≤ options.maxDepth.toNat := by
  obtain ⟨earlier, later, rfl⟩ := List.append_of_mem inside
  have entered := (Position.fault?_eq_none_iff options _).mp
    (innocent _ (entry_positions_subset bound path List.mem_cons_self))
  exact Nat.le_of_not_lt fun deep => entered _ (.tooDeep deep)

namespace HasSuite

variable {spec : Spec ν} {labels : List String} {entries : List (Entry ν)}

/-- The suites are nested at most one level deeper than the limit says. -/
theorem length_le (has : spec.HasSuite labels entries)
    (innocent : ∀ position ∈ spec.positions path, position.fault? options = none)
    (shallow : path.length ≤ options.maxDepth.toNat) :
    (path ++ labels).length ≤ options.maxDepth.toNat + 1 := by
  induction has generalizing path with
  | own bound =>
      rw [List.length_append]
      exact Nat.succ_le_succ shallow
  | nested bound inside has ih =>
      rw [List.append_cons]
      exact ih (innocent_nested innocent bound inside) (length_le_of_nested innocent bound inside)

theorem length_le_of_specs (has : spec.HasSuite labels entries)
    (innocent : ∀ position ∈ spec.positions path, position.fault? options = none)
    (some_spec : Entries.specs entries ≠ []) :
    (path ++ labels).length ≤ options.maxDepth.toNat := by
  induction has generalizing path with
  | own bound =>
      obtain ⟨inner, member⟩ := List.exists_mem_of_ne_nil _ some_spec
      exact length_le_of_nested innocent bound (Entries.mem_specs_iff.mp member)
  | nested bound inside has ih =>
      rw [List.append_cons]
      exact ih (innocent_nested innocent bound inside) some_spec

end HasSuite

end Innocent

theorem exists_of_findSome?_flatMap {α β γ : Type} {items : List α} {parts : α → List β}
    {test : β → Option γ} {found : γ}
    (isFound : (items.flatMap parts).findSome? test = some found) :
    ∃ item ∈ items, (parts item).findSome? test = some found := by
  rw [← List.head?_filterMap, List.filterMap_flatMap, List.head?_flatMap] at isFound
  obtain ⟨item, member, first⟩ := List.exists_of_findSome?_eq_some isFound
  rw [List.head?_filterMap] at first
  exact ⟨item, member, first⟩

theorem findSome?_fault_cons_iff {options : Options} {position : Position ν}
    {rest : List (Position ν)} {error : CompileError} :
    (position :: rest).findSome? (Position.fault? options) = some error ↔
      position.Offends options error ∨
        (∀ other, ¬ position.Offends options other) ∧
          rest.findSome? (Position.fault? options) = some error := by
  rw [← Position.fault?_eq_some_iff, ← Position.fault?_eq_none_iff, List.findSome?_cons]
  cases position.fault? options <;> simp

/-- If the limit stops a spec, it does so at a spec nested in one of the suites, or inside a nested
spec that has been entered. -/
theorem exists_nested_of_tooDeep {options : Options} {limit : UInt64} {deep path : List String}
    {spec : Spec ν} (stops : (spec.positions path).findSome? (Position.fault? options) =
      some (.tooDeep limit deep)) :
    ∃ label entries inner, (label, .sequence entries) ∈ spec.rows ∧ .suite inner ∈ entries ∧
      (limit = options.maxDepth ∧ deep = path ++ [label] ∧
          options.maxDepth.toNat < deep.length ∨
        (path ++ [label]).length ≤ options.maxDepth.toNat ∧
          (inner.positions (path ++ [label])).findSome? (Position.fault? options) =
            some (.tooDeep limit deep)) := by
  rw [positions_eq_flatMap] at stops
  obtain ⟨⟨label, binding⟩, bound, atRow⟩ := exists_of_findSome?_flatMap stops
  rcases findSome?_fault_cons_iff.mp atRow with offends | ⟨usable, inBinding⟩
  · cases offends
  · cases binding with
    | callable callable => cases inBinding
    | mapping inner => exact absurd .mapping (usable _)
    | other kind => cases inBinding
    | sequence entries =>
        rw [Binding.positions, entryPositions_eq_flatMap] at inBinding
        obtain ⟨⟨earlier, entry⟩, passed, atEntry⟩ := exists_of_findSome?_flatMap inBinding
        obtain ⟨_, later, -, split⟩ := mem_withEarlier_iff.mp passed
        have member : entry ∈ entries := by simp [split]
        rcases findSome?_fault_cons_iff.mp atEntry with offends | ⟨entered, inEntry⟩
        · cases offends with
          | tooDeep tooDeep => exact ⟨label, _, _, bound, member, .inl ⟨rfl, rfl, tooDeep⟩⟩
        · cases entry with
          | reference raw => cases inEntry
          | hook hook => cases inEntry
          | other kind => cases inEntry
          | suite inner =>
              have shallow := Nat.le_of_not_lt fun deep => entered _ (.tooDeep deep)
              rw [Entry.positions] at inEntry
              exact ⟨label, _, inner, bound, member, .inr ⟨shallow, inEntry⟩⟩

theorem exists_hasSuite_of_tooDeep {options : Options} {limit : UInt64} {deep : List String}
    (spec : Spec ν) (path : List String) (shallow : path.length ≤ options.maxDepth.toNat)
    (stops : (spec.positions path).findSome? (Position.fault? options) =
      some (.tooDeep limit deep)) :
    limit = options.maxDepth ∧ deep.length = options.maxDepth.toNat + 1 ∧
      ∃ labels entries, deep = path ++ labels ∧ spec.HasSuite labels entries ∧
        Entries.specs entries ≠ [] := by
  induction spec using induction_nested generalizing path with
  | step spec ih =>
      obtain ⟨label, entries, inner, bound, inside, ⟨rfl, rfl, tooDeep⟩ | ⟨shallower, further⟩⟩ :=
        exists_nested_of_tooDeep stops
      · have some_spec := List.ne_nil_of_mem (Entries.mem_specs_iff.mpr inside)
        have longer : (path ++ [label]).length = path.length + 1 := List.length_append
        exact ⟨rfl, by omega, [label], entries, rfl, .own bound, some_spec⟩
      · obtain ⟨rfl, length_eq, labels, found, rfl, has, some_spec⟩ :=
          ih label entries inner bound inside _ shallower further
        exact ⟨rfl, length_eq, label :: labels, found, (List.append_cons ..).symm,
          .nested bound inside has, some_spec⟩

end Spec

/-- Which nesting the limit lets through, at any depth.  The suites of a compiled spec are nested at
most one level deeper than the limit says, and they keep the limit exactly if every suite of the
spec that is one level too deep holds a spec.  A spec does not compile if a suite that is too deep
holds a spec.  Where the limit stops a spec, the error names a suite that is one level too deep and
holds a spec. -/
theorem nesting_exceeds_limit_only_at_leaves (options : Options) (spec : Spec ν) (depth : UInt64) :
    (∀ blocks dropped, (options.compileBlocks spec depth).result = .ok (blocks, dropped) →
      (∀ labels, Block.Chain blocks labels → labels.length ≤ options.maxDepth.toNat + 1) ∧
      ((∀ labels, Block.Chain blocks labels → labels.length ≤ options.maxDepth.toNat) ↔
        ∀ labels entries, spec.HasSuite labels entries →
          labels.length = options.maxDepth.toNat + 1 → Entries.specs entries ≠ [])) ∧
    (∀ labels entries, spec.HasSuite labels entries → options.maxDepth.toNat < labels.length →
      Entries.specs entries ≠ [] →
        ∃ error, (options.compileBlocks spec depth).result = .error error) ∧
    ∀ limit path, (options.compileBlocks spec depth).result = .error (.tooDeep limit path) →
      limit = options.maxDepth ∧ path.length = options.maxDepth.toNat + 1 ∧
        ∃ entries, spec.HasSuite path entries ∧ Entries.specs entries ≠ [] := by
  refine ⟨?_, ?_, ?_⟩
  · intro blocks dropped compiled
    obtain ⟨innocent, rfl, -⟩ := Options.compileBlocks_result_ok_iff.mp compiled
    have bounded : ∀ labels, Block.Chain spec.blocks labels →
        labels.length ≤ options.maxDepth.toNat + 1 := by
      intro labels chain
      cases labels with
      | nil => exact Nat.zero_le _
      | cons label labels =>
          obtain ⟨entries, has⟩ := Spec.exists_hasSuite_of_chain innocent chain
          exact has.length_le innocent (Nat.zero_le _)
    refine ⟨bounded, ?_, ?_⟩
    · intro kept labels entries has tooDeep
      have short := kept labels has.chain
      omega
    · -- A suite of a compiled spec that is one level too deep holds no spec, so there is none.
      intro allHold labels chain
      refine Nat.le_of_lt_succ (Nat.lt_of_le_of_ne (bounded labels chain) ?_)
      intro tooDeep
      obtain ⟨label, labels, rfl⟩ := List.exists_cons_of_length_eq_add_one tooDeep
      obtain ⟨entries, has⟩ := Spec.exists_hasSuite_of_chain innocent chain
      have short := has.length_le_of_specs innocent (allHold _ entries has tooDeep)
      rw [List.nil_append] at short
      omega
  · intro labels entries has tooDeep some_spec
    cases result : (options.compileBlocks spec depth).result with
    | error error => exact ⟨error, rfl⟩
    | ok value =>
        obtain ⟨blocks, dropped⟩ := value
        obtain ⟨innocent, -, -⟩ := Options.compileBlocks_result_ok_iff.mp result
        have short := has.length_le_of_specs innocent some_spec
        exact absurd tooDeep (Nat.not_lt.mpr short)
  · intro limit path stopped
    rw [Options.compileBlocks_result_error_iff, ← List.findSome?_eq_some_iff] at stopped
    obtain ⟨isLimit, length_eq, labels, entries, rfl, has, some_spec⟩ :=
      spec.exists_hasSuite_of_tooDeep [] (Nat.zero_le _) stopped
    exact ⟨isLimit, length_eq, entries, has, some_spec⟩

/-- Below a limit of one: a suite nested in another is one level too deep, and is let through if it
has only a name in it, but not with a case. -/
theorem nesting_exceeds_limit_only_at_leaves_widget :
    (∀ labels, Block.Chain (ν := Value) [.mk .suite "Widget" (.items [.nested (.mk .suite "parts"
        (.items [.inject ["svc"]]))])] labels → labels.length ≤ 2) ∧
    (∃ error, (({ maxDepth := 1 } : Options).compileBlocks (ν := Value)
        (.mk [("Widget", .sequence [.suite (.mk [("parts", .sequence [
          .suite (.mk [("should open", .callable (.ofSource "f"))])])])])]) 0).result =
      .error error) ∧
    ∃ entries, Spec.HasSuite (ν := Value)
        (.mk [("Widget", .sequence [.suite (.mk [("parts", .sequence [
          .suite (.mk [("should open", .callable (.ofSource "f"))])])])])])
        ["Widget", "parts"] entries ∧ Entries.specs entries ≠ [] := by
  obtain ⟨lets, -, -⟩ := nesting_exceeds_limit_only_at_leaves (ν := Value) { maxDepth := 1 }
    (.mk [("Widget", .sequence [.suite (.mk [("parts", .sequence [.reference "svc"])])])]) 0
  obtain ⟨-, refuses, names⟩ := nesting_exceeds_limit_only_at_leaves (ν := Value) { maxDepth := 1 }
    (.mk [("Widget", .sequence [.suite (.mk [("parts", .sequence [
      .suite (.mk [("should open", .callable (.ofSource "f"))])])])])]) 0
  obtain ⟨bounded, -⟩ := lets _ _ rfl
  obtain ⟨-, -, holds⟩ := names 1 ["Widget", "parts"] rfl
  have inner : Spec.HasSuite (ν := Value)
      (.mk [("parts", .sequence [.suite (.mk [("should open", .callable (.ofSource "f"))])])])
      ["parts"] [.suite (.mk [("should open", .callable (.ofSource "f"))])] :=
    .own List.mem_cons_self
  have fails := refuses _ _ (.nested List.mem_cons_self List.mem_cons_self inner) (by decide)
    (List.cons_ne_nil _ _)
  exact ⟨bounded, fails, holds⟩

/-- Two suites get past a limit of one, though not with a case in the inner one. -/
theorem limit_overlooks_leaf_suite :
    (({ maxDepth := 1 } : Options).compileBlocks (ν := Value)
        (.mk [("Widget", .sequence [.suite (.mk [("parts", .sequence [.reference "svc"])])])])
        0).result =
      .ok ([.mk .suite "Widget" (.items [.nested (.mk .suite "parts" (.items [.inject ["svc"]]))])],
        []) ∧
    Block.Chain (ν := Value)
      [.mk .suite "Widget" (.items [.nested (.mk .suite "parts" (.items [.inject ["svc"]]))])]
      ["Widget", "parts"] ∧
    ({ maxDepth := 1 } : Options).maxDepth.toNat < ["Widget", "parts"].length ∧
    (({ maxDepth := 1 } : Options).compileBlocks (ν := Value)
        (.mk [("Widget", .sequence [.suite (.mk [("parts", .sequence [.reference "svc",
          .suite (.mk [("should open", .callable (.ofSource "f"))])])])])]) 0).result =
      .error (.tooDeep 1 ["Widget", "parts"]) :=
  ⟨rfl, .cons List.mem_cons_self (.cons List.mem_cons_self .nil), by decide, rfl⟩

end SuiteOutline
