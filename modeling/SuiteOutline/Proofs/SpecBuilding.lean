import SuiteOutline.Proofs.Acceptance
import SuiteOutline.Proofs.Sameness

/-!
# Building specs

A spec is built step by step, each step binding a label.  Whatever the steps, a label stands where
it was first bound and has the value that it was last bound to.  This is all that equality sees of
the steps, but for the places, and all that a compilation sees.
-/

namespace SuiteOutline

variable {ν : Type}

/-- One step of building a spec, taken by itself or in a chain of steps. -/
inductive SpecStep (ν : Type := Value) where
  | insert (label : String) (binding : Binding ν)
  | suite (label : String) (entries : List (Entry ν))
  | case (label source : String)

namespace SpecStep

def apply (spec : Spec ν) : SpecStep ν → Spec ν
  | .insert label binding => spec.insert label binding
  | .suite label entries => spec.insertSuite label entries
  | .case label source => spec.insertCase label source

def label : SpecStep ν → String
  | .insert label _ => label
  | .suite label _ => label
  | .case label _ => label

def binding : SpecStep ν → Binding ν
  | .insert _ binding => binding
  | .suite _ entries => .sequence entries
  | .case _ source => .callable (Callable.ofSource source)

def row (step : SpecStep ν) : String × Binding ν :=
  (step.label, step.binding)

theorem apply_eq_insert (spec : Spec ν) (step : SpecStep ν) :
    step.apply spec = spec.insert step.label step.binding := by
  cases step <;> rfl

theorem keys_rows (steps : List (SpecStep ν)) :
    Rows.keys (steps.map row) = steps.map label := by
  rw [Rows.keys, List.map_map]
  rfl

end SpecStep

namespace Spec

def build (steps : List (SpecStep ν)) : Spec ν :=
  steps.foldl SpecStep.apply empty

theorem build_eq_ofList (steps : List (SpecStep ν)) :
    build steps = ofList (steps.map SpecStep.row) := by
  induction steps using List.reverseRecOn with
  | nil => rfl
  | append_singleton steps last ih =>
      have single : [last].map SpecStep.row = [(last.label, last.binding)] := rfl
      rw [build, List.foldl_append, ← build, ih, List.map_append, single, ofList, ofList,
        Rows.ofList_concat]
      exact last.apply_eq_insert _

theorem labels_build (steps : List (SpecStep ν)) :
    (build steps).labels = (steps.map SpecStep.label).eraseDups := by
  rw [build_eq_ofList, ← SpecStep.keys_rows, ← Rows.keys_ofList]
  rfl

theorem nodup_labels_build (steps : List (SpecStep ν)) : (build steps).labels.Nodup := by
  rw [build_eq_ofList]
  exact Rows.nodup_keys_ofList _

theorem get?_build_eq_some_iff {steps : List (SpecStep ν)} {label : String} {binding : Binding ν} :
    (build steps).get? label = some binding ↔
      Rows.LastBinds (steps.map SpecStep.row) label binding := by
  rw [build_eq_ofList]
  exact Rows.find?_ofList_eq_some_iff

theorem get?_build_eq_none_iff {steps : List (SpecStep ν)} {label : String} :
    (build steps).get? label = none ↔ label ∉ steps.map SpecStep.label := by
  rw [build_eq_ofList, ← SpecStep.keys_rows]
  exact Rows.find?_ofList_eq_none_iff

theorem size_build (steps : List (SpecStep ν)) :
    (build steps).size = (steps.map SpecStep.label).toFinset.card := by
  rw [build_eq_ofList, ← SpecStep.keys_rows]
  exact Rows.length_ofList _

/-! ## Steps in another order -/

/-- Further steps keep specs apart at no label at which they were not apart before. -/
theorem get?_foldl_congr {first second : Spec ν} (steps : List (SpecStep ν))
    (same : ∀ label, first.get? label = second.get? label) (label : String) :
    (steps.foldl SpecStep.apply first).get? label =
      (steps.foldl SpecStep.apply second).get? label := by
  induction steps generalizing first second with
  | nil => exact same label
  | cons step rest ih =>
      refine ih fun sought => ?_
      rw [step.apply_eq_insert, step.apply_eq_insert, get?, get?, insert, insert, rows, rows,
        Rows.find?_insert, Rows.find?_insert]
      exact congrArg _ (same sought)

theorem get?_apply_apply_of_ne {one other : SpecStep ν} (differ : one.label ≠ other.label)
    (spec : Spec ν) (label : String) :
    (other.apply (one.apply spec)).get? label = (one.apply (other.apply spec)).get? label := by
  simp only [SpecStep.apply_eq_insert, get?, insert, rows, Rows.find?_insert]
  by_cases isOther : label = other.label
  · rw [if_pos isOther, if_neg (isOther ▸ Ne.symm differ), if_pos isOther]
  · rw [if_neg isOther, if_neg isOther]

theorem get?_build_swap {one other : SpecStep ν} (differ : one.label ≠ other.label)
    (earlier later : List (SpecStep ν)) (label : String) :
    (build (earlier ++ one :: other :: later)).get? label =
      (build (earlier ++ other :: one :: later)).get? label := by
  rw [build, build, List.foldl_append, List.foldl_append]
  exact get?_foldl_congr later (get?_apply_apply_of_ne differ _) label

theorem same_build_iff (first second : List (SpecStep ν)) :
    (build first).same (build second) = true ↔
      ∀ label, (build first).AgreeAt (build second) label :=
  same_iff_agreeAt (nodup_labels_build first) (nodup_labels_build second)

theorem same_build_swap {one other : SpecStep ν} (differ : one.label ≠ other.label)
    (earlier later : List (SpecStep ν))
    (distinct : ∀ step ∈ earlier ++ one :: other :: later, step.binding.Distinct) :
    (build (earlier ++ one :: other :: later)).same (build (earlier ++ other :: one :: later)) =
      true := by
  refine (same_build_iff _ _).mpr fun label => ?_
  rw [AgreeAt, ← get?_build_swap differ]
  cases bound : (build (earlier ++ one :: other :: later)).get? label with
  | none => exact .none
  | some binding =>
      obtain ⟨front, back, isRows, -⟩ := get?_build_eq_some_iff.mp bound
      have isIn : (label, binding) ∈ (earlier ++ one :: other :: later).map SpecStep.row := by
        rw [isRows]
        exact List.mem_append_right _ List.mem_cons_self
      obtain ⟨step, isStep, isRow⟩ := List.mem_map.mp isIn
      have isBinding : step.binding = binding := congrArg Prod.snd isRow
      exact .some (Binding.same_self (isBinding ▸ distinct step isStep))

end Spec

/-! ## Compiling what was built -/

/-- A label bound to a value compiles to a block when it is the only one of its spec. -/
def Options.CompilesAlone (options : Options) (depth : UInt64) (label : String)
    (binding : Binding ν) (block : Block ν) : Prop :=
  (options.compileBlocks (Spec.empty.insert label binding) depth).outcome = .ok [block]

theorem Options.compileBlocks_ok_iff_rows {options : Options} {spec : Spec ν} {depth : UInt64}
    {blocks : List (Block ν)} :
    (options.compileBlocks spec depth).outcome = .ok blocks ↔
      List.Forall₂ (fun row block => options.CompilesAlone depth row.1 row.2 block) spec.rows
        blocks := by
  obtain ⟨rows⟩ := spec
  have alone (label : String) (binding : Binding ν) (block : Block ν) :
      options.CompilesAlone depth label binding block ↔
        (binding.compile options [] depth label).outcome = .ok block := by
    rw [CompilesAlone, compileBlocks, Spec.empty, Spec.insert, Spec.rows, Rows.insert,
      Spec.compile_ok_iff, compileRows_ok_iff]
    simp
  simp only [alone]
  rw [compileBlocks, Spec.compile_ok_iff, compileRows_ok_iff]
  simp [Spec.rows]

theorem Options.CompilesAlone.label_eq {options : Options} {depth : UInt64} {label : String}
    {binding : Binding ν} {block : Block ν}
    (compiled : options.CompilesAlone depth label binding block) :
    block.label = label := by
  have means := ((options.compileBlocks_settles _ depth).of_ok compiled).1
  rw [Spec.blocks_eq_map, Spec.insert, Spec.empty, Spec.rows, Spec.rows, Rows.insert] at means
  simp only [List.map_cons, List.map_nil, List.cons.injEq, and_true] at means
  rw [means, Binding.block_label]

theorem Options.labels_of_compiled {options : Options} {depth : UInt64}
    {rows : List (String × Binding ν)} {blocks : List (Block ν)}
    (compiled : List.Forall₂ (fun row block => options.CompilesAlone depth row.1 row.2 block) rows
      blocks) : blocks.map Block.label = Rows.keys rows := by
  induction compiled with
  | nil => rfl
  | cons first _ ih => rw [List.map_cons, ih, first.label_eq, Rows.keys, Rows.keys, List.map_cons]

theorem Rows.forall₂_iff_keys {α β : Type} {rows : List (String × α)} {results : List β}
    (distinct : (keys rows).Nodup) (holds : String → α → β → Prop) :
    List.Forall₂ (fun row result => holds row.1 row.2 result) rows results ↔
      List.Forall₂ (fun key result => ∃ value, find? key rows = some value ∧ holds key value result)
        (keys rows) results := by
  rw [keys, List.forall₂_map_left_iff, List.forall₂_iff_zip, List.forall₂_iff_zip]
  refine and_congr_right fun _ => ?_
  have found (row : String × α) (result : β) (isIn : (row, result) ∈ rows.zip results) :
      find? row.1 rows = some row.2 := find?_of_mem distinct (List.of_mem_zip isIn).1
  constructor
  · intro each row result isIn
    exact ⟨row.2, found row result isIn, each isIn⟩
  · intro each row result isIn
    obtain ⟨value, isValue, isResult⟩ := each isIn
    rw [found row result isIn, Option.some.injEq] at isValue
    exact isValue ▸ isResult

/-- What was built compiles label by label, each with the last value that it was bound to. -/
theorem Options.compileBlocks_build_ok_iff {options : Options} {steps : List (SpecStep ν)}
    {depth : UInt64} {blocks : List (Block ν)} :
    (options.compileBlocks (Spec.build steps) depth).outcome = .ok blocks ↔
      List.Forall₂ (fun label block => ∃ binding,
          Rows.LastBinds (steps.map SpecStep.row) label binding ∧
          options.CompilesAlone depth label binding block)
        (steps.map SpecStep.label).eraseDups blocks := by
  rw [compileBlocks_ok_iff_rows, Rows.forall₂_iff_keys (Spec.nodup_labels_build steps),
    ← Spec.labels_build]
  simp only [← Spec.get?_build_eq_some_iff]
  rfl

/-- A spec keeps of its building the first places and the last values.  Its labels are distinct and
stand in the order in which they were first bound; a label has the value that it was last bound to,
and none if it never was bound; there are as many as were bound.  Collecting rows is building by
steps.  Two sequences of steps build equal specs exactly if they leave every label with equal
values, or neither binds it; so steps that bind different labels may change places.  What was built
compiles to one block for each label, in the order of the labels, which is that of the last value of
the label by itself. -/
theorem building_keeps_first_places_and_last_values :
    (∀ steps : List (SpecStep ν),
      (Spec.build steps).labels.Nodup ∧
      (Spec.build steps).labels = (steps.map SpecStep.label).eraseDups ∧
      (∀ label binding, (Spec.build steps).get? label = some binding ↔
        Rows.LastBinds (steps.map SpecStep.row) label binding) ∧
      (∀ label, (Spec.build steps).get? label = none ↔ label ∉ steps.map SpecStep.label) ∧
      (Spec.build steps).size = (steps.map SpecStep.label).toFinset.card) ∧
    (∀ rows : List (String × Binding ν), Spec.ofList rows =
      Spec.build (rows.map fun (label, binding) => .insert label binding)) ∧
    (∀ first second : List (SpecStep ν), (Spec.build first).same (Spec.build second) = true ↔
      ∀ label, (Spec.build first).AgreeAt (Spec.build second) label) ∧
    (∀ (one other : SpecStep ν) (earlier later : List (SpecStep ν)), one.label ≠ other.label →
      (∀ step ∈ earlier ++ one :: other :: later, step.binding.Distinct) →
      (Spec.build (earlier ++ one :: other :: later)).same
        (Spec.build (earlier ++ other :: one :: later)) = true) ∧
    ∀ (options : Options) (steps : List (SpecStep ν)),
      (∀ depth blocks, (options.compileBlocks (Spec.build steps) depth).outcome = .ok blocks ↔
        List.Forall₂ (fun label block => ∃ binding,
            Rows.LastBinds (steps.map SpecStep.row) label binding ∧
            options.CompilesAlone depth label binding block)
          (steps.map SpecStep.label).eraseDups blocks) ∧
      ∀ program, (options.program (Spec.build steps)).result = .ok program →
        program.blocks.map Block.label = (steps.map SpecStep.label).eraseDups ∧
        (options.compileBlocks (Spec.build steps) 0).outcome = .ok program.blocks ∧
        program.text = Script.blocks options.dialect program.blocks := by
  refine ⟨?_, ?_, Spec.same_build_iff, fun _ _ earlier later differ =>
    Spec.same_build_swap differ earlier later, ?_⟩
  · intro steps
    exact ⟨Spec.nodup_labels_build steps, Spec.labels_build steps,
      fun _ _ => Spec.get?_build_eq_some_iff, fun _ => Spec.get?_build_eq_none_iff,
      Spec.size_build steps⟩
  · intro rows
    have same : (rows.map fun (label, binding) => SpecStep.insert label binding).map
        SpecStep.row = rows := by
      rw [List.map_map]
      exact List.map_id rows
    rw [Spec.build_eq_ofList, same]
  · intro options steps
    refine ⟨fun _ _ => Options.compileBlocks_build_ok_iff, fun program made => ?_⟩
    obtain ⟨blocks, compiled, rfl⟩ := Options.program_ok_iff.mp made
    refine ⟨?_, compiled, rfl⟩
    rw [← Spec.labels_build]
    exact Options.labels_of_compiled (Options.compileBlocks_ok_iff_rows.mp compiled)

/-- A label that is bound twice, around a suite and a case that change places. -/
theorem building_keeps_first_places_and_last_values_widget :
    (Spec.build (ν := Value) [.case "should b" "f", .suite "Widget" [.reference "svc"],
        .case "should a" "g", .case "should b" "h"]).same
      (Spec.build [.case "should b" "f", .case "should a" "g", .suite "Widget" [.reference "svc"],
        .case "should b" "h"]) = true ∧
    ∃ program : Program,
      (({} : Options).program (Spec.build [.case "should b" "f",
        .suite "Widget" [.reference "svc"], .case "should a" "g", .case "should b" "h"])).result =
        .ok program ∧
      program.blocks.map Block.label = ["should b", "Widget", "should a"] := by
  obtain ⟨-, -, -, swap, compiles⟩ := building_keeps_first_places_and_last_values (ν := Value)
  have distinct : ∀ step ∈ [(.case "should b" "f" : SpecStep)] ++
      .suite "Widget" [.reference "svc"] :: .case "should a" "g" :: [.case "should b" "h"],
      step.binding.Distinct := by
    simp [SpecStep.binding, Binding.Distinct, entriesDistinct, Entry.Distinct]
  have labels := ((compiles {} [.case "should b" "f", .suite "Widget" [.reference "svc"],
    .case "should a" "g", .case "should b" "h"]).2 _ rfl).1
  exact ⟨swap _ _ _ _ (by decide) distinct, _, rfl, labels.trans (by decide)⟩

end SuiteOutline
