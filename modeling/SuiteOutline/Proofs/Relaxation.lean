import SuiteOutline.Proofs.Acceptance
import SuiteOutline.Proofs.Compilation

/-!
# Relaxing limits

Options that limit less: specs may be nested further, and names may be left unchecked.  A position
that offends under relaxed options offends under the stricter ones too, so whatever the stricter
options accept is accepted with the same result.  A failure that has nothing to do with the relaxed
limits is neither lifted nor overtaken by another one.
-/

namespace SuiteOutline

variable {ν : Type}

/-- Options with the same policy that allow everything other options allow. -/
structure Options.Relaxes (relaxed options : Options) : Prop where
  policy : relaxed.unknownEntries = options.unknownEntries
  depth : options.maxDepth ≤ relaxed.maxDepth
  names : relaxed.validateIdentifiers = true → options.validateIdentifiers = true

namespace Options.Relaxes

variable {relaxed options : Options} (relaxes : relaxed.Relaxes options)

include relaxes

theorem admits {name : String} (admitted : options.Admits name) : relaxed.Admits name :=
  ⟨admitted.1, fun checked => admitted.2 (relaxes.names checked)⟩

theorem exists_validate_error {reference : Reference} {cause : ReferenceError}
    (invalid : reference.validate relaxed.validateIdentifiers = .error cause) :
    ∃ other, reference.validate options.validateIdentifiers = .error other := by
  cases checked : reference.validate options.validateIdentifiers with
  | error other => exact ⟨other, rfl⟩
  | ok _ =>
      have admitted := (Reference.validate_ok_iff options reference).mp checked
      have valid := (Reference.validate_ok_iff relaxed reference).mpr fun injects =>
        relaxes.admits (admitted injects)
      rw [valid] at invalid
      cases invalid

theorem maxDepth_lt {length : Nat} (isDeep : relaxed.maxDepth.toNat < length) :
    options.maxDepth.toNat < length :=
  Nat.lt_of_le_of_lt (UInt64.le_iff_toNat_le.mp relaxes.depth) isDeep

/-- What offends under relaxed options offends under the others, though with another error if
names are checked by one of them only. -/
theorem offends_of_relaxed {position : Position ν} {error : CompileError}
    (offends : position.Offends relaxed error) : ∃ other, position.Offends options other := by
  cases offends with
  | tooDeep isDeep => exact ⟨_, .tooDeep (relaxes.maxDepth_lt isDeep)⟩
  | mapping => exact ⟨_, .mapping⟩
  | other => exact ⟨_, .other⟩
  | caseSequence isCase => exact ⟨_, .caseSequence isCase⟩
  | badReference invalid =>
      obtain ⟨cause, invalidToo⟩ := relaxes.exists_validate_error invalid
      exact ⟨_, .badReference invalidToo⟩
  | homelessHook strict unmarked before after =>
      rw [relaxes.policy] at strict
      exact ⟨_, .homelessHook strict unmarked before after⟩
  | unsupported strict =>
      rw [relaxes.policy] at strict
      exact ⟨_, .unsupported strict⟩

theorem fault?_eq_none {position : Position ν} (innocent : position.fault? options = none) :
    position.fault? relaxed = none := by
  rw [Position.fault?_eq_none_iff] at innocent ⊢
  intro error offends
  obtain ⟨other, offendsToo⟩ := relaxes.offends_of_relaxed offends
  exact innocent other offendsToo

/-- Only the errors of the two limits can be lifted. -/
theorem offends_relaxed {position : Position ν} {error : CompileError}
    (offends : position.Offends options error)
    (notDepth : ∀ limit path, error ≠ .tooDeep limit path)
    (notReference : ∀ index suite cause, error ≠ .badReference index suite cause) :
    position.Offends relaxed error := by
  cases offends with
  | tooDeep isDeep => exact absurd rfl (notDepth _ _)
  | mapping => exact .mapping
  | other => exact .other
  | caseSequence isCase => exact .caseSequence isCase
  | badReference invalid => exact absurd rfl (notReference _ _ _)
  | homelessHook strict unmarked before after =>
      rw [← relaxes.policy] at strict
      exact .homelessHook strict unmarked before after
  | unsupported strict =>
      rw [← relaxes.policy] at strict
      exact .unsupported strict

variable {spec : Spec ν} {depth : UInt64}

theorem result_ok {blocks : List (Block ν)} {dropped : List DroppedEntry}
    (compiled : (options.compileBlocks spec depth).result = .ok (blocks, dropped)) :
    (relaxed.compileBlocks spec depth).result = .ok (blocks, dropped) := by
  rw [compileBlocks_result_ok_iff] at compiled ⊢
  obtain ⟨innocent, same⟩ := compiled
  exact ⟨fun position member => relaxes.fault?_eq_none (innocent position member), same⟩

theorem result_error {error : CompileError}
    (failed : (options.compileBlocks spec depth).result = .error error)
    (notDepth : ∀ limit path, error ≠ .tooDeep limit path)
    (notReference : ∀ index suite cause, error ≠ .badReference index suite cause) :
    (relaxed.compileBlocks spec depth).result = .error error := by
  rw [compileBlocks_result_error_iff] at failed ⊢
  obtain ⟨front, position, rest, split, offends, innocent⟩ := failed
  refine ⟨front, position, rest, split, ?_, ?_⟩
  · rw [Position.fault?_eq_some_iff] at offends ⊢
    exact relaxes.offends_relaxed offends notDepth notReference
  · exact fun other member => relaxes.fault?_eq_none (innocent other member)

end Options.Relaxes

/-- Relaxing limits never changes an accepted program: what compiles under some options compiles
under relaxed ones to the same blocks with the same dropped entries, and has the same texts in the
same dialect.  A failure that is due to neither of the limits stays the same failure. -/
theorem relaxing_keeps_results {relaxed options : Options} (relaxes : relaxed.Relaxes options)
    (spec : Spec ν) (depth : UInt64) :
    (∀ blocks dropped, (options.compileBlocks spec depth).result = .ok (blocks, dropped) →
      (relaxed.compileBlocks spec depth).result = .ok (blocks, dropped)) ∧
    (relaxed.dialect = options.dialect →
      (∀ text, (options.fragment spec depth).result = .ok text →
        (relaxed.fragment spec depth).result = .ok text) ∧
      ∀ program, (options.program spec).result = .ok program →
        (relaxed.program spec).result = .ok program) ∧
    ∀ error, (options.compileBlocks spec depth).result = .error error →
      (∀ limit path, error ≠ .tooDeep limit path) →
      (∀ index suite cause, error ≠ .badReference index suite cause) →
      (relaxed.compileBlocks spec depth).result = .error error := by
  refine ⟨fun _ _ => relaxes.result_ok, ?_, fun _ => relaxes.result_error⟩
  intro sameDialect
  constructor
  · intro text made
    obtain ⟨blocks, dropped, compiled, rfl⟩ := Options.fragment_result_ok_iff.mp made
    rw [← sameDialect]
    exact Options.fragment_result_ok_iff.mpr ⟨blocks, dropped, relaxes.result_ok compiled, rfl⟩
  · intro program made
    obtain ⟨compiled, written⟩ := Options.program_result_ok_iff.mp made
    rw [← sameDialect] at written
    exact Options.program_result_ok_iff.mpr ⟨relaxes.result_ok compiled, written⟩

/-- A limit of one suite is raised to two and names are left unchecked: a spec that compiled still
does, and a spec with an unusable label in front of a bad name still fails at that label. -/
theorem relaxing_keeps_results_widget :
    Options.Relaxes { maxDepth := 2, validateIdentifiers := false } { maxDepth := 1 } ∧
    (({ maxDepth := 2, validateIdentifiers := false } : Options).compileBlocks (ν := Value)
        (.mk [("Widget", .sequence [.reference "svc", .other "number"])]) 0).result =
      .ok ([.mk .suite "Widget" (.items [.inject ["svc"]])],
        [⟨"Widget", 1, "number", .unsupportedShape⟩]) ∧
    (({ maxDepth := 2, validateIdentifiers := false } : Options).compileBlocks (ν := Value)
        (.mk [("Widget", .other "number"), ("Gadget", .sequence [.reference "not-a-name"])])
        0).result =
      .error (.unusable .suite ["Widget"] (.other "number")) := by
  have relaxes :
      Options.Relaxes { maxDepth := 2, validateIdentifiers := false } { maxDepth := 1 } :=
    ⟨rfl, by decide, by decide⟩
  obtain ⟨keeps, -, -⟩ := relaxing_keeps_results relaxes
    (.mk [("Widget", .sequence [.reference "svc", .other "number"])]) 0
  obtain ⟨-, -, fails⟩ := relaxing_keeps_results relaxes
    (.mk [("Widget", .other "number"), ("Gadget", .sequence [.reference "not-a-name"])]) 0
  exact ⟨relaxes, keeps _ _ rfl, fails _ rfl (by simp) (by simp)⟩

end SuiteOutline
