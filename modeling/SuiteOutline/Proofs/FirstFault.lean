import SuiteOutline.Proofs.Compilation

/-!
# The first fault of a spec

A spec compiles exactly if none of its positions offends.  Otherwise the compilation fails at the
offending position that comes first in document order, and the report of the failure names that
position: its chain of labels, its place in the sequence, its shape, or the cause.
-/

namespace SuiteOutline

variable {ν : Type}

namespace Position

/-- What a report says about the position at which a compilation stopped. -/
def Tells (options : Options) (position : Position ν) (report : Report) : Prop :=
  match position with
  | .atLabel path label binding =>
      report.kind = .format ∧ report.cause? = none ∧
        report.notice.message = "expected sequence or callable for "
          ++ (LabelKind.ofLabel label).name ++ " '" ++ pathText (path ++ [label]) ++ "', found "
          ++ binding.shape
  | .atEntry path _ (.suite _) =>
      report.kind = .format ∧ report.cause? = none ∧
        report.notice.message = "spec nesting exceeds " ++ toString options.maxDepth.toNat
          ++ " levels at '" ++ pathText path ++ "'"
  | .atEntry path earlier (.reference raw) =>
      report.kind = .reference ∧
        (∃ cause, (Reference.decode raw).validate options.validateIdentifiers = .error cause ∧
          report.cause? = some (.report cause.report)) ∧
        report.notice.message = "entry " ++ toString earlier.length ++ " of '" ++ pathText path
          ++ "' is not a usable reference"
  | .atEntry path earlier entry =>
      report.kind = .unrecognizedEntry ∧ report.cause? = none ∧
        ∃ reason, entry.dropReason? earlier = some reason ∧
          report.notice.message = "entry " ++ toString earlier.length ++ " of '" ++ pathText path
            ++ "' (" ++ entry.shape ++ "): " ++ reason.text

theorem Offends.tells {options : Options} {position : Position ν} {error : CompileError}
    (offends : position.Offends options error) : position.Tells options error.report := by
  cases offends with
  | tooDeep deep => exact ⟨rfl, rfl, rfl⟩
  | mapping => exact ⟨rfl, rfl, rfl⟩
  | other => exact ⟨rfl, rfl, rfl⟩
  | caseSequence isCase =>
      refine ⟨rfl, rfl, ?_⟩
      rw [isCase]
      rfl
  | badReference invalid => exact ⟨rfl, ⟨_, invalid, rfl⟩, rfl⟩
  | homelessHook strict unmarked before after =>
      have homeless := (Hooks.bucket?_eq_none_iff _ _).mpr ⟨unmarked, before, after⟩
      exact ⟨rfl, rfl, .hooksTaken, if_pos homeless, rfl⟩
  | unsupported strict => exact ⟨rfl, rfl, .unsupportedShape, rfl, rfl⟩

end Position

namespace Run.Settles

variable {α : Type} {options : Options} {positions : List (Position ν)} {value : α}
  {dropped : List DroppedEntry} {run : Run α ν}

theorem ok_iff (settles : Settles options positions value dropped run) :
    (∃ result, run.outcome = .ok result) ↔
      ∀ position ∈ positions, ∀ error, ¬ position.Offends options error := by
  have innocent : positions.findSome? (Position.fault? options) = none ↔
      ∀ position ∈ positions, ∀ error, ¬ position.Offends options error := by
    simp only [List.findSome?_eq_none_iff, Position.fault?_eq_none_iff]
  rw [← innocent, settles.outcome_eq]
  cases positions.findSome? (Position.fault? options) <;> simp

theorem error_iff (settles : Settles options positions value dropped run) (error : CompileError) :
    run.outcome = .error error ↔
      ∃ front position rest, positions = front ++ position :: rest ∧
        (∀ innocent ∈ front, ∀ other, ¬ innocent.Offends options other) ∧
        position.Offends options error := by
  have stops : run.outcome = .error error ↔
      positions.findSome? (Position.fault? options) = some error := by
    rw [settles.outcome_eq]
    cases positions.findSome? (Position.fault? options) <;> simp
  rw [stops, List.findSome?_eq_some_iff]
  constructor
  · rintro ⟨front, position, rest, split, found, innocent⟩
    refine ⟨front, position, rest, split, ?_, (Position.fault?_eq_some_iff _ _ _).mp found⟩
    intro earlier isIn
    exact (Position.fault?_eq_none_iff options earlier).mp (innocent earlier isIn)
  · rintro ⟨front, position, rest, split, innocent, offends⟩
    refine ⟨front, position, rest, split, (Position.fault?_eq_some_iff _ _ _).mpr offends, ?_⟩
    intro earlier isIn
    exact (Position.fault?_eq_none_iff options earlier).mpr (innocent earlier isIn)

end Run.Settles

/-- A spec compiles exactly if none of its positions offends, and fails with exactly the error of
the offending position that comes first in document order, whose report names that position. -/
theorem compileBlocks_stops_at_first_offending (options : Options) (spec : Spec ν)
    (depth : UInt64) :
    ((∃ blocks, (options.compileBlocks spec depth).outcome = .ok blocks) ↔
      ∀ position ∈ spec.positions [], ∀ error, ¬ position.Offends options error) ∧
    ∀ error, (options.compileBlocks spec depth).outcome = .error error ↔
      ∃ front position rest, spec.positions [] = front ++ position :: rest ∧
        (∀ innocent ∈ front, ∀ other, ¬ innocent.Offends options other) ∧
        position.Offends options error ∧ position.Tells options error.report := by
  have settles := options.compileBlocks_settles spec depth
  refine ⟨settles.ok_iff, ?_⟩
  intro error
  rw [settles.error_iff error]
  constructor
  · rintro ⟨front, position, rest, split, innocent, offends⟩
    exact ⟨front, position, rest, split, innocent, offends, offends.tells⟩
  · rintro ⟨front, position, rest, split, innocent, offends, -⟩
    exact ⟨front, position, rest, split, innocent, offends⟩

end SuiteOutline
