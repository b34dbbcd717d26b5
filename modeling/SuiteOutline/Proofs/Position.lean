import SuiteOutline.Proofs.Sorting

/-!
# Positions of a spec

The positions of a spec are its labels and the entries of its sequences, listed depth-first in the
order of the document.  A position may offend on its own account: whether it does depends on the
labels around it, on the entries in front of it in the same sequence, and on the options, but not
on what lies below it.
-/

namespace SuiteOutline

variable {ν : Type}

/-- A place in a spec. -/
inductive Position (ν : Type := Value) where
  /-- A label below the suites of a path, with what is bound to it. -/
  | atLabel (path : List String) (label : String) (binding : Binding ν)
  /-- An entry of the innermost suite of a path, behind other entries. -/
  | atEntry (path : List String) (earlier : List (Entry ν)) (entry : Entry ν)

mutual

/-- The positions of a spec below the suites of a path, in document order. -/
def Spec.positions (path : List String) : Spec ν → List (Position ν)
  | .mk rows => rowPositions path rows

def rowPositions (path : List String) : List (String × Binding ν) → List (Position ν)
  | [] => []
  | (label, binding) :: rest =>
      .atLabel path label binding :: (binding.positions (path ++ [label]) ++ rowPositions path rest)

def Binding.positions (path : List String) : Binding ν → List (Position ν)
  | .callable _ => []
  | .sequence entries => entryPositions path [] entries
  | .mapping spec => spec.positions path
  | .other _ => []

def entryPositions (path : List String) (earlier : List (Entry ν)) :
    List (Entry ν) → List (Position ν)
  | [] => []
  | entry :: rest =>
      .atEntry path earlier entry ::
        (entry.positions path ++ entryPositions path (earlier ++ [entry]) rest)

def Entry.positions (path : List String) : Entry ν → List (Position ν)
  | .reference _ => []
  | .hook _ => []
  | .suite spec => spec.positions path
  | .other _ => []

end

theorem Spec.positions_eq_flatMap (path : List String) (spec : Spec ν) :
    spec.positions path = spec.rows.flatMap fun (label, binding) =>
      .atLabel path label binding :: binding.positions (path ++ [label]) := by
  obtain ⟨rows⟩ := spec
  rw [Spec.positions, Spec.rows]
  induction rows with
  | nil => rw [rowPositions, List.flatMap_nil]
  | cons row rest ih => rw [rowPositions, ih, List.flatMap_cons, List.cons_append]

theorem entryPositions_eq_flatMap (path : List String) (earlier entries : List (Entry ν)) :
    entryPositions path earlier entries =
      (withEarlier earlier entries).flatMap fun (earlier, entry) =>
        .atEntry path earlier entry :: entry.positions path := by
  induction entries generalizing earlier with
  | nil => rw [entryPositions, withEarlier, List.flatMap_nil]
  | cons entry rest ih =>
      rw [entryPositions, ih, withEarlier, List.flatMap_cons, List.cons_append]

namespace Position

/-- A position offends, and a compilation that stops there fails with this error. -/
inductive Offends (options : Options) : Position ν → CompileError → Prop where
  /-- A nested spec, empty or not, lies below more suites than are allowed. -/
  | tooDeep {path : List String} {earlier : List (Entry ν)} {spec : Spec ν}
      (deep : options.maxDepth.toNat < path.length) :
      Offends options (.atEntry path earlier (.suite spec)) (.tooDeep options.maxDepth path)
  | mapping {path : List String} {label : String} {spec : Spec ν} :
      Offends options (.atLabel path label (.mapping spec))
        (.unusable (LabelKind.ofLabel label) (path ++ [label]) .mapping)
  | other {path : List String} {label kind : String} :
      Offends options (.atLabel path label (.other kind))
        (.unusable (LabelKind.ofLabel label) (path ++ [label]) (.other kind))
  | caseSequence {path : List String} {label : String} {entries : List (Entry ν)}
      (isCase : LabelKind.ofLabel label = .case) :
      Offends options (.atLabel path label (.sequence entries))
        (.unusable .case (path ++ [label]) .sequence)
  | badReference {path : List String} {earlier : List (Entry ν)} {raw : String}
      {cause : ReferenceError}
      (invalid : (Reference.decode raw).validate options.validateIdentifiers = .error cause) :
      Offends options (.atEntry path earlier (.reference raw))
        (.badReference earlier.length (pathText path) cause)
  /-- An unmarked hook stands behind hooks that fill both buckets, and the policy refuses it. -/
  | homelessHook {path : List String} {earlier : List (Entry ν)} {hook : Callable ν}
      (strict : options.unknownEntries = .reject) (unmarked : hook.tag = .unmarked)
      (before : Hooks.inBucket .before (Entries.hooks earlier) ≠ [])
      (after : Hooks.inBucket .after (Entries.hooks earlier) ≠ []) :
      Offends options (.atEntry path earlier (.hook hook))
        (.unplaced ⟨pathText path, earlier.length, "callable", .hooksTaken⟩)
  | unsupported {path : List String} {earlier : List (Entry ν)} {kind : String}
      (strict : options.unknownEntries = .reject) :
      Offends options (.atEntry path earlier (.other kind))
        (.unplaced ⟨pathText path, earlier.length, kind, .unsupportedShape⟩)

def labelFault? (path : List String) (label : String) : Binding ν → Option CompileError
  | .callable _ => none
  | .sequence _ =>
      if isCaseLabel label then some (.unusable .case (path ++ [label]) .sequence) else none
  | .mapping _ => some (.unusable (LabelKind.ofLabel label) (path ++ [label]) .mapping)
  | .other kind => some (.unusable (LabelKind.ofLabel label) (path ++ [label]) (.other kind))

def entryFault? (options : Options) (path : List String) (earlier : List (Entry ν))
    (entry : Entry ν) :
    Option CompileError :=
  match entry with
  | .reference raw =>
      match (Reference.decode raw).validate options.validateIdentifiers with
      | .error cause => some (.badReference earlier.length (pathText path) cause)
      | .ok () => none
  | .suite _ =>
      if options.maxDepth.toNat < path.length then some (.tooDeep options.maxDepth path) else none
  | entry =>
      match options.unknownEntries with
      | .warn => none
      | .reject => (entry.dropped? (pathText path) earlier).map .unplaced

def fault? (options : Options) : Position ν → Option CompileError
  | .atLabel path label binding => labelFault? path label binding
  | .atEntry path earlier entry => entryFault? options path earlier entry

theorem labelFault?_eq_some_iff (options : Options) (path : List String) (label : String)
    (binding : Binding ν) (error : CompileError) :
    labelFault? path label binding = some error ↔
      Offends options (.atLabel path label binding) error := by
  cases binding with
  | callable callable =>
      constructor
      · intro found
        cases found
      · intro offends
        cases offends
  | sequence entries =>
      constructor
      · intro found
        simp only [labelFault?] at found
        split at found
        · rename_i isCase
          cases found
          exact .caseSequence (if_pos isCase)
        · cases found
      · intro offends
        cases offends with
        | caseSequence isCase =>
            have named : isCaseLabel label = true := by
              by_contra notCase
              rw [LabelKind.ofLabel, if_neg notCase] at isCase
              cases isCase
            exact if_pos named
  | mapping spec =>
      constructor
      · intro found
        cases found
        exact .mapping
      · intro offends
        cases offends
        rfl
  | other kind =>
      constructor
      · intro found
        cases found
        exact .other
      · intro offends
        cases offends
        rfl

theorem entryFault?_eq_some_iff (options : Options) (path : List String) (earlier : List (Entry ν))
    (entry : Entry ν) (error : CompileError) :
    entryFault? options path earlier entry = some error ↔
      Offends options (.atEntry path earlier entry) error := by
  cases entry with
  | reference raw =>
      constructor
      · intro found
        simp only [entryFault?] at found
        split at found
        · rename_i cause invalid
          cases found
          exact .badReference invalid
        · cases found
      · intro offends
        cases offends with
        | badReference invalid => simp only [entryFault?, invalid]
  | suite spec =>
      constructor
      · intro found
        simp only [entryFault?] at found
        split at found
        · rename_i deep
          cases found
          exact .tooDeep deep
        · cases found
      · intro offends
        cases offends with
        | tooDeep deep => exact if_pos deep
  | hook callable =>
      constructor
      · intro found
        simp only [entryFault?] at found
        split at found
        · cases found
        · rename_i strict
          obtain ⟨record, isRecord, rfl⟩ := Option.map_eq_some_iff.mp found
          obtain ⟨homeless, rfl⟩ := (Entry.dropped?_hook_eq_some_iff _ _ _ _).mp isRecord
          obtain ⟨unmarked, before, after⟩ := (Hooks.bucket?_eq_none_iff _ _).mp homeless
          exact .homelessHook strict unmarked before after
      · intro offends
        cases offends with
        | homelessHook strict unmarked before after =>
            have homeless := (Hooks.bucket?_eq_none_iff _ _).mpr ⟨unmarked, before, after⟩
            have isRecord :=
              (Entry.dropped?_hook_eq_some_iff (pathText path) earlier callable _).mpr
              ⟨homeless, rfl⟩
            simp only [entryFault?, strict, isRecord, Option.map_some]
  | other kind =>
      constructor
      · intro found
        simp only [entryFault?] at found
        split at found
        · cases found
        · rename_i strict
          cases found
          exact .unsupported strict
      · intro offends
        cases offends with
        | unsupported strict =>
            simp only [entryFault?, strict]
            rfl

theorem fault?_eq_some_iff (options : Options) (position : Position ν) (error : CompileError) :
    position.fault? options = some error ↔ position.Offends options error := by
  cases position with
  | atLabel path label binding => exact labelFault?_eq_some_iff options path label binding error
  | atEntry path earlier entry => exact entryFault?_eq_some_iff options path earlier entry error

theorem fault?_eq_none_iff (options : Options) (position : Position ν) :
    position.fault? options = none ↔ ∀ error, ¬ position.Offends options error := by
  rw [Option.eq_none_iff_forall_ne_some]
  constructor
  · intro noFault error offends
    exact noFault error ((fault?_eq_some_iff options position error).mpr offends)
  · intro innocent error found
    exact innocent error ((fault?_eq_some_iff options position error).mp found)

end Position

end SuiteOutline
