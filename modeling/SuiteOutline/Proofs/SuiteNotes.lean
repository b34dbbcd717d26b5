import SuiteOutline.Proofs.SuitePlaces

/-!
# What a compilation notes

A suite is noted when it is complete: what it dropped, its buckets and its block, behind the notes
of the suites nested in it.  A failure ends the notes, so that the suites still open are not noted.
A compilation therefore notes exactly the suites up to whose end nothing offends.
-/

namespace SuiteOutline

variable {ν : Type}

namespace SuitePlace

/-- The depth at which the suite is noted, if the spec starts at a depth. -/
def depth (start : UInt64) (place : SuitePlace ν) : UInt64 :=
  start + UInt64.ofNat place.enclosing.length

def run (options : Options) (start : UInt64) (place : SuitePlace ν) : Run (Block ν) ν :=
  (Binding.sequence place.entries).compile options place.enclosing (place.depth start) place.label

/-- Whether the compilation of a spec completes the suite: nothing in front of the suite stops it,
and nothing in the suite does. -/
def completes (options : Options) (start : UInt64) (place : SuitePlace ν) : Bool :=
  place.earlier.all (fun position => (position.fault? options).isNone) &&
    (place.run options start).outcome.isOk

def block (place : SuitePlace ν) : Block ν :=
  (Binding.sequence place.entries).block place.label

def partition (place : SuitePlace ν) : Partition ν :=
  Partition.sorted (pathText place.labels) (entryBlocks place.entries) place.entries

/-- What is noted of the suite when it is complete. -/
def notes (start : UInt64) (place : SuitePlace ν) : List (Note ν) :=
  (Entries.dropped (pathText place.labels) place.entries).map .dropped ++
    [.partitioned (pathText place.labels) (place.depth start) place.partition,
      .compiled (pathText place.labels) place.block]

end SuitePlace

theorem SuitePlace.completes_iff {options : Options} {start : UInt64} {place : SuitePlace ν} :
    place.completes options start = true ↔
      ∀ position ∈ place.earlier ++ place.positions, position.fault? options = none := by
  have outcome := (Binding.compile_settles options place.enclosing (place.depth start) place.label
    (.sequence place.entries)).outcome_eq
  rw [completes, Bool.and_eq_true, List.all_eq_true, List.forall_mem_append, run, outcome,
    ← List.findSome?_eq_none_iff (l := place.positions), positions, position, labels]
  refine and_congr ?_ ?_
  · simp only [Option.isNone_iff_eq_none]
  · cases List.findSome? (Position.fault? options) _ <;> simp [Except.isOk, Except.toBool]

/-- What is noted of those suites that a compilation completes. -/
def groups (options : Options) (start : UInt64) (places : List (SuitePlace ν)) : List (Note ν) :=
  (places.filter (SuitePlace.completes options start)).flatMap (SuitePlace.notes start)

section Groups

variable (options : Options) (start : UInt64)

theorem groups_append (first second : List (SuitePlace ν)) :
    groups options start (first ++ second) =
      groups options start first ++ groups options start second := by
  rw [groups, List.filter_append, List.flatMap_append]
  rfl

/-- Behind an offending position, or around it, no suite is completed. -/
theorem groups_eq_nil {places : List (SuitePlace ν)} {position : Position ν} {error : CompileError}
    (behind : ∀ place ∈ places, position ∈ place.earlier ++ place.positions)
    (offends : position.fault? options = some error) : groups options start places = [] := by
  have noneCompletes : places.filter (SuitePlace.completes options start) = [] := by
    rw [List.filter_eq_nil_iff]
    intro place isIn completes
    have innocent := SuitePlace.completes_iff.mp completes position (behind place isIn)
    rw [offends] at innocent
    cases innocent
  rw [groups, noneCompletes, List.flatMap_nil]

theorem groups_eq_nil_of_perm {passed positions : List (Position ν)} {places : List (SuitePlace ν)}
    (perm : places.Perm (suitesAt passed positions)) {position : Position ν} {error : CompileError}
    (isPassed : position ∈ passed) (offends : position.fault? options = some error) :
    groups options start places = [] := by
  refine groups_eq_nil options start ?_ offends
  intro place isIn
  exact List.mem_append_left _ (subset_earlier_of_perm perm isIn isPassed)

theorem groups_singleton {place : SuitePlace ν}
    (innocent : ∀ position ∈ place.earlier ++ place.positions, position.fault? options = none) :
    groups options start [place] = place.notes start := by
  rw [groups, List.filter_cons_of_pos (SuitePlace.completes_iff.mpr innocent)]
  simp

end Groups

/-! ## What one part notes -/

namespace Run

variable {α β : Type} {options : Options}

/-- One part after another notes what both note; if the first one fails, the other notes nothing. -/
theorem notes_andThen {first : Run α ν} {next : α → Run β ν} {positions : List (Position ν)}
    {value : α} {dropped : List DroppedEntry}
    (settles : first.Settles options positions value dropped)
    {notes further : List (Note ν)} (own : first.notes = notes)
    (later : (∀ position ∈ positions, position.fault? options = none) →
      (next value).notes = further)
    (skipped : ∀ position ∈ positions, ∀ error, position.fault? options = some error →
      further = []) :
    (first.andThen next).notes = notes ++ further := by
  have outcome := settles.outcome_eq
  cases found : positions.findSome? (Position.fault? options) with
  | none =>
      rw [found] at outcome
      rw [andThen, outcome, own, ← later (List.findSome?_eq_none_iff.mp found)]
  | some error =>
      obtain ⟨position, isIn, offends⟩ := List.exists_of_findSome?_eq_some found
      rw [found] at outcome
      rw [andThen, outcome, own, skipped position isIn error offends, List.append_nil]

end Run

theorem finishSuite_notes (start : UInt64) (place : SuitePlace ν) :
    (finishSuite place.label (pathText place.labels) (place.depth start) place.partition).notes =
      place.notes start := by
  rw [SuitePlace.notes, SuitePlace.block, Binding.block,
    Partition.items_sorted (entryBlocks place.entries) "" (pathText place.labels)]
  rfl

section Notes

variable (options : Options) (start : UInt64)

-- The induction is on the spec.  It carries that no position passed on the way offends: behind one
-- that does, nothing is compiled, and no suite counts as completed.
mutual

theorem Spec.compile_notes (path : List String) (passed : List (Position ν))
    (innocent : ∀ position ∈ passed, position.fault? options = none) (earlier : List (Entry ν)) :
    ∀ spec : Spec ν,
      (spec.compile options path (start + UInt64.ofNat path.length)).notes =
        groups options start
          (spec.suitesBehind path (passed ++ [.atEntry path earlier (.suite spec)]))
  | .mk rows => by
      rw [Spec.compile, Spec.suitesBehind]
      split
      · rename_i deep
        symm
        exact groups_eq_nil_of_perm options start (rowSuites_perm path _ rows) List.mem_concat_self
          (if_pos deep)
      · rename_i shallow
        apply compileRows_notes path _ ?_ rows
        exact List.forall_mem_append.mpr ⟨innocent, List.forall_mem_singleton.mpr (if_neg shallow)⟩

theorem compileRows_notes (path : List String) (passed : List (Position ν))
    (innocent : ∀ position ∈ passed, position.fault? options = none) :
    ∀ rows : List (String × Binding ν),
      (compileRows options path (start + UInt64.ofNat path.length) rows).notes =
        groups options start (rowSuites path passed rows)
  | [] => by
      rw [compileRows, rowSuites]
      rfl
  | (label, binding) :: rest => by
      rw [compileRows, rowSuites, groups_append]
      apply Run.notes_andThen (Binding.compile_settles options path _ label binding)
      · exact Binding.compile_notes path passed innocent label binding
      · intro innocentToo
        exact compileRows_notes path _ (List.forall_mem_append.mpr ⟨innocent, innocentToo⟩) rest
      · intro position isIn error offends
        exact groups_eq_nil_of_perm options start (rowSuites_perm path _ rest)
          (List.mem_append_right passed isIn) offends

theorem Binding.compile_notes (path : List String) (passed : List (Position ν))
    (innocent : ∀ position ∈ passed, position.fault? options = none) (label : String) :
    ∀ binding : Binding ν,
      (binding.compile options path (start + UInt64.ofNat path.length) label).notes =
        groups options start (binding.suites path passed label)
  | .callable _ => by
      rw [Binding.compile, Binding.suites]
      rfl
  | .sequence entries => by
      obtain ⟨place, place_eq⟩ : ∃ place, place = SuitePlace.mk passed path label entries :=
        ⟨_, rfl⟩
      have positions_eq : place.earlier ++ place.positions =
          passed ++ .atLabel path label (.sequence entries) ::
            entryPositions (path ++ [label]) [] entries := by
        rw [place_eq, SuitePlace.positions, Binding.positions]
        rfl
      rw [Binding.compile, Binding.suites, groups_append, ← place_eq]
      split
      · rename_i isCase
        have offends : (Position.atLabel path label (.sequence entries)).fault? options = some _ :=
          if_pos isCase
        have noneInside : groups options start (entrySuites (path ++ [label])
            (passed ++ [.atLabel path label (.sequence entries)]) [] entries) = [] :=
          groups_eq_nil_of_perm options start (entrySuites_perm (path ++ [label]) _ [] entries)
            List.mem_concat_self offends
        have notItself : groups options start [place] = [] := by
          refine groups_eq_nil options start (List.forall_mem_singleton.mpr ?_) offends
          rw [positions_eq]
          exact List.mem_append_right passed List.mem_cons_self
        rw [noneInside, notItself]
        rfl
      · rename_i notCase
        have opens : (Position.atLabel path label (.sequence entries)).fault? options = none :=
          if_neg notCase
        have passes := List.forall_mem_append.mpr ⟨innocent, List.forall_mem_singleton.mpr opens⟩
        have below : start + UInt64.ofNat path.length + 1 =
            start + UInt64.ofNat (path ++ [label]).length := by
          rw [List.length_append, List.length_singleton, UInt64.ofNat_add, UInt64.add_assoc]
          rfl
        apply Run.notes_andThen (compileEntries_settles options (path ++ [label]) _ [] [] entries)
        · exact compileEntries_notes (path ++ [label]) _ passes _ below [] [] entries
        · intro innocentToo
          rw [groups_singleton options start]
          · rw [place_eq]
            exact finishSuite_notes start ⟨passed, path, label, entries⟩
          · rw [positions_eq]
            exact List.forall_mem_append.mpr
              ⟨innocent, List.forall_mem_cons.mpr ⟨opens, innocentToo⟩⟩
        · -- an entry that offends lies inside the suite, so the suite itself stays open
          intro position isIn error offends
          refine groups_eq_nil options start (List.forall_mem_singleton.mpr ?_) offends
          rw [positions_eq]
          exact List.mem_append_right passed (List.mem_cons_of_mem _ isIn)
  | .mapping spec => by
      have offends : (Position.atLabel path label (.mapping spec)).fault? options = some _ := rfl
      rw [Binding.compile, Binding.suites]
      symm
      exact groups_eq_nil_of_perm options start (Spec.suitesBehind_perm _ _ spec)
        List.mem_concat_self offends
  | .other _ => by
      rw [Binding.compile, Binding.suites]
      rfl

theorem compileEntries_notes (path : List String) (passed : List (Position ν))
    (innocent : ∀ position ∈ passed, position.fault? options = none) (depth : UInt64)
    (below : depth + 1 = start + UInt64.ofNat path.length) (nested : List (Block ν))
    (earlier : List (Entry ν)) :
    ∀ entries : List (Entry ν),
      (Partition.addPieces options (pathText path) earlier.length
        (Partition.sorted (pathText path) nested earlier)
        (compileEntries options path depth entries)).notes =
        groups options start (entrySuites path passed earlier entries)
  | [] => by
      rw [compileEntries, entrySuites]
      rfl
  | entry :: rest => by
      have length_eq : (earlier ++ [entry]).length = earlier.length + 1 := List.length_append
      rw [compileEntries, Partition.addPieces, entrySuites, groups_append]
      apply Run.notes_andThen (Entry.compile_settles options path depth nested earlier entry)
      · exact Entry.compile_notes path passed innocent depth below nested earlier entry
      · intro innocentToo
        rw [← length_eq]
        exact compileEntries_notes path _ (List.forall_mem_append.mpr ⟨innocent, innocentToo⟩) depth
          below _ _ rest
      · intro position isIn error offends
        exact groups_eq_nil_of_perm options start (entrySuites_perm path _ _ rest)
          (List.mem_append_right passed isIn) offends

theorem Entry.compile_notes (path : List String) (passed : List (Position ν))
    (innocent : ∀ position ∈ passed, position.fault? options = none) (depth : UInt64)
    (below : depth + 1 = start + UInt64.ofNat path.length) (nested : List (Block ν))
    (earlier : List (Entry ν)) :
    ∀ entry : Entry ν,
      (Partition.addPiece options (pathText path) earlier.length
        (Partition.sorted (pathText path) nested earlier)
        (entry.compile options path depth)).notes =
        groups options start (entry.suites path (passed ++ [.atEntry path earlier entry]))
  | .reference raw => by
      rw [Entry.compile, Entry.suites]
      simp only [Partition.addPiece]
      split <;> rfl
  | .hook callable => by
      rw [Entry.compile, Entry.suites]
      simp only [Partition.addPiece, Partition.drop]
      split
      · rfl
      · split <;> rfl
  | .suite spec => by
      rw [Entry.compile, Entry.suites, below]
      exact Spec.compile_notes path passed innocent earlier spec
  | .other kind => by
      rw [Entry.compile, Entry.suites]
      simp only [Partition.addPiece, Partition.drop]
      split <;> rfl

end

end Notes

end SuiteOutline
