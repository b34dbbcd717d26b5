import SuiteOutline.Proofs.Compilation

/-!
# Refusing what would be dropped

The two policies for entries without a place, side by side.  A compilation that refuses such
entries stops in document order; one that drops them reports them suite by suite, the innermost
first.  The same entries are concerned: the report is a rearrangement of their records, and the
refusal is about the one that comes first in the document, unless the compilation fails before.
-/

namespace SuiteOutline

variable {ν : Type}

def Options.refusing (options : Options) : Options :=
  { options with unknownEntries := .reject }

def Options.dropping (options : Options) : Options :=
  { options with unknownEntries := .warn }

namespace Position

def record? : Position ν → Option DroppedEntry
  | .atLabel _ _ _ => none
  | .atEntry path earlier entry => entry.dropped? (pathText path) earlier

/-- Refusing adds the entries without a place to what offends, and nothing else. -/
theorem fault?_refusing (options : Options) (position : Position ν) :
    position.fault? options.refusing =
      (position.fault? options.dropping).or (position.record?.map .unplaced) := by
  cases position with
  | atLabel path label binding =>
      rw [record?, Option.map_none, Option.or_none]
      rfl
  | atEntry path earlier entry =>
      cases entry with
      | reference raw =>
          have noRecord : (Entry.reference raw).dropped? (pathText path) earlier = none := rfl
          rw [record?, noRecord, Option.map_none, Option.or_none]
          rfl
      | suite spec =>
          have noRecord : (Entry.suite spec).dropped? (pathText path) earlier = none := rfl
          rw [record?, noRecord, Option.map_none, Option.or_none]
          rfl
      | hook callable => rfl
      | other kind => rfl

end Position

namespace Positions

/-- The records of the entries without a place, in the order of their positions. -/
def records (positions : List (Position ν)) : List DroppedEntry :=
  positions.filterMap Position.record?

theorem records_cons (position : Position ν) (rest : List (Position ν)) :
    records (position :: rest) = position.record?.toList ++ records rest := by
  cases found : position.record? <;> simp [records, found]

theorem records_append (first second : List (Position ν)) :
    records (first ++ second) = records first ++ records second :=
  List.filterMap_append

variable {options : Options} {positions : List (Position ν)}

/-- If nothing else offends, refusing stops at the first record. -/
theorem findSome?_refusing
    (innocent : ∀ position ∈ positions, position.fault? options.dropping = none) :
    positions.findSome? (Position.fault? options.refusing) =
      (records positions).head?.map .unplaced := by
  induction positions with
  | nil => rfl
  | cons position rest ih =>
      have own := innocent position List.mem_cons_self
      have others := ih fun other member => innocent other (List.mem_cons_of_mem _ member)
      rw [List.findSome?_cons, Position.fault?_refusing, own, Option.none_or, records_cons]
      cases position.record? with
      | none => simpa using others
      | some record => rfl

end Positions

/-! ## One set of records in two orders -/

mutual

theorem Spec.records_perm (options : Options) (path : List String) :
    ∀ spec : Spec ν, (∀ position ∈ spec.positions path, position.fault? options = none) →
      (Positions.records (spec.positions path)).Perm (spec.dropped path)
  | .mk rows, innocent => by
      rw [Spec.positions] at innocent ⊢
      rw [Spec.dropped]
      exact rowRecords_perm options path rows innocent

theorem rowRecords_perm (options : Options) (path : List String) :
    ∀ rows : List (String × Binding ν),
      (∀ position ∈ rowPositions path rows, position.fault? options = none) →
      (Positions.records (rowPositions path rows)).Perm (rowsDropped path rows)
  | [], _ => by
      rw [rowPositions, rowsDropped]
      exact .nil
  | (label, binding) :: rest, innocent => by
      rw [rowPositions, ← List.cons_append] at innocent ⊢
      rw [rowsDropped, Positions.records_append]
      have own := Binding.records_perm options path label binding fun position member =>
        innocent position (List.mem_append_left _ member)
      have others := rowRecords_perm options path rest fun position member =>
        innocent position (List.mem_append_right _ member)
      exact own.append others

theorem Binding.records_perm (options : Options) (path : List String) (label : String) :
    ∀ binding : Binding ν,
      (∀ position ∈ Position.atLabel path label binding :: binding.positions (path ++ [label]),
        position.fault? options = none) →
      (Positions.records
          (.atLabel path label binding :: binding.positions (path ++ [label]))).Perm
        (binding.dropped (path ++ [label]))
  | .callable _, _ => by
      rw [Binding.positions, Binding.dropped]
      exact .nil
  | .sequence entries, innocent => by
      rw [Binding.positions] at innocent ⊢
      rw [Binding.dropped]
      exact entryRecords_perm options (path ++ [label]) [] entries fun position member =>
        innocent position (List.mem_cons_of_mem _ member)
  | .mapping _, innocent => by
      have own := innocent _ List.mem_cons_self
      cases own
  | .other _, innocent => by
      have own := innocent _ List.mem_cons_self
      cases own

/-- In the document a suite's own records are mixed with those of the suites nested in it; in the
report they come behind them. -/
theorem entryRecords_perm (options : Options) (path : List String) (earlier : List (Entry ν)) :
    ∀ entries : List (Entry ν),
      (∀ position ∈ entryPositions path earlier entries, position.fault? options = none) →
      (Positions.records (entryPositions path earlier entries)).Perm
        (entriesDropped path entries ++
          (withEarlier earlier entries).filterMap fun (earlier, entry) =>
            entry.dropped? (pathText path) earlier)
  | [], _ => by
      rw [entryPositions, entriesDropped]
      exact .nil
  | entry :: rest, innocent => by
      rw [entryPositions] at innocent ⊢
      have below := Entry.records_perm options path entry fun position member =>
        innocent position (List.mem_cons_of_mem _ (List.mem_append_left _ member))
      have others := entryRecords_perm options path (earlier ++ [entry]) rest
        fun position member =>
          innocent position (List.mem_cons_of_mem _ (List.mem_append_right _ member))
      have own : (withEarlier earlier (entry :: rest)).filterMap (fun (earlier, entry) =>
            entry.dropped? (pathText path) earlier) =
          (entry.dropped? (pathText path) earlier).toList ++
            (withEarlier (earlier ++ [entry]) rest).filterMap fun (earlier, entry) =>
              entry.dropped? (pathText path) earlier := by
        cases found : entry.dropped? (pathText path) earlier <;> simp [withEarlier, found]
      rw [Positions.records_cons, Positions.records_append, Position.record?, entriesDropped, own]
      refine ((below.append others).append_left _).trans ?_
      rw [← List.append_assoc (entry.dropped path)]
      exact List.perm_append_comm_assoc _ _ _

theorem Entry.records_perm (options : Options) (path : List String) :
    ∀ entry : Entry ν, (∀ position ∈ entry.positions path, position.fault? options = none) →
      (Positions.records (entry.positions path)).Perm (entry.dropped path)
  | .reference _, _ => by
      rw [Entry.positions, Entry.dropped]
      exact .nil
  | .hook _, _ => by
      rw [Entry.positions, Entry.dropped]
      exact .nil
  | .suite spec, innocent => by
      rw [Entry.positions] at innocent ⊢
      rw [Entry.dropped]
      exact Spec.records_perm options path spec innocent
  | .other _, _ => by
      rw [Entry.positions, Entry.dropped]
      exact .nil

end

/-! ## The two policies -/

variable {options : Options} {spec : Spec ν} {depth : UInt64}

theorem Options.refusing_result_ok_iff {blocks : List (Block ν)} {dropped : List DroppedEntry} :
    (options.refusing.compileBlocks spec depth).result = .ok (blocks, dropped) ↔
      (options.dropping.compileBlocks spec depth).result = .ok (blocks, dropped) ∧
        dropped = [] := by
  rw [compileBlocks_result_ok_iff, compileBlocks_result_ok_iff]
  constructor
  · rintro ⟨innocent, rfl, rfl⟩
    have split : ∀ position ∈ spec.positions [],
        position.fault? options.dropping = none ∧ position.record? = none := by
      intro position member
      have own := innocent position member
      rw [Position.fault?_refusing, Option.or_eq_none_iff, Option.map_eq_none_iff] at own
      exact own
    have perm := spec.records_perm options.dropping [] fun position member =>
      (split position member).1
    have noRecords : Positions.records (spec.positions []) = [] :=
      List.filterMap_eq_nil_iff.mpr fun position member => (split position member).2
    rw [noRecords] at perm
    exact ⟨⟨fun position member => (split position member).1, rfl, rfl⟩, perm.nil_eq.symm⟩
  · rintro ⟨⟨innocent, rfl, rfl⟩, nothing⟩
    have perm := spec.records_perm options.dropping [] innocent
    rw [nothing] at perm
    have noRecords := List.filterMap_eq_nil_iff.mp perm.eq_nil
    refine ⟨?_, rfl, rfl⟩
    intro position member
    rw [Position.fault?_refusing, innocent position member, noRecords position member]
    rfl

/-- Refusing stops at the first record in front of where dropping stops, if there is one. -/
theorem Options.refusing_result_of_split {front rest : List (Position ν)} {position : Position ν}
    {error : CompileError} (split : spec.positions [] = front ++ position :: rest)
    (offends : position.fault? options.dropping = some error)
    (innocent : ∀ position ∈ front, position.fault? options.dropping = none) :
    (options.refusing.compileBlocks spec depth).result =
      .error (((Positions.records front).head?.map .unplaced).getD error) := by
  have own : position.fault? options.refusing = some error := by
    rw [Position.fault?_refusing, offends, Option.some_or]
  rw [(options.refusing.compileBlocks_settles spec depth).result_eq, split, List.findSome?_append,
    Positions.findSome?_refusing innocent, List.findSome?_cons, own]
  cases Positions.records front <;> rfl

/-- Refusing entries without a place and dropping them agree.  A spec compiles with refusal exactly
if it compiles with nothing dropped, and to the same result.  If something is dropped, what is
dropped are the records of the document rearranged, and refusal fails with the record that comes
first in the document.  If the compilation fails even though entries are dropped, then refusal fails
as well: with the first record in front of the position that failed, or else with the same error. -/
theorem refusing_agrees_with_dropping (options : Options) (spec : Spec ν) (depth : UInt64) :
    (∀ blocks dropped,
      (options.refusing.compileBlocks spec depth).result = .ok (blocks, dropped) ↔
        (options.dropping.compileBlocks spec depth).result = .ok (blocks, dropped) ∧
          dropped = []) ∧
    (∀ blocks dropped,
      (options.dropping.compileBlocks spec depth).result = .ok (blocks, dropped) → dropped ≠ [] →
        ∃ record more, Positions.records (spec.positions []) = record :: more ∧
          (record :: more).Perm dropped ∧
          (options.refusing.compileBlocks spec depth).result = .error (.unplaced record)) ∧
    ∀ error, (options.dropping.compileBlocks spec depth).result = .error error →
      ∃ front position rest, spec.positions [] = front ++ position :: rest ∧
        (∀ innocent ∈ front, ∀ other, ¬ innocent.Offends options.dropping other) ∧
        position.Offends options.dropping error ∧
        ((Positions.records front = [] ∧
            (options.refusing.compileBlocks spec depth).result = .error error) ∨
          ∃ record more, Positions.records front = record :: more ∧
            (options.refusing.compileBlocks spec depth).result = .error (.unplaced record)) := by
  refine ⟨fun _ _ => Options.refusing_result_ok_iff, ?_, ?_⟩
  · intro blocks dropped compiled something
    obtain ⟨innocent, rfl, rfl⟩ := Options.compileBlocks_result_ok_iff.mp compiled
    have perm := spec.records_perm options.dropping [] innocent
    have stops := (options.refusing.compileBlocks_settles spec depth).result_eq
    rw [Positions.findSome?_refusing innocent] at stops
    cases records : Positions.records (spec.positions []) with
    | nil =>
        rw [records] at perm
        exact absurd perm.nil_eq.symm something
    | cons record more =>
        rw [records] at perm stops
        exact ⟨record, more, rfl, perm, stops⟩
  · intro error failed
    obtain ⟨front, position, rest, split, offends, innocent⟩ :=
      Options.compileBlocks_result_error_iff.mp failed
    refine ⟨front, position, rest, split, ?_, (Position.fault?_eq_some_iff _ _ _).mp offends, ?_⟩
    · intro other member
      exact (Position.fault?_eq_none_iff _ _).mp (innocent other member)
    · have stops : (options.refusing.compileBlocks spec depth).result = _ :=
        Options.refusing_result_of_split split offends innocent
      cases records : Positions.records front with
      | nil =>
          rw [records] at stops
          exact .inl ⟨rfl, stops⟩
      | cons record more =>
          rw [records] at stops
          exact .inr ⟨record, more, rfl, stops⟩

/-- The record of the nested suite is reported first; the number in front of it is refused. -/
theorem refusing_agrees_with_dropping_widget :
    (({} : Options).dropping.compileBlocks (ν := Value)
        (.mk [("Widget", .sequence [.other "number",
          .suite (.mk [("parts", .sequence [.other "null"])])])]) 0).result =
      .ok ([.mk .suite "Widget" (.items [.nested (.mk .suite "parts" (.items []))])],
        [⟨"Widget > parts", 0, "null", .unsupportedShape⟩,
          ⟨"Widget", 0, "number", .unsupportedShape⟩]) ∧
    (({} : Options).refusing.compileBlocks (ν := Value)
        (.mk [("Widget", .sequence [.other "number",
          .suite (.mk [("parts", .sequence [.other "null"])])])]) 0).result =
      .error (.unplaced ⟨"Widget", 0, "number", .unsupportedShape⟩) := by
  have drops : (({} : Options).dropping.compileBlocks (ν := Value)
      (.mk [("Widget", .sequence [.other "number",
        .suite (.mk [("parts", .sequence [.other "null"])])])]) 0).result =
    .ok ([.mk .suite "Widget" (.items [.nested (.mk .suite "parts" (.items []))])],
      [⟨"Widget > parts", 0, "null", .unsupportedShape⟩,
        ⟨"Widget", 0, "number", .unsupportedShape⟩]) := rfl
  obtain ⟨record, more, records, -, refused⟩ :=
    (refusing_agrees_with_dropping {} _ 0).2.1 _ _ drops (List.cons_ne_nil _ _)
  obtain ⟨rfl, -⟩ := List.cons.inj records
  exact ⟨drops, refused⟩

end SuiteOutline
