import Mathlib.Data.List.Forall2
import Mathlib.Order.WithBot
import SuiteOutline.Proofs.Acceptance
import SuiteOutline.Proofs.Compilation

/-!
# The report of dropped entries

Which entries of a spec a successful compilation reports, and in which order.  Every entry of every
sequence of the spec has a place, told by the way from the root down to it.  The report has one
record for each place whose entry adds nothing to its suite and none for any other, and it lists a
suite behind the suites nested in it and behind the siblings in front of it.
-/

namespace SuiteOutline

variable {ν : Type}

/-- The place of an entry in a spec.  Two specs in one suite may have a label in common, so the
labels around an entry do not tell its suite; the way down does. -/
structure Place (ν : Type := Value) where
  /-- The way down to the suite: the row of its label, or the row of a label, the position of a
  nested spec in the sequence bound to it, and the way down from there. -/
  suite : List Nat
  /-- The labels around the entry, from the outermost to the one of its suite. -/
  labels : List String
  /-- The entries in front of it in its sequence. -/
  earlier : List (Entry ν)
  entry : Entry ν

def Place.within (row : Nat) (label : String) (index : Nat) (place : Place ν) : Place ν where
  suite := row :: index :: place.suite
  labels := label :: place.labels
  earlier := place.earlier
  entry := place.entry

/-- A spec has an entry at a place.  A label bound to a spec directly has no place below it: no
spec with such a label compiles. -/
inductive Spec.Holds : Spec ν → Place ν → Prop where
  | own {spec : Spec ν} {row : Nat} {label : String} {earlier later : List (Entry ν)}
      {entry : Entry ν}
      (found : spec.rows[row]? = some (label, .sequence (earlier ++ entry :: later))) :
      Spec.Holds spec ⟨[row], [label], earlier, entry⟩
  | nested {spec inner : Spec ν} {row index : Nat} {label : String} {entries : List (Entry ν)}
      {place : Place ν} (found : spec.rows[row]? = some (label, .sequence entries))
      (isNested : entries[index]? = some (.suite inner)) (holds : Spec.Holds inner place) :
      Spec.Holds spec (place.within row label index)

/-- An entry behind others adds nothing to its suite, for a reason. -/
inductive Entry.Unplaced (earlier : List (Entry ν)) : Entry ν → DropReason → Prop where
  | other (kind : String) : Entry.Unplaced earlier (.other kind) .unsupportedShape
  /-- It is an unmarked hook, and hooks of both buckets are in front of it. -/
  | homelessHook {hook : Callable ν} (unmarked : hook.tag = .unmarked)
      (before : Hooks.inBucket .before (Entries.hooks earlier) ≠ [])
      (after : Hooks.inBucket .after (Entries.hooks earlier) ≠ []) :
      Entry.Unplaced earlier (.hook hook) .hooksTaken

theorem Entry.unplaced_iff {earlier : List (Entry ν)} {entry : Entry ν} {reason : DropReason} :
    entry.Unplaced earlier reason ↔ entry.dropReason? earlier = some reason := by
  constructor
  · rintro (_ | ⟨unmarked, before, after⟩)
    · rfl
    · exact if_pos ((Hooks.bucket?_eq_none_iff _ _).mpr ⟨unmarked, before, after⟩)
  · intro found
    cases entry with
    | reference raw => cases found
    | suite spec => cases found
    | other kind =>
        cases found
        exact .other kind
    | hook hook =>
        simp only [dropReason?] at found
        split at found
        · rename_i homeless
          cases found
          obtain ⟨unmarked, before, after⟩ := (Hooks.bucket?_eq_none_iff _ _).mp homeless
          exact .homelessHook unmarked before after
        · cases found

namespace Place

def Unplaced (place : Place ν) : Prop :=
  ∃ reason, place.entry.Unplaced place.earlier reason

/-- What the record of an entry states, if its spec is below the suites of a path. -/
structure RecordedBy (path : List String) (place : Place ν) (record : DroppedEntry) : Prop where
  suite_eq : record.suite = pathText (path ++ place.labels)
  index_eq : record.index = place.earlier.length
  shape_eq : record.shape = place.entry.shape
  reason : place.entry.Unplaced place.earlier record.reason

/-- The order of the report. -/
inductive Before : Place ν → Place ν → Prop where
  /-- The first suite is nested in the second. -/
  | nested {first second : Place ν} (way : List Nat) (proper : way ≠ [])
      (below : first.suite = second.suite ++ way) : Before first second
  /-- Both entries are in one suite. -/
  | sameSuite {first second : Place ν} (same : first.suite = second.suite)
      (behind : first.earlier.length < second.earlier.length) : Before first second
  /-- The ways to the two suites part, and the first one is earlier in the document. -/
  | sibling {first second : Place ν} (common : List Nat) {one other : Nat} {way away : List Nat}
      (first_eq : first.suite = common ++ one :: way)
      (second_eq : second.suite = common ++ other :: away) (earlier : one < other) :
      Before first second

/-- The way to an entry, from row to position and on.  The sign above all numbers ends the way to
its suite, so that a suite's own entries come behind everything nested in it. -/
def key (place : Place ν) : List (WithTop Nat) :=
  place.suite.map WithTop.some ++ [⊤, WithTop.some place.earlier.length]

theorem Before.key_lt {first second : Place ν} (before : Before first second) :
    first.key < second.key := by
  cases before with
  | nested way proper below =>
      obtain ⟨row, rest, rfl⟩ := List.exists_cons_of_ne_nil proper
      rw [key, key, below, List.map_append, List.append_assoc]
      exact List.append_left_lt (.rel (WithTop.coe_lt_top row))
  | sameSuite same behind =>
      rw [key, key, same]
      exact List.append_left_lt (.cons (.rel (WithTop.coe_lt_coe.mpr behind)))
  | sibling common first_eq second_eq earlier =>
      rw [key, key, first_eq, second_eq, List.map_append, List.map_append, List.append_assoc,
        List.append_assoc]
      exact List.append_left_lt (.rel (WithTop.coe_lt_coe.mpr earlier))

theorem Before.asymm {first second : Place ν} (before : Before first second) :
    ¬ Before second first :=
  fun after => List.lt_asymm before.key_lt after.key_lt

theorem Before.ne {first second : Place ν} (before : Before first second) : first ≠ second := by
  rintro rfl
  exact before.asymm before

/-- The order inside a nested spec is the order seen from around it. -/
theorem Before.within {first second : Place ν} (before : Before first second) (row : Nat)
    (label : String) (index : Nat) :
    Before (first.within row label index) (second.within row label index) := by
  cases before with
  | nested way proper below => exact .nested way proper (by simp [Place.within, below])
  | sameSuite same behind => exact .sameSuite (by simp [Place.within, same]) behind
  | sibling common first_eq second_eq earlier =>
      exact .sibling (row :: index :: common) (congrArg (row :: index :: ·) first_eq)
        (congrArg (row :: index :: ·) second_eq) earlier

theorem RecordedBy.rightUnique (path : List String) :
    Relator.RightUnique (RecordedBy (ν := ν) path) := by
  rintro place ⟨suite, index, shape, reason⟩ ⟨_, _, _, other⟩ first second
  obtain ⟨rfl, rfl, rfl, stated⟩ := first
  obtain ⟨rfl, rfl, rfl, statedToo⟩ := second
  have same := (Entry.unplaced_iff.mp stated).symm.trans (Entry.unplaced_iff.mp statedToo)
  cases Option.some.inj same
  rfl

end Place

/-- Records report exactly the places of a spec whose entries add nothing: place by place, without
repetition, and in order. -/
structure Spec.Reports (spec : Spec ν) (places : List (Place ν)) (records : List DroppedEntry) :
    Prop where
  recorded : List.Forall₂ (Place.RecordedBy []) places records
  complete : ∀ place, place ∈ places ↔ spec.Holds place ∧ place.Unplaced
  nodup : places.Nodup
  ordered : places.Pairwise Place.Before

/-- There is one report of a spec: its places, their order and its records are determined. -/
theorem Spec.Reports.eq {spec : Spec ν} {places others : List (Place ν)}
    {records more : List DroppedEntry} (first : spec.Reports places records)
    (second : spec.Reports others more) :
    places = others ∧ records = more := by
  have members : ∀ place, place ∈ places ↔ place ∈ others := fun place =>
    (first.complete place).trans (second.complete place).symm
  have perm : places.Perm others :=
    (List.perm_ext_iff_of_nodup first.nodup second.nodup).mpr members
  have same : places = others :=
    perm.eq_of_pairwise (fun _ _ _ _ before after => absurd after before.asymm)
      first.ordered second.ordered
  subst same
  exact ⟨rfl, (Place.RecordedBy.rightUnique []).forall₂ first.recorded second.recorded⟩

/-! ## The places that are reported -/

def Entries.unplaced (row : Nat) (label : String) (entries : List (Entry ν)) : List (Place ν) :=
  ((withEarlier [] entries).filter fun (earlier, entry) =>
    (entry.dropReason? earlier).isSome).map fun (earlier, entry) => ⟨[row], [label], earlier, entry⟩

mutual

/-- The places of a spec whose entries add nothing, in the order of the report. -/
def Spec.unplaced : Spec ν → List (Place ν)
  | .mk rows => rowsUnplaced 0 rows

def rowsUnplaced (row : Nat) : List (String × Binding ν) → List (Place ν)
  | [] => []
  | (label, binding) :: rest => binding.unplaced row label ++ rowsUnplaced (row + 1) rest

def Binding.unplaced (row : Nat) (label : String) : Binding ν → List (Place ν)
  | .callable _ => []
  | .sequence entries => entriesUnplaced row label 0 entries ++ Entries.unplaced row label entries
  | .mapping _ => []
  | .other _ => []

def entriesUnplaced (row : Nat) (label : String) (index : Nat) : List (Entry ν) → List (Place ν)
  | [] => []
  | entry :: rest => entry.unplaced row label index ++ entriesUnplaced row label (index + 1) rest

def Entry.unplaced (row : Nat) (label : String) (index : Nat) : Entry ν → List (Place ν)
  | .reference _ => []
  | .hook _ => []
  | .suite spec => spec.unplaced.map (Place.within row label index)
  | .other _ => []

end

/-! ## Every place has its record -/

theorem Entries.unplaced_recorded (path : List String) (row : Nat) (label : String)
    (entries : List (Entry ν)) :
    List.Forall₂ (Place.RecordedBy path) (Entries.unplaced row label entries)
      (Entries.dropped (pathText (path ++ [label])) entries) := by
  rw [Entries.unplaced, Entries.dropped]
  induction withEarlier [] entries with
  | nil => exact .nil
  | cons pair rest ih =>
      obtain ⟨earlier, entry⟩ := pair
      cases found : entry.dropReason? earlier with
      | none => simpa [Entry.dropped?, found] using ih
      | some reason =>
          have record : entry.dropped? (pathText (path ++ [label])) earlier =
              some ⟨pathText (path ++ [label]), earlier.length, entry.shape, reason⟩ := by
            rw [Entry.dropped?, found]
            rfl
          rw [List.filter_cons_of_pos (by simp [found]), List.map_cons, List.filterMap_cons]
          simp only [record]
          exact .cons ⟨rfl, rfl, rfl, Entry.unplaced_iff.mpr found⟩ ih

mutual

theorem Spec.unplaced_recorded (path : List String) :
    ∀ spec : Spec ν, List.Forall₂ (Place.RecordedBy path) spec.unplaced (spec.dropped path)
  | .mk rows => by
      rw [Spec.unplaced, Spec.dropped]
      exact rowsUnplaced_recorded path 0 rows

theorem rowsUnplaced_recorded (path : List String) (row : Nat) :
    ∀ rows : List (String × Binding ν),
      List.Forall₂ (Place.RecordedBy path) (rowsUnplaced row rows) (rowsDropped path rows)
  | [] => by
      rw [rowsUnplaced, rowsDropped]
      exact .nil
  | (label, binding) :: rest => by
      rw [rowsUnplaced, rowsDropped]
      exact List.rel_append (Binding.unplaced_recorded path row label binding)
        (rowsUnplaced_recorded path (row + 1) rest)

theorem Binding.unplaced_recorded (path : List String) (row : Nat) (label : String) :
    ∀ binding : Binding ν,
      List.Forall₂ (Place.RecordedBy path) (binding.unplaced row label)
        (binding.dropped (path ++ [label]))
  | .callable _ => by
      rw [Binding.unplaced, Binding.dropped]
      exact .nil
  | .sequence entries => by
      rw [Binding.unplaced, Binding.dropped]
      exact List.rel_append (entriesUnplaced_recorded path row label 0 entries)
        (Entries.unplaced_recorded path row label entries)
  | .mapping _ => by
      rw [Binding.unplaced, Binding.dropped]
      exact .nil
  | .other _ => by
      rw [Binding.unplaced, Binding.dropped]
      exact .nil

theorem entriesUnplaced_recorded (path : List String) (row : Nat) (label : String) (index : Nat) :
    ∀ entries : List (Entry ν),
      List.Forall₂ (Place.RecordedBy path) (entriesUnplaced row label index entries)
        (entriesDropped (path ++ [label]) entries)
  | [] => by
      rw [entriesUnplaced, entriesDropped]
      exact .nil
  | entry :: rest => by
      rw [entriesUnplaced, entriesDropped]
      exact List.rel_append (Entry.unplaced_recorded path row label index entry)
        (entriesUnplaced_recorded path row label (index + 1) rest)

theorem Entry.unplaced_recorded (path : List String) (row : Nat) (label : String) (index : Nat) :
    ∀ entry : Entry ν,
      List.Forall₂ (Place.RecordedBy path) (entry.unplaced row label index)
        (entry.dropped (path ++ [label]))
  | .reference _ => by
      rw [Entry.unplaced, Entry.dropped]
      exact .nil
  | .hook _ => by
      rw [Entry.unplaced, Entry.dropped]
      exact .nil
  | .suite spec => by
      rw [Entry.unplaced, Entry.dropped, List.forall₂_map_left_iff]
      refine (Spec.unplaced_recorded (path ++ [label]) spec).imp ?_
      intro place record recorded
      exact ⟨by simp [recorded.suite_eq, Place.within], recorded.index_eq, recorded.shape_eq,
        recorded.reason⟩
  | .other _ => by
      rw [Entry.unplaced, Entry.dropped]
      exact .nil

end

/-! ## No place is missing -/

theorem Entries.mem_unplaced_iff {row : Nat} {label : String} {entries : List (Entry ν)}
    {place : Place ν} :
    place ∈ Entries.unplaced row label entries ↔
      ∃ earlier entry later, entries = earlier ++ entry :: later ∧
        place = ⟨[row], [label], earlier, entry⟩ ∧ place.Unplaced := by
  rw [Entries.unplaced, List.mem_map]
  constructor
  · rintro ⟨⟨earlier, entry⟩, member, rfl⟩
    obtain ⟨passes, found⟩ := List.mem_filter.mp member
    obtain ⟨passed, later, front, split⟩ := mem_withEarlier_iff.mp passes
    rw [List.nil_append] at front
    obtain ⟨reason, found⟩ := Option.isSome_iff_exists.mp found
    exact ⟨earlier, entry, later, front ▸ split, rfl, reason, Entry.unplaced_iff.mpr found⟩
  · rintro ⟨earlier, entry, later, split, rfl, reason, unplaced⟩
    have passes := mem_withEarlier_iff.mpr ⟨earlier, later, (List.nil_append earlier).symm, split⟩
    have found := Entry.unplaced_iff.mp unplaced
    exact ⟨(earlier, entry), List.mem_filter.mpr ⟨passes, by simp [found]⟩, rfl⟩

theorem mem_rowsUnplaced_iff {rows : List (String × Binding ν)} {row : Nat} {place : Place ν} :
    place ∈ rowsUnplaced row rows ↔
      ∃ (further : Nat) (label : String) (binding : Binding ν),
        rows[further]? = some (label, binding) ∧
          place ∈ binding.unplaced (row + further) label := by
  induction rows generalizing row with
  | nil => simp [rowsUnplaced]
  | cons first rest ih =>
      obtain ⟨label, binding⟩ := first
      rw [rowsUnplaced, List.mem_append, ih]
      constructor
      · rintro (inFirst | ⟨further, other, bound, found, member⟩)
        · exact ⟨0, label, binding, rfl, inFirst⟩
        · exact ⟨further + 1, other, bound, found, by rwa [Nat.add_right_comm] at member⟩
      · rintro ⟨further, other, bound, found, member⟩
        cases further with
        | zero =>
            cases found
            exact .inl member
        | succ further =>
            rw [← Nat.add_assoc, Nat.add_right_comm] at member
            exact .inr ⟨further, other, bound, found, member⟩

theorem mem_entriesUnplaced_iff {entries : List (Entry ν)} {row : Nat} {label : String}
    {index : Nat} {place : Place ν} :
    place ∈ entriesUnplaced row label index entries ↔
      ∃ (further : Nat) (entry : Entry ν), entries[further]? = some entry ∧
        place ∈ entry.unplaced row label (index + further) := by
  induction entries generalizing index with
  | nil => simp [entriesUnplaced]
  | cons first rest ih =>
      rw [entriesUnplaced, List.mem_append, ih]
      constructor
      · rintro (inFirst | ⟨further, entry, found, member⟩)
        · exact ⟨0, first, rfl, inFirst⟩
        · exact ⟨further + 1, entry, found, by rwa [Nat.add_right_comm] at member⟩
      · rintro ⟨further, entry, found, member⟩
        cases further with
        | zero =>
            cases found
            exact .inl member
        | succ further =>
            rw [← Nat.add_assoc, Nat.add_right_comm] at member
            exact .inr ⟨further, entry, found, member⟩

theorem Entry.mem_unplaced_iff {entry : Entry ν} {row : Nat} {label : String} {index : Nat}
    {place : Place ν} :
    place ∈ entry.unplaced row label index ↔
      ∃ spec, entry = .suite spec ∧ ∃ inner ∈ spec.unplaced,
        inner.within row label index = place := by
  cases entry <;> simp [Entry.unplaced]

theorem Binding.mem_unplaced_iff {binding : Binding ν} {row : Nat} {label : String}
    {place : Place ν} :
    place ∈ binding.unplaced row label ↔
      ∃ entries, binding = .sequence entries ∧
        ((∃ (index : Nat) (spec : Spec ν), entries[index]? = some (.suite spec) ∧
            ∃ inner ∈ spec.unplaced, inner.within row label index = place) ∨
          place ∈ Entries.unplaced row label entries) := by
  cases binding with
  | callable callable => simp [Binding.unplaced]
  | mapping spec => simp [Binding.unplaced]
  | other kind => simp [Binding.unplaced]
  | sequence entries =>
      simp [Binding.unplaced, mem_entriesUnplaced_iff, Entry.mem_unplaced_iff]

namespace Spec

theorem mem_unplaced_iff_rows {spec : Spec ν} {place : Place ν} :
    place ∈ spec.unplaced ↔
      ∃ (row : Nat) (label : String) (binding : Binding ν),
        spec.rows[row]? = some (label, binding) ∧ place ∈ binding.unplaced row label := by
  cases spec with
  | mk rows => simp [Spec.unplaced, mem_rowsUnplaced_iff, Spec.rows]

/-- By recursion on the labels around the place: seen from a nested spec there is one fewer. -/
theorem holds_of_mem_unplaced (spec : Spec ν) (place : Place ν) (member : place ∈ spec.unplaced) :
    spec.Holds place ∧ place.Unplaced := by
  obtain ⟨row, label, binding, found, below⟩ := mem_unplaced_iff_rows.mp member
  obtain ⟨entries, rfl, inNested | isOwn⟩ := Binding.mem_unplaced_iff.mp below
  · obtain ⟨index, nested, isNested, inner, innerMember, rfl⟩ := inNested
    obtain ⟨holds, unplaced⟩ := holds_of_mem_unplaced nested inner innerMember
    exact ⟨.nested found isNested holds, unplaced⟩
  · obtain ⟨earlier, entry, later, rfl, rfl, unplaced⟩ := Entries.mem_unplaced_iff.mp isOwn
    exact ⟨.own found, unplaced⟩
termination_by place.labels.length
decreasing_by
  subst_vars
  exact Nat.lt_succ_self _

theorem mem_unplaced_of_holds {spec : Spec ν} {place : Place ν} (holds : spec.Holds place)
    (unplaced : place.Unplaced) : place ∈ spec.unplaced := by
  induction holds with
  | own found =>
      refine mem_unplaced_iff_rows.mpr ⟨_, _, _, found, ?_⟩
      exact Binding.mem_unplaced_iff.mpr
        ⟨_, rfl, .inr (Entries.mem_unplaced_iff.mpr ⟨_, _, _, rfl, rfl, unplaced⟩)⟩
  | nested found isNested holds ih =>
      refine mem_unplaced_iff_rows.mpr ⟨_, _, _, found, ?_⟩
      exact Binding.mem_unplaced_iff.mpr
        ⟨_, rfl, .inl ⟨_, _, isNested, _, ih unplaced, rfl⟩⟩

theorem mem_unplaced_iff (spec : Spec ν) (place : Place ν) :
    place ∈ spec.unplaced ↔ spec.Holds place ∧ place.Unplaced :=
  ⟨holds_of_mem_unplaced spec place, fun both => mem_unplaced_of_holds both.1 both.2⟩

end Spec

/-! ## The places are in order -/

theorem Binding.suite_of_mem_unplaced {binding : Binding ν} {row : Nat} {label : String}
    {place : Place ν} (member : place ∈ binding.unplaced row label) :
    ∃ way, place.suite = row :: way := by
  obtain ⟨entries, -, inNested | isOwn⟩ := Binding.mem_unplaced_iff.mp member
  · obtain ⟨index, nested, -, inner, -, rfl⟩ := inNested
    exact ⟨index :: inner.suite, rfl⟩
  · obtain ⟨earlier, entry, later, -, rfl, -⟩ := Entries.mem_unplaced_iff.mp isOwn
    exact ⟨[], rfl⟩

theorem Entries.unplaced_ordered (row : Nat) (label : String) (entries : List (Entry ν)) :
    (Entries.unplaced row label entries).Pairwise Place.Before := by
  rw [Entries.unplaced, List.pairwise_map]
  exact ((pairwise_withEarlier [] entries).filter _).imp fun behind => .sameSuite rfl behind

mutual

theorem Spec.unplaced_ordered : ∀ spec : Spec ν, spec.unplaced.Pairwise Place.Before
  | .mk rows => by
      rw [Spec.unplaced]
      exact rowsUnplaced_ordered 0 rows

theorem rowsUnplaced_ordered (row : Nat) :
    ∀ rows : List (String × Binding ν), (rowsUnplaced row rows).Pairwise Place.Before
  | [] => by
      rw [rowsUnplaced]
      exact .nil
  | (label, binding) :: rest => by
      rw [rowsUnplaced, List.pairwise_append]
      refine ⟨Binding.unplaced_ordered row label binding, rowsUnplaced_ordered (row + 1) rest, ?_⟩
      intro first inFirst second inRest
      obtain ⟨further, other, bound, -, member⟩ := mem_rowsUnplaced_iff.mp inRest
      obtain ⟨way, first_eq⟩ := Binding.suite_of_mem_unplaced inFirst
      obtain ⟨away, second_eq⟩ := Binding.suite_of_mem_unplaced member
      exact .sibling [] first_eq second_eq (by omega)

theorem Binding.unplaced_ordered (row : Nat) (label : String) :
    ∀ binding : Binding ν, (binding.unplaced row label).Pairwise Place.Before
  | .callable _ => by
      rw [Binding.unplaced]
      exact .nil
  | .sequence entries => by
      rw [Binding.unplaced, List.pairwise_append]
      refine ⟨entriesUnplaced_ordered row label 0 entries,
        Entries.unplaced_ordered row label entries, ?_⟩
      intro first inNested second isOwn
      obtain ⟨index, entry, -, member⟩ := mem_entriesUnplaced_iff.mp inNested
      obtain ⟨spec, -, inner, -, rfl⟩ := Entry.mem_unplaced_iff.mp member
      obtain ⟨earlier, own, later, -, rfl, -⟩ := Entries.mem_unplaced_iff.mp isOwn
      exact .nested _ (List.cons_ne_nil _ _) rfl
  | .mapping _ => by
      rw [Binding.unplaced]
      exact .nil
  | .other _ => by
      rw [Binding.unplaced]
      exact .nil

theorem entriesUnplaced_ordered (row : Nat) (label : String) (index : Nat) :
    ∀ entries : List (Entry ν), (entriesUnplaced row label index entries).Pairwise Place.Before
  | [] => by
      rw [entriesUnplaced]
      exact .nil
  | entry :: rest => by
      rw [entriesUnplaced, List.pairwise_append]
      refine ⟨Entry.unplaced_ordered row label index entry,
        entriesUnplaced_ordered row label (index + 1) rest, ?_⟩
      intro first inFirst second inRest
      obtain ⟨further, other, -, member⟩ := mem_entriesUnplaced_iff.mp inRest
      obtain ⟨spec, -, inner, -, rfl⟩ := Entry.mem_unplaced_iff.mp inFirst
      obtain ⟨otherSpec, -, otherInner, -, rfl⟩ := Entry.mem_unplaced_iff.mp member
      exact .sibling [row] rfl rfl (by omega)

theorem Entry.unplaced_ordered (row : Nat) (label : String) (index : Nat) :
    ∀ entry : Entry ν, (entry.unplaced row label index).Pairwise Place.Before
  | .reference _ => by
      rw [Entry.unplaced]
      exact .nil
  | .hook _ => by
      rw [Entry.unplaced]
      exact .nil
  | .suite spec => by
      rw [Entry.unplaced, List.pairwise_map]
      exact (Spec.unplaced_ordered spec).imp fun before => before.within row label index
  | .other _ => by
      rw [Entry.unplaced]
      exact .nil

end

/-! ## The report -/

theorem Spec.dropped_reports (spec : Spec ν) : spec.Reports spec.unplaced (spec.dropped []) where
  recorded := spec.unplaced_recorded []
  complete := spec.mem_unplaced_iff
  nodup := spec.unplaced_ordered.imp Place.Before.ne
  ordered := spec.unplaced_ordered

/-- A spec that compiles has one record for each place whose entry adds nothing to its suite, and
none for another.  A record states the labels around the entry, its position in the sequence of its
suite, its shape and why it has no place.  Records of a suite come behind those of the suites
nested in it, in the order of its sequence, and suites beside each other come in document order.
The program of the spec reports the same places. -/
theorem report_complete_exact_ordered (options : Options) (spec : Spec ν) (depth : UInt64)
    {blocks : List (Block ν)}
    (compiled : (options.compileBlocks spec depth).outcome = .ok blocks) :
    ∃ places, spec.Reports places (options.compileBlocks spec depth).dropped ∧
      ∀ program, (options.program spec).result = .ok program →
        spec.Reports places program.dropped := by
  refine ⟨spec.unplaced, ?_, ?_⟩
  · rw [((options.compileBlocks_settles spec depth).of_ok compiled).2.1]
    exact spec.dropped_reports
  · intro program isProgram
    obtain ⟨others, compiled, rfl⟩ := Options.program_ok_iff.mp isProgram
    rw [((options.compileBlocks_settles spec 0).of_ok compiled).2.1]
    exact spec.dropped_reports

/-- Two suites with entries of unsupported shapes, and in the first one a spec with a suite of three
unmarked hooks. -/
theorem report_complete_exact_ordered_widget :
    (({} : Options).compileBlocks (ν := Value)
        (.mk [("Widget", .sequence [.other "number",
            .suite (.mk [("parts", .sequence [.hook (.ofSource "f"), .hook (.ofSource "g"),
              .hook (.ofSource "h")])]),
            .other "null"]),
          ("Gadget", .sequence [.other "bool"])]) 0).outcome =
      .ok [.mk .suite "Widget" (.items [.nested (.mk .suite "parts"
          (.items [.before (.ofSource "f"), .after (.ofSource "g")]))]),
        .mk .suite "Gadget" (.items [])] ∧
    ∃ places,
      Spec.Reports (ν := Value)
        (.mk [("Widget", .sequence [.other "number",
            .suite (.mk [("parts", .sequence [.hook (.ofSource "f"), .hook (.ofSource "g"),
              .hook (.ofSource "h")])]),
            .other "null"]),
          ("Gadget", .sequence [.other "bool"])])
        places
        [⟨"Widget > parts", 2, "callable", .hooksTaken⟩,
          ⟨"Widget", 0, "number", .unsupportedShape⟩, ⟨"Widget", 2, "null", .unsupportedShape⟩,
          ⟨"Gadget", 0, "bool", .unsupportedShape⟩] := by
  refine ⟨rfl, ?_⟩
  obtain ⟨places, reports, -⟩ := report_complete_exact_ordered (ν := Value) {}
    (.mk [("Widget", .sequence [.other "number",
        .suite (.mk [("parts", .sequence [.hook (.ofSource "f"), .hook (.ofSource "g"),
          .hook (.ofSource "h")])]),
        .other "null"]),
      ("Gadget", .sequence [.other "bool"])]) 0 rfl
  exact ⟨places, reports⟩

end SuiteOutline
