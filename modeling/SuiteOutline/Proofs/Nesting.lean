import Mathlib.Data.List.Basic
import SuiteOutline.Proofs.Acceptance
import SuiteOutline.Proofs.CallText
import SuiteOutline.Proofs.DroppedReport

/-!
# Specs inside specs, and specs side by side

A spec compiles the same wherever it stands.  The suites around it show only in the labels that
its errors and records name and in the limit on nesting, so a spec nested in one that compiles
compiles by itself too, to the very blocks that it has there.  Specs with different labels do not
see each other when their labels stand in one spec.
-/

namespace SuiteOutline

variable {ν : Type}

/-! ## Below more suites -/

theorem pathText_append {outer path : List String} (someOuter : outer ≠ []) (somePath : path ≠ []) :
    pathText (outer ++ path) = pathText outer ++ " > " ++ pathText path :=
  String.intercalate_append_of_ne_nil someOuter somePath

/-- The record as it reads below the suites of a path. -/
def DroppedEntry.below (outer : List String) (record : DroppedEntry) : DroppedEntry :=
  { record with suite := pathText outer ++ " > " ++ record.suite }

def Position.below (outer : List String) : Position ν → Position ν
  | .atLabel path label binding => .atLabel (outer ++ path) label binding
  | .atEntry path earlier entry => .atEntry (outer ++ path) earlier entry

/-- What offends somewhere also offends below more suites, with an error that names them. -/
theorem Position.Offends.below {options : Options} {position : Position ν} {error : CompileError}
    (offends : position.Offends options error) (outer : List String) :
    ∃ other, (position.below outer).Offends options other := by
  cases offends with
  | @tooDeep path earlier spec deep =>
      have deeper : options.maxDepth.toNat < (outer ++ path).length := by
        rw [List.length_append]
        exact Nat.lt_add_left outer.length deep
      exact ⟨_, .tooDeep deeper⟩
  | mapping => exact ⟨_, .mapping⟩
  | other => exact ⟨_, .other⟩
  | caseSequence isCase => exact ⟨_, .caseSequence isCase⟩
  | badReference invalid => exact ⟨_, .badReference invalid⟩
  | homelessHook strict unmarked before after =>
      exact ⟨_, .homelessHook strict unmarked before after⟩
  | unsupported strict => exact ⟨_, .unsupported strict⟩

theorem Position.fault?_of_below {options : Options} {outer : List String} {position : Position ν}
    (innocent : (position.below outer).fault? options = none) :
    position.fault? options = none := by
  rw [fault?_eq_none_iff] at innocent ⊢
  intro error offends
  obtain ⟨other, offendsBelow⟩ := offends.below outer
  exact innocent other offendsBelow

mutual

theorem Spec.positions_append (outer path : List String) :
    ∀ spec : Spec ν,
      spec.positions (outer ++ path) = (spec.positions path).map (Position.below outer)
  | .mk rows => by
      rw [Spec.positions, Spec.positions]
      exact rowPositions_append outer path rows

theorem rowPositions_append (outer path : List String) :
    ∀ rows : List (String × Binding ν),
      rowPositions (outer ++ path) rows = (rowPositions path rows).map (Position.below outer)
  | [] => by
      rw [rowPositions, rowPositions, List.map_nil]
  | (label, binding) :: rest => by
      rw [rowPositions, rowPositions, List.append_assoc, Binding.positions_append,
        rowPositions_append, List.map_cons, List.map_append]
      rfl

theorem Binding.positions_append (outer path : List String) :
    ∀ binding : Binding ν,
      binding.positions (outer ++ path) = (binding.positions path).map (Position.below outer)
  | .callable _ => by
      rw [Binding.positions, Binding.positions, List.map_nil]
  | .sequence entries => by
      rw [Binding.positions, Binding.positions]
      exact entryPositions_append outer path [] entries
  | .mapping spec => by
      rw [Binding.positions, Binding.positions]
      exact Spec.positions_append outer path spec
  | .other _ => by
      rw [Binding.positions, Binding.positions, List.map_nil]

theorem entryPositions_append (outer path : List String) (earlier : List (Entry ν)) :
    ∀ entries : List (Entry ν),
      entryPositions (outer ++ path) earlier entries =
        (entryPositions path earlier entries).map (Position.below outer)
  | [] => by
      rw [entryPositions, entryPositions, List.map_nil]
  | entry :: rest => by
      rw [entryPositions, entryPositions, Entry.positions_append, entryPositions_append,
        List.map_cons, List.map_append]
      rfl

theorem Entry.positions_append (outer path : List String) :
    ∀ entry : Entry ν,
      entry.positions (outer ++ path) = (entry.positions path).map (Position.below outer)
  | .reference _ => by
      rw [Entry.positions, Entry.positions, List.map_nil]
  | .hook _ => by
      rw [Entry.positions, Entry.positions, List.map_nil]
  | .suite spec => by
      rw [Entry.positions, Entry.positions]
      exact Spec.positions_append outer path spec
  | .other _ => by
      rw [Entry.positions, Entry.positions, List.map_nil]

end

theorem Entries.dropped_append {outer path : List String} (someOuter : outer ≠ [])
    (somePath : path ≠ []) (entries : List (Entry ν)) :
    Entries.dropped (pathText (outer ++ path)) entries =
      (Entries.dropped (pathText path) entries).map (DroppedEntry.below outer) := by
  rw [Entries.dropped, Entries.dropped, List.map_filterMap]
  apply List.filterMap_congr
  rintro ⟨earlier, entry⟩ -
  dsimp only
  rw [Entry.dropped?, Entry.dropped?, Option.map_map, pathText_append someOuter somePath]
  rfl

mutual

theorem Spec.dropped_append {outer : List String} (someOuter : outer ≠ []) (path : List String) :
    ∀ spec : Spec ν,
      spec.dropped (outer ++ path) = (spec.dropped path).map (DroppedEntry.below outer)
  | .mk rows => by
      rw [Spec.dropped, Spec.dropped]
      exact rowsDropped_append someOuter path rows

theorem rowsDropped_append {outer : List String} (someOuter : outer ≠ []) (path : List String) :
    ∀ rows : List (String × Binding ν),
      rowsDropped (outer ++ path) rows = (rowsDropped path rows).map (DroppedEntry.below outer)
  | [] => by
      rw [rowsDropped, rowsDropped, List.map_nil]
  | (label, binding) :: rest => by
      have somePath : path ++ [label] ≠ [] := List.append_ne_nil_of_right_ne_nil _ (by simp)
      rw [rowsDropped, rowsDropped, List.append_assoc, Binding.dropped_append someOuter somePath,
        rowsDropped_append someOuter, List.map_append]

theorem Binding.dropped_append {outer path : List String} (someOuter : outer ≠ [])
    (somePath : path ≠ []) :
    ∀ binding : Binding ν,
      binding.dropped (outer ++ path) = (binding.dropped path).map (DroppedEntry.below outer)
  | .callable _ => by
      rw [Binding.dropped, Binding.dropped, List.map_nil]
  | .sequence entries => by
      rw [Binding.dropped, Binding.dropped, entriesDropped_append someOuter,
        Entries.dropped_append someOuter somePath, List.map_append]
  | .mapping _ => by
      rw [Binding.dropped, Binding.dropped, List.map_nil]
  | .other _ => by
      rw [Binding.dropped, Binding.dropped, List.map_nil]

theorem entriesDropped_append {outer : List String} (someOuter : outer ≠ [])
    (path : List String) :
    ∀ entries : List (Entry ν),
      entriesDropped (outer ++ path) entries =
        (entriesDropped path entries).map (DroppedEntry.below outer)
  | [] => by
      rw [entriesDropped, entriesDropped, List.map_nil]
  | entry :: rest => by
      rw [entriesDropped, entriesDropped, Entry.dropped_append someOuter,
        entriesDropped_append someOuter, List.map_append]

theorem Entry.dropped_append {outer : List String} (someOuter : outer ≠ [])
    (path : List String) :
    ∀ entry : Entry ν,
      entry.dropped (outer ++ path) = (entry.dropped path).map (DroppedEntry.below outer)
  | .reference _ => by
      rw [Entry.dropped, Entry.dropped, List.map_nil]
  | .hook _ => by
      rw [Entry.dropped, Entry.dropped, List.map_nil]
  | .suite spec => by
      rw [Entry.dropped, Entry.dropped]
      exact Spec.dropped_append someOuter path spec
  | .other _ => by
      rw [Entry.dropped, Entry.dropped, List.map_nil]

end

/-! ## Inside a spec -/

def Item.nested? : Item ν → Option (Block ν)
  | .nested block => some block
  | _ => none

/-- How many blocks the specs among entries stand for: one for each label. -/
def Entries.blockCount (entries : List (Entry ν)) : Nat :=
  ((specs entries).flatMap Spec.labels).length

/-- Among the blocks that a spec gave, those that the spec at one of its places contributed. -/
inductive Spec.Contributes : Spec ν → List (Block ν) → Place ν → List (Block ν) → Prop where
  /-- They are consecutive items of the block of its suite, one for each of its labels, behind
  those of the specs in front of it. -/
  | own {spec inner : Spec ν} {blocks own : List (Block ν)} {row : Nat} {label : String}
      {earlier later : List (Entry ν)} {front back : List (Item ν)}
      (found : spec.rows[row]? = some (label, .sequence (earlier ++ .suite inner :: later)))
      (compiled :
        blocks[row]? = some (.mk .suite label (.items (front ++ own.map .nested ++ back))))
      (behind : (front.filterMap Item.nested?).length = Entries.blockCount earlier)
      (length_eq : own.length = inner.size) :
      Spec.Contributes spec blocks ⟨[row], [label], earlier, .suite inner⟩ own
  | nested {spec middle : Spec ν} {blocks between own : List (Block ν)} {row : Nat} {label : String}
      {earlier : List (Entry ν)} {place : Place ν}
      (around : Spec.Contributes spec blocks ⟨[row], [label], earlier, .suite middle⟩ between)
      (further : Spec.Contributes middle between place own) :
      Spec.Contributes spec blocks (place.within row label earlier.length) own

theorem Place.within_inj {first second : Place ν} {row other index further : Nat}
    {label name : String} :
    first.within row label index = second.within other name further ↔
      row = other ∧ label = name ∧ index = further ∧ first = second := by
  obtain ⟨suite, labels, earlier, entry⟩ := first
  obtain ⟨way, names, before, element⟩ := second
  simp only [within, mk.injEq, List.cons.injEq]
  constructor
  · rintro ⟨⟨rfl, rfl, rfl⟩, ⟨rfl, rfl⟩, rfl, rfl⟩
    exact ⟨rfl, rfl, rfl, rfl, rfl, rfl, rfl⟩
  · rintro ⟨rfl, rfl, rfl, rfl, rfl, rfl, rfl⟩
    exact ⟨⟨rfl, rfl, rfl⟩, ⟨rfl, rfl⟩, rfl, rfl⟩

theorem filterMap_nested?_map_nested (blocks : List (Block ν)) :
    (blocks.map Item.nested).filterMap Item.nested? = blocks := by
  rw [List.filterMap_map]
  exact List.filterMap_some

theorem Partition.nested_items (partition : Partition ν) :
    partition.items.filterMap Item.nested? = partition.nested := by
  have noModules : (if partition.modules.isEmpty then [] else
      [(Item.modules partition.modules : Item ν)]).filterMap Item.nested? = [] := by
    split <;> rfl
  have noInject : (if partition.dependencies.isEmpty then [] else
      [(Item.inject partition.dependencies : Item ν)]).filterMap Item.nested? = [] := by
    split <;> rfl
  have noBefore : (partition.before.map Item.before).filterMap Item.nested? = [] := by
    simp [List.filterMap_eq_nil_iff, Item.nested?]
  have noAfter : (partition.after.map Item.after).filterMap Item.nested? = [] := by
    simp [List.filterMap_eq_nil_iff, Item.nested?]
  simp only [Partition.items, List.filterMap_append, noModules, noInject, noBefore, noAfter,
    filterMap_nested?_map_nested, List.nil_append]

theorem Spec.length_blocks (spec : Spec ν) : spec.blocks.length = spec.size := by
  rw [Spec.blocks_eq_map, List.length_map, Spec.size]

theorem entryBlocks_eq_flatMap_specs (entries : List (Entry ν)) :
    entryBlocks entries = (Entries.specs entries).flatMap Spec.blocks := by
  induction entries with
  | nil => rw [entryBlocks]; rfl
  | cons entry rest ih =>
      rw [entryBlocks, ih, Entries.specs_cons, List.flatMap_append]
      cases entry <;> simp [Entry.blocks, Entries.specs, Entry.spec?]

def Entries.rows (entries : List (Entry ν)) : List (String × Binding ν) :=
  (specs entries).flatMap Spec.rows

theorem rowBlocks_eq_map (rows : List (String × Binding ν)) :
    rowBlocks rows = rows.map fun (label, binding) => binding.block label := by
  have blocks := Spec.blocks_eq_map (.mk rows)
  rwa [Spec.blocks, Spec.rows] at blocks

theorem entryBlocks_eq_rowBlocks (entries : List (Entry ν)) :
    entryBlocks entries = rowBlocks (Entries.rows entries) := by
  rw [entryBlocks_eq_flatMap_specs, rowBlocks_eq_map, Entries.rows, List.map_flatMap]
  apply List.flatMap_congr
  intro spec _
  exact spec.blocks_eq_map

theorem length_entryBlocks (entries : List (Entry ν)) :
    (entryBlocks entries).length = Entries.blockCount entries := by
  rw [entryBlocks_eq_flatMap_specs, Entries.blockCount, List.length_flatMap, List.length_flatMap]
  simp only [Spec.length_blocks, Spec.labels, Spec.size, Rows.keys, List.length_map]

theorem Partition.items_sorted_append (suite : String) (nested more : List (Block ν))
    (entries : List (Entry ν)) :
    (sorted suite (nested ++ more) entries).items =
      (sorted suite nested entries).items ++ more.map .nested := by
  rw [Partition.items, Partition.items,
    List.append_assoc _ ((sorted suite nested entries).nested.map _)]
  exact congrArg _ List.map_append

namespace Spec

theorem contributes_own {spec inner : Spec ν} {row : Nat} {label : String}
    {earlier later : List (Entry ν)}
    (found : spec.rows[row]? = some (label, .sequence (earlier ++ .suite inner :: later))) :
    spec.Contributes spec.blocks ⟨[row], [label], earlier, .suite inner⟩ inner.blocks := by
  have nested : entryBlocks (earlier ++ .suite inner :: later) =
      entryBlocks earlier ++ inner.blocks ++ entryBlocks later := by
    simp [entryBlocks_eq_flatMap, Entry.blocks]
  obtain ⟨front, front_eq⟩ : ∃ front, front = (Partition.sorted "" (entryBlocks earlier)
      (earlier ++ .suite inner :: later)).items := ⟨_, rfl⟩
  have compiled : spec.blocks[row]? = some (.mk .suite label
      (.items (front ++ inner.blocks.map .nested ++ (entryBlocks later).map .nested))) := by
    rw [Spec.blocks_eq_map, List.getElem?_map, found, Option.map_some]
    dsimp only
    rw [Binding.block, nested, Partition.items_sorted_append, Partition.items_sorted_append,
      ← front_eq]
    rfl
  have behind : (front.filterMap Item.nested?).length = Entries.blockCount earlier := by
    rw [front_eq, Partition.nested_items]
    exact length_entryBlocks earlier
  exact .own found compiled behind inner.length_blocks

theorem Holds.contributes {spec inner : Spec ν} {place : Place ν} (holds : spec.Holds place)
    (isSuite : place.entry = .suite inner) :
    spec.Contributes spec.blocks place inner.blocks := by
  induction holds with
  | own found =>
      dsimp only at isSuite
      rw [isSuite] at found ⊢
      exact contributes_own found
  | @nested spec middle row index label entries place found isNested holds ih =>
      obtain ⟨inside, isMiddle⟩ := List.getElem?_eq_some_iff.mp isNested
      have split : entries = entries.take index ++ .suite middle :: entries.drop (index + 1) := by
        rw [← isMiddle, ← List.drop_eq_getElem_cons, List.take_append_drop]
      have index_eq : (entries.take index).length = index :=
        List.length_take_of_le (Nat.le_of_lt inside)
      rw [split] at found
      have around := (contributes_own found).nested (ih isSuite)
      rwa [index_eq] at around

/-- The contributed blocks as a segment of the nested ones of their suite. -/
theorem Contributes.segment {spec : Spec ν} {blocks own : List (Block ν)} {row : Nat}
    {label : String} {earlier : List (Entry ν)} {entry : Entry ν}
    (contributes : spec.Contributes blocks ⟨[row], [label], earlier, entry⟩ own) :
    ∃ inner later items, entry = .suite inner ∧
      spec.rows[row]? = some (label, .sequence (earlier ++ .suite inner :: later)) ∧
      blocks[row]? = some (.mk .suite label (.items items)) ∧
      own = ((items.filterMap Item.nested?).drop (Entries.blockCount earlier)).take inner.size := by
  generalize isPlace : (⟨[row], [label], earlier, entry⟩ : Place ν) = place at contributes
  cases contributes with
  | @own _ inner _ _ _ _ _ later front back found compiled behind length_eq =>
      cases isPlace
      refine ⟨inner, later, _, rfl, found, compiled, ?_⟩
      rw [List.filterMap_append, List.filterMap_append, filterMap_nested?_map_nested, ← behind,
        ← length_eq, List.append_assoc, List.drop_left, List.take_left]
  | nested around further =>
      have tooLong := congrArg Place.suite isPlace
      cases tooLong

theorem Contributes.eq {spec : Spec ν} {blocks own : List (Block ν)} {place : Place ν}
    (first : spec.Contributes blocks place own) :
    ∀ {other : List (Block ν)}, spec.Contributes blocks place other → other = own := by
  induction first with
  | own found compiled behind length_eq =>
      intro other second
      have first := Contributes.own found compiled behind length_eq
      obtain ⟨_, _, items, isInner, -, there, own_eq⟩ := first.segment
      obtain ⟨_, _, otherItems, isInnerToo, -, thereToo, other_eq⟩ := second.segment
      cases isInner
      cases isInnerToo
      rw [there] at thereToo
      cases thereToo
      rw [own_eq, other_eq]
  | @nested spec middle blocks between own row label earlier place around further sameBetween
      sameOwn =>
      intro other second
      generalize isPlace : place.within row label earlier.length = whole at second
      cases second with
      | own =>
          have tooShort := congrArg Place.suite isPlace
          cases tooShort
      | nested aroundToo furtherToo =>
          obtain ⟨rfl, rfl, sameLength, rfl⟩ := Place.within_inj.mp isPlace
          obtain ⟨_, _, _, isMiddle, found, -, -⟩ := around.segment
          obtain ⟨_, _, _, isMiddleToo, foundToo, -, -⟩ := aroundToo.segment
          cases isMiddle
          cases isMiddleToo
          simp only [found, Option.some.injEq, Prod.mk.injEq, Binding.sequence.injEq,
            true_and] at foundToo
          obtain ⟨rfl, behind⟩ := List.append_inj foundToo sameLength
          cases behind
          rw [sameBetween aroundToo] at furtherToo
          exact sameOwn furtherToo

theorem entry_positions_subset {spec : Spec ν} {label : String} {earlier later : List (Entry ν)}
    {entry : Entry ν} (bound : (label, .sequence (earlier ++ entry :: later)) ∈ spec.rows)
    (path : List String) :
    .atEntry (path ++ [label]) earlier entry :: entry.positions (path ++ [label]) ⊆
      spec.positions path := by
  have passed : (earlier, entry) ∈ withEarlier [] (earlier ++ entry :: later) :=
    mem_withEarlier_iff.mpr ⟨earlier, later, rfl, rfl⟩
  intro position member
  rw [positions_eq_flatMap, List.mem_flatMap]
  refine ⟨_, bound, List.mem_cons_of_mem _ ?_⟩
  rw [Binding.positions, entryPositions_eq_flatMap, List.mem_flatMap]
  exact ⟨_, passed, member⟩

theorem positions_subset_of_nested {spec inner : Spec ν} {label : String} {entries : List (Entry ν)}
    (bound : (label, .sequence entries) ∈ spec.rows) (nested : .suite inner ∈ entries)
    (path : List String) : inner.positions (path ++ [label]) ⊆ spec.positions path := by
  obtain ⟨earlier, later, rfl⟩ := List.append_of_mem nested
  have whole := entry_positions_subset bound path
  rw [Entry.positions] at whole
  exact List.subset_of_cons_subset whole

theorem dropped_infix_of_nested {spec inner : Spec ν} {label : String} {entries : List (Entry ν)}
    (bound : (label, .sequence entries) ∈ spec.rows) (nested : .suite inner ∈ entries)
    (path : List String) : inner.dropped (path ++ [label]) <:+: spec.dropped path := by
  have inEntries : (Entry.suite inner).dropped (path ++ [label]) <:+:
      entriesDropped (path ++ [label]) entries := by
    rw [entriesDropped_eq_flatMap, List.flatMap_def]
    exact List.infix_of_mem_flatten (List.mem_map_of_mem nested)
  have inBinding : entriesDropped (path ++ [label]) entries <:+:
      (Binding.sequence entries).dropped (path ++ [label]) := by
    rw [Binding.dropped]
    exact (List.prefix_append _ _).isInfix
  have inSpec : (Binding.sequence entries).dropped (path ++ [label]) <:+: spec.dropped path := by
    rw [dropped_eq_flatMap, List.flatMap_def]
    exact List.infix_of_mem_flatten (List.mem_map_of_mem bound)
  rw [Entry.dropped] at inEntries
  exact (inEntries.trans inBinding).trans inSpec

namespace Holds

variable {spec inner : Spec ν} {place : Place ν}

theorem positions_subset (holds : spec.Holds place) (isSuite : place.entry = .suite inner) :
    ∀ path : List String, inner.positions (path ++ place.labels) ⊆ spec.positions path := by
  induction holds with
  | own found =>
      intro path
      cases isSuite
      exact positions_subset_of_nested (List.mem_of_getElem? found) (by simp) path
  | nested found isNested holds ih =>
      intro path
      rw [Place.within, List.append_cons]
      exact List.Subset.trans (ih isSuite _) (positions_subset_of_nested
        (List.mem_of_getElem? found) (List.mem_of_getElem? isNested) path)

theorem dropped_infix (holds : spec.Holds place) (isSuite : place.entry = .suite inner) :
    ∀ path : List String, inner.dropped (path ++ place.labels) <:+: spec.dropped path := by
  induction holds with
  | own found =>
      intro path
      cases isSuite
      exact dropped_infix_of_nested (List.mem_of_getElem? found) (by simp) path
  | nested found isNested holds ih =>
      intro path
      rw [Place.within, List.append_cons]
      exact (ih isSuite _).trans (dropped_infix_of_nested (List.mem_of_getElem? found)
        (List.mem_of_getElem? isNested) path)

theorem labels_ne_nil (holds : spec.Holds place) : place.labels ≠ [] := by
  cases holds <;> exact List.cons_ne_nil _ _

end Holds

end Spec

/-- A spec anywhere in one that compiles gives, by itself and at any depth, the blocks that it has
in the other one. -/
theorem Spec.Holds.compileBlocks_result {options : Options} {spec inner : Spec ν} {depth : UInt64}
    {place : Place ν} {blocks : List (Block ν)} {dropped : List DroppedEntry}
    (holds : spec.Holds place) (isSuite : place.entry = .suite inner)
    (compiled : (options.compileBlocks spec depth).result = .ok (blocks, dropped))
    (other : UInt64) :
    (options.compileBlocks inner other).result = .ok (inner.blocks, inner.dropped []) := by
  obtain ⟨innocent, -, -⟩ := Options.compileBlocks_result_ok_iff.mp compiled
  refine Options.compileBlocks_result_ok_iff.mpr ⟨?_, rfl, rfl⟩
  intro position member
  have below : position.below place.labels ∈ inner.positions (place.labels ++ []) := by
    rw [Spec.positions_append]
    exact List.mem_map_of_mem member
  rw [List.append_nil] at below
  exact Position.fault?_of_below (innocent _ (holds.positions_subset isSuite [] below))

/-! ## Side by side -/

/-- The spec that binds the labels of one spec and then those of another. -/
def Spec.followedBy (first second : Spec ν) : Spec ν :=
  .ofList (first.rows ++ second.rows)

section FollowedBy

variable {first second : Spec ν}

theorem Spec.rows_followedBy (distinct : (first.labels ++ second.labels).Nodup) :
    (first.followedBy second).rows = first.rows ++ second.rows := by
  have keys_eq : Rows.keys (first.rows ++ second.rows) = first.labels ++ second.labels :=
    List.map_append
  rw [followedBy, ofList, rows, Rows.ofList_of_nodup (keys_eq ▸ distinct)]

variable {options : Options} {depth : UInt64}

theorem Options.followedBy_result_ok_iff (distinct : (first.labels ++ second.labels).Nodup)
    {blocks : List (Block ν)} {dropped : List DroppedEntry} :
    (options.compileBlocks (first.followedBy second) depth).result = .ok (blocks, dropped) ↔
      ∃ own records others more,
        (options.compileBlocks first depth).result = .ok (own, records) ∧
        (options.compileBlocks second depth).result = .ok (others, more) ∧
        blocks = own ++ others ∧ dropped = records ++ more := by
  have positions_eq : (first.followedBy second).positions [] =
      first.positions [] ++ second.positions [] := by
    simp only [Spec.positions_eq_flatMap, Spec.rows_followedBy distinct, List.flatMap_append]
  have blocks_eq : (first.followedBy second).blocks = first.blocks ++ second.blocks := by
    simp only [Spec.blocks_eq_map, Spec.rows_followedBy distinct, List.map_append]
  have dropped_eq : (first.followedBy second).dropped [] =
      first.dropped [] ++ second.dropped [] := by
    simp only [Spec.dropped_eq_flatMap, Spec.rows_followedBy distinct, List.flatMap_append]
  simp only [compileBlocks_result_ok_iff, positions_eq, blocks_eq, dropped_eq,
    List.forall_mem_append]
  constructor
  · rintro ⟨⟨innocent, innocentToo⟩, rfl, rfl⟩
    exact ⟨_, _, _, _, ⟨innocent, rfl, rfl⟩, ⟨innocentToo, rfl, rfl⟩, rfl, rfl⟩
  · rintro ⟨own, records, others, more, ⟨innocent, rfl, rfl⟩, ⟨innocentToo, rfl, rfl⟩, rfl, rfl⟩
    exact ⟨⟨innocent, innocentToo⟩, rfl, rfl⟩

theorem Options.followedBy_program_iff (distinct : (first.labels ++ second.labels).Nodup)
    {program : Program ν} :
    (options.program (first.followedBy second)).result = .ok program ↔
      ∃ one other, (options.program first).result = .ok one ∧
        (options.program second).result = .ok other ∧
        program = ⟨one.text ++ other.text, one.blocks ++ other.blocks,
          one.dropped ++ other.dropped⟩ := by
  simp only [program_result_ok_iff, followedBy_result_ok_iff distinct]
  constructor
  · obtain ⟨text, blocks, dropped⟩ := program
    rintro ⟨⟨own, records, others, more, compiled, compiledToo, rfl, rfl⟩, written⟩
    have text_eq : text = Script.blocks options.dialect (own ++ others) := written
    refine ⟨⟨Script.blocks options.dialect own, own, records⟩,
      ⟨Script.blocks options.dialect others, others, more⟩, ⟨compiled, rfl⟩, ⟨compiledToo, rfl⟩, ?_⟩
    rw [text_eq, Script.blocks_append]
  · rintro ⟨one, other, ⟨compiled, written⟩, ⟨compiledToo, writtenToo⟩, rfl⟩
    refine ⟨⟨_, _, _, _, compiled, compiledToo, rfl, rfl⟩, ?_⟩
    rw [written, writtenToo, Script.blocks_append]

end FollowedBy

/-- Specs compile alone as they do inside other specs and beside them.  If a spec compiles, every
spec at one of its places compiles by itself, at any depth: its blocks are those that it contributes
to its suite, and its records, with the labels around it in front, stand together among all
records.  Two specs without a common label compile in one spec exactly if both compile, and give
the blocks, the records and the text of the first followed by those of the second. -/
theorem compilation_is_local (options : Options) :
    (∀ spec depth blocks dropped,
      (options.compileBlocks spec depth).result = .ok (blocks, dropped) →
        ∀ (place : Place ν) (inner : Spec ν), spec.Holds place → place.entry = .suite inner →
          ∃ own records,
            (∀ other, (options.compileBlocks inner other).result = .ok (own, records)) ∧
            (∀ contributed, spec.Contributes blocks place contributed ↔ contributed = own) ∧
            records.map (DroppedEntry.below place.labels) <:+: dropped) ∧
    ∀ first second : Spec ν, (first.labels ++ second.labels).Nodup →
      (∀ depth blocks dropped,
        (options.compileBlocks (first.followedBy second) depth).result = .ok (blocks, dropped) ↔
          ∃ own records others more,
            (options.compileBlocks first depth).result = .ok (own, records) ∧
            (options.compileBlocks second depth).result = .ok (others, more) ∧
            blocks = own ++ others ∧ dropped = records ++ more) ∧
      ∀ program, (options.program (first.followedBy second)).result = .ok program ↔
        ∃ one other, (options.program first).result = .ok one ∧
          (options.program second).result = .ok other ∧
          program = ⟨one.text ++ other.text, one.blocks ++ other.blocks,
            one.dropped ++ other.dropped⟩ := by
  constructor
  · intro spec depth blocks dropped compiled place inner holds isSuite
    obtain ⟨-, rfl, rfl⟩ := Options.compileBlocks_result_ok_iff.mp compiled
    have contributes := holds.contributes isSuite
    have segment := holds.dropped_infix isSuite []
    rw [List.nil_append, ← List.append_nil place.labels,
      Spec.dropped_append holds.labels_ne_nil] at segment
    refine ⟨inner.blocks, inner.dropped [], holds.compileBlocks_result isSuite compiled, ?_,
      segment⟩
    intro contributed
    constructor
    · exact contributes.eq
    · rintro rfl
      exact contributes
  · intro first second distinct
    exact ⟨fun _ _ _ => Options.followedBy_result_ok_iff distinct,
      fun _ => Options.followedBy_program_iff distinct⟩

/-- A suite two levels down compiles by itself as it does there, and two suites side by side are
described one behind the other. -/
theorem compilation_is_local_widget :
    (∃ own records,
      (({} : Options).compileBlocks (.mk [("knobs", .sequence [.other "null"])]) 7).result =
        .ok (own, records) ∧
      Spec.Contributes (ν := Value)
        (.mk [("Widget", .sequence [.reference "svc",
          .suite (.mk [("parts", .sequence [
            .suite (.mk [("knobs", .sequence [.other "null"])])])])])])
        [.mk .suite "Widget" (.items [.inject ["svc"], .nested (.mk .suite "parts"
          (.items [.nested (.mk .suite "knobs" (.items []))]))])]
        ⟨[0, 1, 0], ["Widget", "parts"], [], .suite (.mk [("knobs", .sequence [.other "null"])])⟩
        own ∧
      records.map (DroppedEntry.below ["Widget", "parts"]) <:+:
        [⟨"Widget > parts > knobs", 0, "null", .unsupportedShape⟩]) ∧
    (({} : Options).compileBlocks (ν := Value)
        (Spec.followedBy (.mk [("Widget", .sequence [.other "number"])])
          (.mk [("Gadget", .sequence [.other "bool"])])) 7).result =
      .ok ([.mk .suite "Widget" (.items []), .mk .suite "Gadget" (.items [])],
        [⟨"Widget", 0, "number", .unsupportedShape⟩,
          ⟨"Gadget", 0, "bool", .unsupportedShape⟩]) := by
  obtain ⟨inside, beside⟩ := compilation_is_local (ν := Value) {}
  constructor
  · obtain ⟨own, records, alone, contributed, segment⟩ := inside
      (.mk [("Widget", .sequence [.reference "svc",
        .suite (.mk [("parts", .sequence [
          .suite (.mk [("knobs", .sequence [.other "null"])])])])])]) 0 _ _ rfl
      (Place.within 0 "Widget" 1 ⟨[0], ["parts"], [],
        .suite (.mk [("knobs", .sequence [.other "null"])])⟩) _
      (.nested rfl rfl (@Spec.Holds.own _ _ _ _ [] [] _ rfl)) rfl
    exact ⟨own, records, alone 7, (contributed own).mpr rfl, segment⟩
  · have distinct : ((.mk [("Widget", .sequence [.other "number"])] : Spec).labels ++
        (.mk [("Gadget", .sequence [.other "bool"])] : Spec).labels).Nodup := by decide
    obtain ⟨sideBySide, -⟩ := beside _ _ distinct
    exact (sideBySide 7 _ _).mpr ⟨_, _, _, _, rfl, rfl, rfl, rfl⟩

end SuiteOutline
