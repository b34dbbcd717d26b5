import Mathlib.Data.List.Nodup
import Mathlib.Data.List.Perm.Subperm
import SuiteOutline.Proofs.FirstFault
import SuiteOutline.Proofs.OpaqueCallables
import SuiteOutline.Proofs.Refusal

/-!
# Equal specs

Specs are equal as tables: neither the order of the labels of a node nor the body of a callable
counts.  Equal specs compile or fail together.  What they compile to differs at most in the order
of the blocks that come from the labels of one node, and in bodies; the dropped entries are the
same ones in another order.
-/

namespace SuiteOutline

variable {ν : Type}

/-! ## Distinct labels -/

namespace Rows

variable {α : Type}

theorem mem_of_find? {key : String} {value : α} {rows : List (String × α)}
    (found : find? key rows = some value) : (key, value) ∈ rows := by
  induction rows with
  | nil => cases found
  | cons row rest ih =>
      obtain ⟨present, first⟩ := row
      rw [find?] at found
      split at found
      · rename_i same
        cases found
        rw [same]
        exact List.mem_cons_self
      · exact List.mem_cons_of_mem _ (ih found)

theorem eq_of_perm {rows others : List (String × α)} (distinct : (keys rows).Nodup)
    (sameKeys : keys rows = keys others) (perm : rows.Perm others) : rows = others := by
  induction rows generalizing others with
  | nil => exact perm.nil_eq
  | cons row rest ih =>
      cases others with
      | nil => exact perm.eq_nil
      | cons other more =>
          simp only [keys, List.map_cons, List.cons.injEq] at sameKeys
          simp only [keys, List.map_cons, List.nodup_cons] at distinct
          have first : row = other := by
            rcases List.mem_cons.mp (perm.mem_iff.mp List.mem_cons_self) with isFirst | isLater
            · exact isFirst
            · have again : row.1 ∈ more.map Prod.fst := List.mem_map_of_mem isLater
              rw [← sameKeys.2] at again
              exact absurd again distinct.1
          subst first
          rw [ih distinct.2 sameKeys.2 perm.cons_inv]

end Rows

mutual

/-- No node of the spec lists a label twice.  Specs that are built by binding labels are such. -/
def Spec.Distinct : Spec ν → Prop
  | .mk rows => (Rows.keys rows).Nodup ∧ rowsDistinct rows

def rowsDistinct : List (String × Binding ν) → Prop
  | [] => True
  | (_, binding) :: rest => binding.Distinct ∧ rowsDistinct rest

def Binding.Distinct : Binding ν → Prop
  | .callable _ => True
  | .sequence entries => entriesDistinct entries
  | .mapping spec => spec.Distinct
  | .other _ => True

def entriesDistinct : List (Entry ν) → Prop
  | [] => True
  | entry :: rest => entry.Distinct ∧ entriesDistinct rest

def Entry.Distinct : Entry ν → Prop
  | .reference _ => True
  | .hook _ => True
  | .suite spec => spec.Distinct
  | .other _ => True

end

theorem rowsDistinct_insert {label : String} {binding : Binding ν} (inner : binding.Distinct) :
    ∀ {rows : List (String × Binding ν)}, rowsDistinct rows →
      rowsDistinct (Rows.insert label binding rows)
  | [], _ => by
      rw [Rows.insert, rowsDistinct, rowsDistinct]
      exact ⟨inner, trivial⟩
  | (present, old) :: rest, distinct => by
      rw [rowsDistinct] at distinct
      rw [Rows.insert]
      split
      · rw [rowsDistinct]
        exact ⟨inner, distinct.2⟩
      · rw [rowsDistinct]
        exact ⟨distinct.1, rowsDistinct_insert inner distinct.2⟩

namespace Spec

theorem distinct_empty : (empty : Spec ν).Distinct := by
  rw [empty, Distinct, rowsDistinct]
  exact ⟨List.nodup_nil, trivial⟩

theorem distinct_insert {spec : Spec ν} {label : String} {binding : Binding ν}
    (distinct : spec.Distinct) (inner : binding.Distinct) :
    (spec.insert label binding).Distinct := by
  obtain ⟨rows⟩ := spec
  rw [Distinct] at distinct
  rw [insert, Distinct]
  exact ⟨Rows.nodup_keys_insert distinct.1, rowsDistinct_insert inner distinct.2⟩

end Spec

/-! ## Reordered specs -/

mutual

/-- Two specs that differ only in bodies and in the order of the labels of nodes. -/
inductive Spec.Reordered : Spec ν → Spec ν → Prop where
  | rows {rows middle others : List (String × Binding ν)} (pairs : RowsReordered rows middle)
      (perm : middle.Perm others) : Spec.Reordered (.mk rows) (.mk others)

inductive RowsReordered : List (String × Binding ν) → List (String × Binding ν) → Prop where
  | nil : RowsReordered [] []
  | cons {label : String} {binding other : Binding ν} {rest others : List (String × Binding ν)}
      (first : Binding.Reordered binding other) (more : RowsReordered rest others) :
      RowsReordered ((label, binding) :: rest) ((label, other) :: others)

inductive Binding.Reordered : Binding ν → Binding ν → Prop where
  | callable {first second : Callable ν} (same : first.bodiless = second.bodiless) :
      Binding.Reordered (.callable first) (.callable second)
  | sequence {entries others : List (Entry ν)} (inner : EntriesReordered entries others) :
      Binding.Reordered (.sequence entries) (.sequence others)
  | mapping {first second : Spec ν} (inner : Spec.Reordered first second) :
      Binding.Reordered (.mapping first) (.mapping second)
  | other {kind : String} : Binding.Reordered (.other kind) (.other kind)

inductive EntriesReordered : List (Entry ν) → List (Entry ν) → Prop where
  | nil : EntriesReordered [] []
  | cons {entry other : Entry ν} {rest others : List (Entry ν)}
      (first : Entry.Reordered entry other) (more : EntriesReordered rest others) :
      EntriesReordered (entry :: rest) (other :: others)

inductive Entry.Reordered : Entry ν → Entry ν → Prop where
  | reference {raw : String} : Entry.Reordered (.reference raw) (.reference raw)
  | hook {first second : Callable ν} (same : first.bodiless = second.bodiless) :
      Entry.Reordered (.hook first) (.hook second)
  | suite {first second : Spec ν} (inner : Spec.Reordered first second) :
      Entry.Reordered (.suite first) (.suite second)
  | other {kind : String} : Entry.Reordered (.other kind) (.other kind)

end

theorem Callable.bodiless_eq_of_same {first second : Callable ν} (same : first.same second = true) :
    first.bodiless = second.bodiless := by
  rw [Callable.same, Bool.and_eq_true, beq_iff_eq, beq_iff_eq] at same
  rw [bodiless, bodiless, same.1, same.2]

theorem RowsReordered.keys_eq {rows others : List (String × Binding ν)}
    (pairs : RowsReordered rows others) : Rows.keys rows = Rows.keys others := by
  induction rows generalizing others with
  | nil =>
      cases pairs
      rfl
  | cons row rest ih =>
      cases pairs with
      | cons first more =>
          rw [Rows.keys, List.map_cons, ← Rows.keys, ih more]
          rfl

mutual

theorem Spec.reordered_of_same :
    ∀ first : Spec ν, first.Distinct → ∀ second : Spec ν, first.same second = true →
      first.Reordered second
  | .mk rows, distinct, .mk others, same => by
      rw [Spec.Distinct] at distinct
      rw [Spec.same, Bool.and_eq_true, beq_iff_eq] at same
      obtain ⟨middle, pairs, found⟩ := exists_rowsReordered rows distinct.2 (.mk others) same.2
      refine .rows pairs ?_
      have keys : Rows.keys middle = Rows.keys rows := pairs.keys_eq.symm
      have nodup : middle.Nodup := by
        refine .of_map Prod.fst ?_
        rw [← Rows.keys, keys]
        exact distinct.1
      have length : middle.length = rows.length := by
        have := congrArg List.length keys
        rwa [Rows.keys, Rows.keys, List.length_map, List.length_map] at this
      refine (nodup.subperm found).perm_of_length_le ?_
      rw [length, same.1]
      exact Nat.le_refl _

theorem exists_rowsReordered :
    ∀ rows : List (String × Binding ν), rowsDistinct rows →
      ∀ other : Spec ν, sameRows rows other = true →
        ∃ middle, RowsReordered rows middle ∧ middle ⊆ other.rows
  | [], _, _, _ => ⟨[], .nil, List.nil_subset _⟩
  | (label, binding) :: rest, distinct, other, same => by
      rw [rowsDistinct] at distinct
      rw [sameRows, Bool.and_eq_true] at same
      obtain ⟨middle, pairs, found⟩ := exists_rowsReordered rest distinct.2 other same.2
      cases bound : other.get? label with
      | none =>
          rw [bound] at same
          cases same.1
      | some counterpart =>
          rw [bound] at same
          have first := Binding.reordered_of_same binding distinct.1 counterpart same.1
          refine ⟨(label, counterpart) :: middle, .cons first pairs, ?_⟩
          exact List.cons_subset.mpr ⟨Rows.mem_of_find? bound, found⟩

theorem Binding.reordered_of_same :
    ∀ first : Binding ν, first.Distinct → ∀ second : Binding ν, first.same second = true →
      first.Reordered second
  | .callable callable, _, second, same => by
      cases second with
      | callable other =>
          rw [Binding.same] at same
          exact .callable (Callable.bodiless_eq_of_same same)
      | _ => simp [Binding.same] at same
  | .sequence entries, distinct, second, same => by
      cases second with
      | sequence others =>
          rw [Binding.Distinct] at distinct
          rw [Binding.same] at same
          exact .sequence (entriesReordered_of_same entries distinct others same)
      | _ => simp [Binding.same] at same
  | .mapping spec, distinct, second, same => by
      cases second with
      | mapping other =>
          rw [Binding.Distinct] at distinct
          rw [Binding.same] at same
          exact .mapping (Spec.reordered_of_same spec distinct other same)
      | _ => simp [Binding.same] at same
  | .other kind, _, second, same => by
      cases second with
      | other counterpart =>
          rw [Binding.same, beq_iff_eq] at same
          subst same
          exact .other
      | _ => simp [Binding.same] at same

theorem entriesReordered_of_same :
    ∀ entries : List (Entry ν), entriesDistinct entries →
      ∀ others : List (Entry ν), sameEntries entries others = true → EntriesReordered entries others
  | [], _, others, same => by
      cases others with
      | nil => exact .nil
      | cons other others => simp [sameEntries] at same
  | entry :: rest, distinct, others, same => by
      cases others with
      | nil => simp [sameEntries] at same
      | cons other others =>
          rw [entriesDistinct] at distinct
          rw [sameEntries, Bool.and_eq_true] at same
          exact .cons (Entry.reordered_of_same entry distinct.1 other same.1)
            (entriesReordered_of_same rest distinct.2 others same.2)

theorem Entry.reordered_of_same :
    ∀ first : Entry ν, first.Distinct → ∀ second : Entry ν, first.same second = true →
      first.Reordered second
  | .reference raw, _, second, same => by
      cases second with
      | reference other =>
          rw [Entry.same, beq_iff_eq] at same
          subst same
          exact .reference
      | _ => simp [Entry.same] at same
  | .hook hook, _, second, same => by
      cases second with
      | hook other =>
          rw [Entry.same] at same
          exact .hook (Callable.bodiless_eq_of_same same)
      | _ => simp [Entry.same] at same
  | .suite spec, distinct, second, same => by
      cases second with
      | suite other =>
          rw [Entry.Distinct] at distinct
          rw [Entry.same] at same
          exact .suite (Spec.reordered_of_same spec distinct other same)
      | _ => simp [Entry.same] at same
  | .other kind, _, second, same => by
      cases second with
      | other counterpart =>
          rw [Entry.same, beq_iff_eq] at same
          subst same
          exact .other
      | _ => simp [Entry.same] at same

end

/-! ## Entries one by one -/

/-- As many entries with the same hooks but for bodies: what stands behind either is placed
alike. -/
structure Entries.Level (earlier passed : List (Entry ν)) : Prop where
  length : earlier.length = passed.length
  hooks : (hooks earlier).map Callable.bodiless = (hooks passed).map Callable.bodiless

theorem Hooks.bucket?_of_bodiless {earlier passed : List (Callable ν)} {hook other : Callable ν}
    (hooks : earlier.map Callable.bodiless = passed.map Callable.bodiless)
    (same : hook.bodiless = other.bodiless) : bucket? earlier hook = bucket? passed other := by
  rw [← bucket?_map Callable.keepsRoles_bodiless, hooks, same,
    bucket?_map Callable.keepsRoles_bodiless]

namespace Entry.Reordered

variable {entry other : Entry ν} (reordered : entry.Reordered other)

include reordered

theorem shape_eq : entry.shape = other.shape := by
  cases reordered <;> rfl

theorem reference?_eq : entry.reference? = other.reference? := by
  cases reordered <;> rfl

theorem hook?_eq : entry.hook?.map Callable.bodiless = other.hook?.map Callable.bodiless := by
  cases reordered with
  | hook same => exact congrArg some same
  | _ => rfl

variable {earlier passed : List (Entry ν)} (level : Entries.Level earlier passed)

include level

theorem level_concat : Entries.Level (earlier ++ [entry]) (passed ++ [other]) where
  length := by
    rw [List.length_append, List.length_append, level.length]
    rfl
  hooks := by
    have own : entry.hook?.toList.map Callable.bodiless =
        other.hook?.toList.map Callable.bodiless := by
      rw [← Option.toList_map, ← Option.toList_map, reordered.hook?_eq]
    rw [Entries.hooks_concat, Entries.hooks_concat, List.map_append, List.map_append, level.hooks,
      own]

theorem dropped?_eq (suite : String) :
    entry.dropped? suite earlier = other.dropped? suite passed := by
  have reason : entry.dropReason? earlier = other.dropReason? passed := by
    cases reordered with
    | hook same =>
        rw [Entry.dropReason?, Entry.dropReason?, Hooks.bucket?_of_bodiless level.hooks same]
    | _ => rfl
  rw [dropped?, dropped?, reason, reordered.shape_eq, level.length]

end Entry.Reordered

namespace EntriesReordered

variable {entries others : List (Entry ν)} (reordered : EntriesReordered entries others)

include reordered

theorem references_eq : Entries.references entries = Entries.references others := by
  induction entries generalizing others with
  | nil =>
      cases reordered
      rfl
  | cons entry rest ih =>
      cases reordered with
      | cons first more =>
          rw [Entries.references, List.filterMap_cons, first.reference?_eq, ← Entries.references,
            ih more]
          rfl

theorem level : Entries.Level entries others := by
  have behind (earlier passed : List (Entry ν)) (level : Entries.Level earlier passed) :
      Entries.Level (earlier ++ entries) (passed ++ others) := by
    induction entries generalizing others earlier passed with
    | nil =>
        cases reordered
        rwa [List.append_nil, List.append_nil]
    | cons entry rest ih =>
        cases reordered with
        | cons first more =>
            rw [List.append_cons earlier, List.append_cons passed]
            exact ih more _ _ (first.level_concat level)
  exact behind [] [] ⟨rfl, rfl⟩

end EntriesReordered

/-! ## The positions of reordered specs -/

/-- Positions at which reordered specs correspond. -/
inductive Position.Alike : Position ν → Position ν → Prop where
  | atLabel {path : List String} {label : String} {binding other : Binding ν}
      (reordered : binding.Reordered other) :
      Position.Alike (.atLabel path label binding) (.atLabel path label other)
  | atEntry {path : List String} {earlier passed : List (Entry ν)} {entry other : Entry ν}
      (level : Entries.Level earlier passed) (reordered : entry.Reordered other) :
      Position.Alike (.atEntry path earlier entry) (.atEntry path passed other)

namespace Position.Alike

variable {first second : Position ν} (alike : first.Alike second)

include alike

theorem fault?_eq (options : Options) : first.fault? options = second.fault? options := by
  cases alike with
  | atLabel reordered => cases reordered <;> rfl
  | @atEntry path _ _ entry other level reordered =>
      have record := reordered.dropped?_eq level (pathText path)
      cases reordered with
      | reference => simp only [fault?, entryFault?, level.length]
      | suite inner => rfl
      | hook same => simp only [fault?, entryFault?, record]
      | other => simp only [fault?, entryFault?, record]

theorem record?_eq : first.record? = second.record? := by
  cases alike with
  | atLabel reordered => rfl
  | atEntry level reordered => exact reordered.dropped?_eq level _

end Position.Alike

theorem Spec.positions_perm {rows others : List (String × Binding ν)} (perm : rows.Perm others)
    (path : List String) :
    ((Spec.mk rows).positions path).Perm ((Spec.mk others).positions path) := by
  rw [positions_eq_flatMap, positions_eq_flatMap]
  exact perm.flatMap_right _

theorem Spec.blocks_perm {rows others : List (String × Binding ν)} (perm : rows.Perm others) :
    (Spec.mk rows).blocks.Perm (Spec.mk others).blocks := by
  rw [blocks_eq_map, blocks_eq_map]
  exact perm.map _

def Position.ReadsAlike {α : Type} (read : Position ν → Option α) : Prop :=
  ∀ {first second : Position ν}, first.Alike second → read first = read second

section Read

variable {α : Type} {read : Position ν → Option α}

mutual

/-- What is read alike at corresponding positions is found in reordered specs as often. -/
theorem Spec.Reordered.read_perm (alike : Position.ReadsAlike read) (path : List String) :
    ∀ {first second : Spec ν}, first.Reordered second →
      ((first.positions path).filterMap read).Perm ((second.positions path).filterMap read)
  | _, _, .rows pairs perm => by
      have sorted := (Spec.positions_perm perm path).filterMap read
      rw [Spec.positions, Spec.positions] at sorted
      rw [Spec.positions, Spec.positions]
      exact (pairs.read_perm alike path).trans sorted

theorem RowsReordered.read_perm (alike : Position.ReadsAlike read) (path : List String) :
    ∀ {rows others : List (String × Binding ν)}, RowsReordered rows others →
      ((rowPositions path rows).filterMap read).Perm ((rowPositions path others).filterMap read)
  | _, _, .nil => .refl _
  | _, _, @RowsReordered.cons _ label _ _ _ _ first more => by
      have own := first.read_perm alike (path ++ [label])
      have others := more.read_perm alike path
      rw [rowPositions, rowPositions, List.filterMap_cons, List.filterMap_cons,
        alike (.atLabel first), List.filterMap_append, List.filterMap_append]
      split
      · exact own.append others
      · exact (own.append others).cons _

theorem Binding.Reordered.read_perm (alike : Position.ReadsAlike read) (path : List String) :
    ∀ {binding other : Binding ν}, binding.Reordered other →
      ((binding.positions path).filterMap read).Perm ((other.positions path).filterMap read)
  | _, _, .callable _ => by
      rw [Binding.positions, Binding.positions]
  | _, _, .sequence inner => by
      rw [Binding.positions, Binding.positions]
      exact inner.read_perm alike path ⟨rfl, rfl⟩
  | _, _, .mapping inner => by
      rw [Binding.positions, Binding.positions]
      exact inner.read_perm alike path
  | _, _, .other => .refl _

theorem EntriesReordered.read_perm (alike : Position.ReadsAlike read) (path : List String) :
    ∀ {entries others : List (Entry ν)}, EntriesReordered entries others →
      ∀ {earlier passed : List (Entry ν)}, Entries.Level earlier passed →
        ((entryPositions path earlier entries).filterMap read).Perm
          ((entryPositions path passed others).filterMap read)
  | _, _, .nil, _, _, _ => by
      rw [entryPositions, entryPositions]
  | _, _, .cons first more, _, _, level => by
      have own := first.read_perm alike path
      have others := more.read_perm alike path (first.level_concat level)
      rw [entryPositions, entryPositions, List.filterMap_cons, List.filterMap_cons,
        alike (.atEntry level first), List.filterMap_append, List.filterMap_append]
      split
      · exact own.append others
      · exact (own.append others).cons _

theorem Entry.Reordered.read_perm (alike : Position.ReadsAlike read) (path : List String) :
    ∀ {entry other : Entry ν}, entry.Reordered other →
      ((entry.positions path).filterMap read).Perm ((other.positions path).filterMap read)
  | _, _, .reference => .refl _
  | _, _, .hook _ => by
      rw [Entry.positions, Entry.positions]
  | _, _, .suite inner => by
      rw [Entry.positions, Entry.positions]
      exact inner.read_perm alike path
  | _, _, .other => .refl _

end

end Read

/-! ## The blocks of reordered specs -/

mutual

/-- Two lists of blocks for a spec are the same but for bodies and for the order, at every level,
of the blocks that come from the labels of one node. -/
inductive Spec.Rearranges : Spec ν → List (Block ν) → List (Block ν) → Prop where
  | rows {rows : List (String × Binding ν)} {blocks middle others : List (Block ν)}
      (pairs : RowsRearrange rows blocks middle) (perm : middle.Perm others) :
      Spec.Rearranges (.mk rows) blocks others

inductive RowsRearrange : List (String × Binding ν) → List (Block ν) → List (Block ν) → Prop where
  | nil : RowsRearrange [] [] []
  | cons {label : String} {binding : Binding ν} {rest : List (String × Binding ν)}
      {block other : Block ν} {blocks others : List (Block ν)} (named : block.label = label)
      (namedToo : other.label = label) (first : Binding.Rearranges binding block other)
      (more : RowsRearrange rest blocks others) :
      RowsRearrange ((label, binding) :: rest) (block :: blocks) (other :: others)

/-- The blocks of a suite have the same modules, dependencies and hooks in the same order, and
behind them the blocks of the specs among its entries. -/
inductive Binding.Rearranges : Binding ν → Block ν → Block ν → Prop where
  | same {binding : Binding ν} {block other : Block ν} (same : block.bodiless = other.bodiless) :
      Binding.Rearranges binding block other
  | sequence {entries : List (Entry ν)} {label : String} {own others : List (Item ν)}
      {nested rearranged : List (Block ν)}
      (same : own.map (Item.mapCallables Callable.bodiless) =
        others.map (Item.mapCallables Callable.bodiless))
      (inner : EntriesRearrange entries nested rearranged) :
      Binding.Rearranges (.sequence entries)
        (.mk .suite label (.items (own ++ nested.map .nested)))
        (.mk .suite label (.items (others ++ rearranged.map .nested)))

/-- The blocks of each spec among entries stay together. -/
inductive EntriesRearrange : List (Entry ν) → List (Block ν) → List (Block ν) → Prop where
  | nil : EntriesRearrange [] [] []
  | suite {spec : Spec ν} {rest : List (Entry ν)} {blocks others below rearranged : List (Block ν)}
      (first : Spec.Rearranges spec blocks others)
      (more : EntriesRearrange rest below rearranged) :
      EntriesRearrange (.suite spec :: rest) (blocks ++ below) (others ++ rearranged)
  | plain {entry : Entry ν} {rest : List (Entry ν)} {blocks others : List (Block ν)}
      (noSpec : ∀ spec, entry ≠ .suite spec) (more : EntriesRearrange rest blocks others) :
      EntriesRearrange (entry :: rest) blocks others

end

theorem EntriesReordered.ownItems_eq {entries others : List (Entry ν)}
    (reordered : EntriesReordered entries others) :
    (Entries.ownItems entries).map (Item.mapCallables Callable.bodiless) =
      (Entries.ownItems others).map (Item.mapCallables Callable.bodiless) := by
  rw [← Entries.ownItems_mapCallables Callable.keepsRoles_bodiless,
    ← Entries.ownItems_mapCallables Callable.keepsRoles_bodiless]
  simp only [Entries.ownItems, Entries.moduleItems, Entries.injectItems, Entries.moduleNames,
    Entries.dependencyNames, Entries.references_mapCallables, Entries.hooks_mapCallables,
    reordered.references_eq, reordered.level.hooks]

theorem Binding.block_label (label : String) (binding : Binding ν) :
    (binding.block label).label = label := by
  cases binding <;> rfl

mutual

theorem Spec.Reordered.rearranges :
    ∀ {first second : Spec ν}, first.Reordered second → first.Rearranges first.blocks second.blocks
  | _, _, .rows pairs perm => by
      have sorted := Spec.blocks_perm perm
      rw [Spec.blocks, Spec.blocks] at sorted
      rw [Spec.blocks, Spec.blocks]
      exact .rows pairs.rearranges sorted

theorem RowsReordered.rearranges :
    ∀ {rows others : List (String × Binding ν)}, RowsReordered rows others →
      RowsRearrange rows (rowBlocks rows) (rowBlocks others)
  | _, _, .nil => by
      rw [rowBlocks]
      exact .nil
  | _, _, @RowsReordered.cons _ label _ _ _ _ first more => by
      rw [rowBlocks, rowBlocks]
      exact .cons (Binding.block_label label _) (Binding.block_label label _)
        (first.rearranges label) more.rearranges

theorem Binding.Reordered.rearranges (label : String) :
    ∀ {binding other : Binding ν}, binding.Reordered other →
      binding.Rearranges (binding.block label) (other.block label)
  | _, _, .callable same => by
      rw [Binding.block, Binding.block]
      refine .same ?_
      rw [Block.bodiless, Block.bodiless, Block.ofCallable, Block.ofCallable, Block.mapCallables,
        Block.mapCallables, same]
  | _, _, .sequence inner => by
      rw [Binding.block, Binding.block, Entries.items_eq_ownItems, Entries.items_eq_ownItems]
      exact .sequence inner.ownItems_eq inner.rearranges
  | _, _, .mapping _ => by
      rw [Binding.block, Binding.block]
      exact .same rfl
  | _, _, .other => .same rfl

theorem EntriesReordered.rearranges :
    ∀ {entries others : List (Entry ν)}, EntriesReordered entries others →
      EntriesRearrange entries (entryBlocks entries) (entryBlocks others)
  | _, _, .nil => by
      rw [entryBlocks]
      exact .nil
  | _, _, .cons first more => by
      rw [entryBlocks, entryBlocks]
      cases first with
      | suite inner =>
          rw [Entry.blocks, Entry.blocks]
          exact .suite inner.rearranges more.rearranges
      | reference => exact .plain (by simp) more.rearranges
      | hook same => exact .plain (by simp) more.rearranges
      | other => exact .plain (by simp) more.rearranges

end

/-! ## Labels in the same order -/

mutual

/-- Nodes of the two specs that stand at the same place list their labels in the same order. -/
def Spec.Aligned : Spec ν → Spec ν → Prop
  | .mk rows, .mk others => Rows.keys rows = Rows.keys others ∧ rowsAligned rows others

def rowsAligned : List (String × Binding ν) → List (String × Binding ν) → Prop
  | (_, binding) :: rest, (_, other) :: others => binding.Aligned other ∧ rowsAligned rest others
  | _, _ => True

def Binding.Aligned : Binding ν → Binding ν → Prop
  | .sequence entries, .sequence others => entriesAligned entries others
  | .mapping first, .mapping second => first.Aligned second
  | _, _ => True

def entriesAligned : List (Entry ν) → List (Entry ν) → Prop
  | entry :: rest, other :: others => entry.Aligned other ∧ entriesAligned rest others
  | _, _ => True

def Entry.Aligned : Entry ν → Entry ν → Prop
  | .suite first, .suite second => first.Aligned second
  | _, _ => True

end

mutual

theorem Spec.Reordered.bodiless_eq :
    ∀ {first second : Spec ν}, first.Reordered second → first.Distinct → first.Aligned second →
      first.bodiless = second.bodiless
  | .mk rows, .mk others, .rows pairs perm, distinct, aligned => by
      rw [Spec.Distinct] at distinct
      rw [Spec.Aligned] at aligned
      have keys := pairs.keys_eq
      have sorted := Rows.eq_of_perm (keys ▸ distinct.1) (keys.symm.trans aligned.1) perm
      subst sorted
      rw [Spec.bodiless, Spec.bodiless, Spec.mapCallables, Spec.mapCallables,
        pairs.bodiless_eq distinct.2 aligned.2]

theorem RowsReordered.bodiless_eq :
    ∀ {rows others : List (String × Binding ν)}, RowsReordered rows others → rowsDistinct rows →
      rowsAligned rows others →
      mapRowCallables Callable.bodiless rows = mapRowCallables Callable.bodiless others
  | _, _, .nil, _, _ => rfl
  | _, _, .cons first more, distinct, aligned => by
      rw [rowsDistinct] at distinct
      rw [rowsAligned] at aligned
      rw [mapRowCallables, mapRowCallables, first.bodiless_eq distinct.1 aligned.1,
        more.bodiless_eq distinct.2 aligned.2]

theorem Binding.Reordered.bodiless_eq :
    ∀ {binding other : Binding ν}, binding.Reordered other → binding.Distinct →
      binding.Aligned other →
      binding.mapCallables Callable.bodiless = other.mapCallables Callable.bodiless
  | _, _, .callable same, _, _ => by
      rw [Binding.mapCallables, Binding.mapCallables, same]
  | _, _, .sequence inner, distinct, aligned => by
      rw [Binding.Distinct] at distinct
      rw [Binding.Aligned] at aligned
      rw [Binding.mapCallables, Binding.mapCallables, inner.bodiless_eq distinct aligned]
  | _, _, .mapping inner, distinct, aligned => by
      rw [Binding.Distinct] at distinct
      rw [Binding.Aligned] at aligned
      have below := inner.bodiless_eq distinct aligned
      rw [Spec.bodiless, Spec.bodiless] at below
      rw [Binding.mapCallables, Binding.mapCallables, below]
  | _, _, .other, _, _ => rfl

theorem EntriesReordered.bodiless_eq :
    ∀ {entries others : List (Entry ν)}, EntriesReordered entries others → entriesDistinct entries →
      entriesAligned entries others →
      mapEntryCallables Callable.bodiless entries = mapEntryCallables Callable.bodiless others
  | _, _, .nil, _, _ => rfl
  | _, _, .cons first more, distinct, aligned => by
      rw [entriesDistinct] at distinct
      rw [entriesAligned] at aligned
      rw [mapEntryCallables, mapEntryCallables, first.bodiless_eq distinct.1 aligned.1,
        more.bodiless_eq distinct.2 aligned.2]

theorem Entry.Reordered.bodiless_eq :
    ∀ {entry other : Entry ν}, entry.Reordered other → entry.Distinct → entry.Aligned other →
      entry.mapCallables Callable.bodiless = other.mapCallables Callable.bodiless
  | _, _, .reference, _, _ => rfl
  | _, _, .hook same, _, _ => by
      rw [Entry.mapCallables, Entry.mapCallables, same]
  | _, _, .suite inner, distinct, aligned => by
      rw [Entry.Distinct] at distinct
      rw [Entry.Aligned] at aligned
      have below := inner.bodiless_eq distinct aligned
      rw [Spec.bodiless, Spec.bodiless] at below
      rw [Entry.mapCallables, Entry.mapCallables, below]
  | _, _, .other, _, _ => rfl

end

/-! ## Compiling equal specs -/

namespace Spec.Reordered

variable {first second : Spec ν} (reordered : first.Reordered second) (options : Options)

include reordered

theorem compiles_iff (depth : UInt64) :
    (∃ blocks, (options.compileBlocks first depth).outcome = .ok blocks) ↔
      ∃ blocks, (options.compileBlocks second depth).outcome = .ok blocks := by
  have faults := reordered.read_perm (fun alike => alike.fault?_eq options) []
  have innocent (spec : Spec ν) :
      (∃ blocks, (options.compileBlocks spec depth).outcome = .ok blocks) ↔
        (spec.positions []).filterMap (Position.fault? options) = [] := by
    rw [(options.compileBlocks_settles spec depth).ok_iff, List.filterMap_eq_nil_iff]
    simp only [Position.fault?_eq_none_iff]
  rw [innocent, innocent]
  constructor
  · intro noFaults
    rw [noFaults] at faults
    exact faults.nil_eq.symm
  · intro noFaults
    rw [noFaults] at faults
    exact faults.eq_nil

theorem dropped_perm {depth : UInt64} {blocks others : List (Block ν)}
    (compiled : (options.compileBlocks first depth).outcome = .ok blocks)
    (compiledToo : (options.compileBlocks second depth).outcome = .ok others) :
    (options.compileBlocks first depth).dropped.Perm
      (options.compileBlocks second depth).dropped := by
  have records := reordered.read_perm Position.Alike.record?_eq []
  have report (spec : Spec ν) (blocks : List (Block ν))
      (compiled : (options.compileBlocks spec depth).outcome = .ok blocks) :
      ((spec.positions []).filterMap Position.record?).Perm
        (options.compileBlocks spec depth).dropped := by
    obtain ⟨-, reports, innocent⟩ := (options.compileBlocks_settles spec depth).of_ok compiled
    rw [reports]
    exact Spec.records_perm options [] spec (List.findSome?_eq_none_iff.mp innocent)
  exact (report first blocks compiled).symm.trans (records.trans (report second others compiledToo))

theorem blocks_rearrange {depth : UInt64} {blocks others : List (Block ν)}
    (compiled : (options.compileBlocks first depth).outcome = .ok blocks)
    (compiledToo : (options.compileBlocks second depth).outcome = .ok others) :
    first.Rearranges blocks others := by
  obtain ⟨rfl, -, -⟩ := (options.compileBlocks_settles first depth).of_ok compiled
  obtain ⟨rfl, -, -⟩ := (options.compileBlocks_settles second depth).of_ok compiledToo
  exact reordered.rearranges

end Spec.Reordered

/-- Equal specs compile alike up to the order of labels.  They compile or fail together; if they
compile, their dropped entries are the same in some order, and their blocks differ at most in
bodies and in the order, at every level, of the blocks that come from the labels of one node, while
the modules, dependencies and hooks of each suite stay in their order.  If nodes at the same place
list their labels in the same order, the specs have the same blocks but for bodies, the same
dropped entries, the same texts and the same errors. -/
theorem equal_specs_compile_alike {first second : Spec ν} (distinct : first.Distinct)
    (same : first.same second = true) (options : Options) (depth : UInt64) :
    ((∃ blocks, (options.compileBlocks first depth).outcome = .ok blocks) ↔
      ∃ blocks, (options.compileBlocks second depth).outcome = .ok blocks) ∧
    (∀ blocks others, (options.compileBlocks first depth).outcome = .ok blocks →
      (options.compileBlocks second depth).outcome = .ok others →
      (options.compileBlocks first depth).dropped.Perm
        (options.compileBlocks second depth).dropped ∧
      first.Rearranges blocks others) ∧
    (first.Aligned second →
      (options.compileBlocks first depth).result.map (fun (blocks, dropped) =>
          (blocks.map Block.bodiless, dropped)) =
        (options.compileBlocks second depth).result.map (fun (blocks, dropped) =>
          (blocks.map Block.bodiless, dropped)) ∧
      (options.fragment first depth).result = (options.fragment second depth).result ∧
      (options.program first).result.map (fun program => (program.text, program.dropped)) =
        (options.program second).result.map fun program => (program.text, program.dropped)) := by
  have reordered := Spec.reordered_of_same first distinct second same
  refine ⟨reordered.compiles_iff options depth, ?_, ?_⟩
  · intro blocks others compiled compiledToo
    exact ⟨reordered.dropped_perm options compiled compiledToo,
      reordered.blocks_rearrange options compiled compiledToo⟩
  · intro aligned
    have bodiless := reordered.bodiless_eq distinct aligned
    exact ⟨options.compileBlocks_of_bodiless bodiless depth,
      options.fragment_of_bodiless bodiless depth, options.program_of_bodiless bodiless⟩

/-- A suite with an entry that is dropped and a nested spec whose two cases are bound in either
order. -/
theorem equal_specs_compile_alike_widget :
    ((.empty : Spec).insertSuite "Widget" [.other "number",
        .suite (((.empty : Spec).insertCase "should a" "f").insertCase "should b" "g")]).Rearranges
      [.mk .suite "Widget" (.items [.nested (.mk .case "should a" (.callable (.ofSource "f"))),
        .nested (.mk .case "should b" (.callable (.ofSource "g")))])]
      [.mk .suite "Widget" (.items [.nested (.mk .case "should b" (.callable (.ofSource "g"))),
        .nested (.mk .case "should a" (.callable (.ofSource "f")))])] := by
  have cases : (((.empty : Spec).insertCase "should a" "f").insertCase "should b" "g").Distinct :=
    Spec.distinct_insert (Spec.distinct_insert Spec.distinct_empty trivial) trivial
  have distinct : ((.empty : Spec).insertSuite "Widget" [.other "number",
      .suite (((.empty : Spec).insertCase "should a" "f").insertCase "should b" "g")]).Distinct :=
    Spec.distinct_insert Spec.distinct_empty ⟨trivial, cases, trivial⟩
  have same : ((.empty : Spec).insertSuite "Widget" [.other "number",
        .suite (((.empty : Spec).insertCase "should a" "f").insertCase "should b" "g")]).same
      ((.empty : Spec).insertSuite "Widget" [.other "number",
        .suite (((.empty : Spec).insertCase "should b" "g").insertCase "should a" "f")]) =
      true := by
    simp [Spec.same, sameRows, Binding.same, sameEntries, Entry.same, Callable.same, Spec.size,
      Spec.get?, Spec.rows, Spec.insertSuite, Spec.insertCase, Spec.insert, Spec.empty, Rows.insert,
      Rows.find?]
  exact ((equal_specs_compile_alike distinct same {} 0).2.1 _ _ rfl rfl).2

end SuiteOutline
