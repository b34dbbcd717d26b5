import SuiteOutline.Proofs.CaseResult
import SuiteOutline.Proofs.Nesting
import SuiteOutline.Proofs.RecordedTree

/-!
# The places of cases

Every case of a spec has a place, told by the way from the root down to it.  The places in the order
of the run are listed: the cases of a suite in their order, before those of the suites nested in it.
A change beside the way to a case leaves everything that the suites on the way do around it.
-/

namespace SuiteOutline

variable {ν : Type}

/-- The place of a case.  Two suites in one may have a label in common, so the labels around a case
do not tell its suite; the way down does. -/
structure CasePlace (ν : Type := Value) where
  /-- The way down to the suite: the position of each suite among the blocks that are nested in the
  one before. -/
  suite : List Nat
  /-- The position of the case among the blocks that are nested in its suite. -/
  index : Nat
  /-- The labels of the suites around the case, outermost first. -/
  labels : List String
  /-- What these suites do around their cases. -/
  around : List (Setting ν)
  title : String
  body : Callable ν

def CasePlace.own (index : Nat) (title : String) (body : Callable ν) : CasePlace ν :=
  ⟨[], index, [], [], title, body⟩

def CasePlace.within (index : Nat) (label : String) (setting : Setting ν) (place : CasePlace ν) :
    CasePlace ν where
  suite := index :: place.suite
  index := place.index
  labels := label :: place.labels
  around := setting :: place.around
  title := place.title
  body := place.body

namespace Entries

def setting (entries : List (Entry ν)) : Setting ν where
  modules := moduleNames entries
  dependencies := dependencyNames entries
  before := Hooks.inBucket .before (hooks entries)
  after := Hooks.inBucket .after (hooks entries)

def own (entries : List (Entry ν)) : List (Entry ν) :=
  entries.filter fun entry => entry.spec?.isNone

/-- The specs among its entries do not matter for what a suite does around its cases. -/
theorem setting_own (entries : List (Entry ν)) : setting (own entries) = setting entries := by
  have sameHooks : hooks (own entries) = hooks entries := by
    rw [hooks, own, List.filterMap_filter, hooks]
    apply List.filterMap_congr
    intro entry _
    cases entry <;> rfl
  have sameReferences : references (own entries) = references entries := by
    rw [references, own, List.filterMap_filter, references]
    apply List.filterMap_congr
    intro entry _
    cases entry <;> rfl
  rw [setting, setting, moduleNames, moduleNames, dependencyNames, dependencyNames, sameHooks,
    sameReferences]

end Entries

inductive RowsHoldCase : List (String × Binding ν) → CasePlace ν → Prop where
  | own {rows : List (String × Binding ν)} {index : Nat} {title : String} {body : Callable ν}
      (found : rows[index]? = some (title, .callable body)) (isCase : isCaseLabel title = true) :
      RowsHoldCase rows (.own index title body)
  | nested {rows : List (String × Binding ν)} {index : Nat} {label : String}
      {entries : List (Entry ν)} {place : CasePlace ν}
      (found : rows[index]? = some (label, .sequence entries))
      (holds : RowsHoldCase (Entries.rows entries) place) :
      RowsHoldCase rows (place.within index label (Entries.setting entries))

/-- Labels with a case at a place are changed beside the way to it, which leaves the case at another
place.  The suites on the way keep the entries that are not specs; labels may change, and any other
case and any suite beside the way may be added, removed or replaced. -/
inductive RowsKeepCase :
    List (String × Binding ν) → CasePlace ν → List (String × Binding ν) → CasePlace ν → Prop where
  | own {rows changed : List (String × Binding ν)} {index moved : Nat} {title renamed : String}
      {body : Callable ν} (found : rows[index]? = some (title, .callable body))
      (isCase : isCaseLabel title = true)
      (foundAgain : changed[moved]? = some (renamed, .callable body))
      (isCaseStill : isCaseLabel renamed = true) :
      RowsKeepCase rows (.own index title body) changed (.own moved renamed body)
  | nested {rows changed : List (String × Binding ν)} {index moved : Nat} {label renamed : String}
      {entries others : List (Entry ν)} {place left : CasePlace ν}
      (found : rows[index]? = some (label, .sequence entries))
      (foundAgain : changed[moved]? = some (renamed, .sequence others))
      (kept : Entries.own others = Entries.own entries)
      (keeps : RowsKeepCase (Entries.rows entries) place (Entries.rows others) left) :
      RowsKeepCase rows (place.within index label (Entries.setting entries)) changed
        (left.within moved renamed (Entries.setting others))

namespace RowsKeepCase

variable {rows changed : List (String × Binding ν)} {place left : CasePlace ν}

theorem holds (keeps : RowsKeepCase rows place changed left) : RowsHoldCase rows place := by
  induction keeps with
  | own found isCase foundAgain isCaseStill => exact .own found isCase
  | nested found foundAgain kept keeps ih => exact .nested found ih

theorem holdsStill (keeps : RowsKeepCase rows place changed left) : RowsHoldCase changed left := by
  induction keeps with
  | own found isCase foundAgain isCaseStill => exact .own foundAgain isCaseStill
  | nested found foundAgain kept keeps ih => exact .nested foundAgain ih

/-- The case keeps its body and all that is done around it. -/
theorem same (keeps : RowsKeepCase rows place changed left) :
    left.body = place.body ∧ left.around = place.around := by
  induction keeps with
  | own found isCase foundAgain isCaseStill => exact ⟨rfl, rfl⟩
  | @nested _ _ _ _ _ _ entries others _ _ _ _ kept _ ih =>
      obtain ⟨sameBody, sameAround⟩ := ih
      have sameSetting : Entries.setting others = Entries.setting entries := by
        rw [← Entries.setting_own others, kept, Entries.setting_own]
      refine ⟨sameBody, ?_⟩
      rw [CasePlace.within, CasePlace.within, sameAround, sameSetting]

end RowsKeepCase

namespace CasePlace

/-- The order in which cases are run. -/
inductive Before : CasePlace ν → CasePlace ν → Prop where
  /-- Both cases are in one suite. -/
  | sameSuite {first second : CasePlace ν} (same : first.suite = second.suite)
      (earlier : first.index < second.index) : Before first second
  /-- The second case is in a suite nested in that of the first one. -/
  | above {first second : CasePlace ν} (way : List Nat) (proper : way ≠ [])
      (below : second.suite = first.suite ++ way) : Before first second
  /-- The ways to the two suites part, and the first one is registered earlier. -/
  | sibling {first second : CasePlace ν} (common : List Nat) {one other : Nat} {way away : List Nat}
      (first_eq : first.suite = common ++ one :: way)
      (second_eq : second.suite = common ++ other :: away) (earlier : one < other) :
      Before first second

/-- The way to a case.  Zero ends the way to its suite, so that a suite's own cases come in front of
those nested in it. -/
def key (place : CasePlace ν) : List Nat :=
  place.suite.map Nat.succ ++ [0, place.index]

theorem Before.key_lt {first second : CasePlace ν} (before : Before first second) :
    first.key < second.key := by
  cases before with
  | sameSuite same earlier =>
      rw [key, key, same]
      exact List.append_left_lt (.cons (.rel earlier))
  | above way proper below =>
      obtain ⟨index, rest, rfl⟩ := List.exists_cons_of_ne_nil proper
      rw [key, key, below, List.map_append, List.append_assoc]
      exact List.append_left_lt (.rel (Nat.succ_pos index))
  | sibling common first_eq second_eq earlier =>
      rw [key, key, first_eq, second_eq, List.map_append, List.map_append, List.append_assoc,
        List.append_assoc]
      exact List.append_left_lt (.rel (Nat.succ_lt_succ earlier))

theorem Before.ne {first second : CasePlace ν} (before : Before first second) : first ≠ second := by
  rintro rfl
  exact List.lt_irrefl _ before.key_lt

/-- The order inside a nested suite is the order seen from around it. -/
theorem Before.within {first second : CasePlace ν} (before : Before first second) (index : Nat)
    (label : String) (setting : Setting ν) :
    Before (first.within index label setting) (second.within index label setting) := by
  cases before with
  | sameSuite same earlier => exact .sameSuite (congrArg (index :: ·) same) earlier
  | above way proper below => exact .above way proper (congrArg (index :: ·) below)
  | sibling common first_eq second_eq earlier =>
      exact .sibling (index :: common) (congrArg (index :: ·) first_eq)
        (congrArg (index :: ·) second_eq) earlier

end CasePlace

/-! ## The places in the order of the run -/

def Items.setting (items : List (Item ν)) : Setting ν where
  modules := items.flatMap Item.loaded
  dependencies := items.flatMap Item.injected
  before := items.filterMap Item.before?
  after := items.filterMap Item.after?

def Block.ownCase? (block : Block ν) (index : Nat) : Option (CasePlace ν) :=
  block.case?.map fun (title, body) => .own index title body

def ownCases (blocks : List (Block ν)) : List (CasePlace ν) :=
  blocks.zipIdx.filterMap fun (block, index) => block.ownCase? index

/-- The position of what follows an item among nested blocks. -/
def Item.following (index : Nat) : Item ν → Nat
  | .nested _ => index + 1
  | _ => index

mutual

def Block.casePlaces (index : Nat) : Block ν → List (CasePlace ν)
  | .mk _ _ (.callable _) => []
  | .mk _ label (.items items) =>
      (ownCases (items.filterMap Item.nested?) ++ itemCasePlaces 0 items).map
        (CasePlace.within index label (Items.setting items))

def itemCasePlaces (index : Nat) : List (Item ν) → List (CasePlace ν)
  | [] => []
  | item :: rest => item.casePlaces index ++ itemCasePlaces (item.following index) rest

def Item.casePlaces (index : Nat) : Item ν → List (CasePlace ν)
  | .nested block => block.casePlaces index
  | _ => []

end

def nestedCases (blocks : List (Block ν)) : List (CasePlace ν) :=
  blocks.zipIdx.flatMap fun (block, index) => block.casePlaces index

/-- The cases of blocks: those among them, then those in the suites among them. -/
def casePlaces (blocks : List (Block ν)) : List (CasePlace ν) :=
  ownCases blocks ++ nestedCases blocks

/-- The cases of a spec in the order in which they are run. -/
def Spec.casePlaces (spec : Spec ν) : List (CasePlace ν) :=
  SuiteOutline.casePlaces spec.blocks

theorem itemCasePlaces_eq_flatMap (index : Nat) (items : List (Item ν)) :
    itemCasePlaces index items =
      ((items.filterMap Item.nested?).zipIdx index).flatMap fun (block, index) =>
        block.casePlaces index := by
  induction items generalizing index with
  | nil => rw [itemCasePlaces]; rfl
  | cons item rest ih =>
      rw [itemCasePlaces, ih]
      cases item <;>
        simp [Item.casePlaces, Item.following, Item.nested?, List.filterMap_cons]

theorem Block.casePlaces_items (index : Nat) (kind : LabelKind) (label : String)
    (items : List (Item ν)) :
    Block.casePlaces index (.mk kind label (.items items)) =
      (SuiteOutline.casePlaces (items.filterMap Item.nested?)).map
        (CasePlace.within index label (Items.setting items)) := by
  rw [Block.casePlaces, itemCasePlaces_eq_flatMap]
  rfl

theorem Block.induction_nested {holds : Block ν → Prop}
    (callable : ∀ kind label callable, holds (.mk kind label (.callable callable)))
    (items : ∀ kind label items, (∀ block ∈ items.filterMap Item.nested?, holds block) →
      holds (.mk kind label (.items items)))
    (block : Block ν) : holds block := by
  cases block with
  | mk kind label body =>
      cases body with
      | callable given => exact callable kind label given
      | items given =>
          apply items
          intro inner isNested
          obtain ⟨item, member, nested⟩ := List.mem_filterMap.mp isNested
          have smaller := List.sizeOf_lt_of_mem member
          cases item with
          | nested block =>
              cases nested
              exact Block.induction_nested callable items inner
          | _ => cases nested
termination_by sizeOf block
decreasing_by
  simp only [Block.mk.sizeOf_spec, BlockBody.items.sizeOf_spec, Item.nested.sizeOf_spec] at *
  omega

/-! ## The places are in order -/

theorem Block.ownCase?_eq_some_iff {block : Block ν} {index : Nat} {place : CasePlace ν} :
    block.ownCase? index = some place ↔
      ∃ title body, block = .mk .case title (.callable body) ∧ .own index title body = place := by
  constructor
  · intro isCase
    obtain ⟨kind, label, content⟩ := block
    cases kind with
    | suite => cases isCase
    | case =>
        cases content with
        | items items => cases isCase
        | callable callable => exact ⟨label, callable, rfl, Option.some.inj isCase⟩
  · rintro ⟨title, body, rfl, rfl⟩
    rfl

theorem Block.mem_casePlaces_iff {block : Block ν} {index : Nat} {place : CasePlace ν} :
    place ∈ block.casePlaces index ↔
      ∃ kind label items, block = .mk kind label (.items items) ∧
        ∃ below ∈ SuiteOutline.casePlaces (items.filterMap Item.nested?),
          below.within index label (Items.setting items) = place := by
  obtain ⟨kind, label, content⟩ := block
  cases content with
  | callable callable => simp [Block.casePlaces]
  | items items =>
      rw [Block.casePlaces_items, List.mem_map]
      constructor
      · intro member
        exact ⟨kind, label, items, rfl, member⟩
      · rintro ⟨_, _, _, isSuite, member⟩
        cases isSuite
        exact member

theorem mem_ownCases_iff {blocks : List (Block ν)} {place : CasePlace ν} :
    place ∈ ownCases blocks ↔
      ∃ index title body, blocks[index]? = some (.mk .case title (.callable body)) ∧
        .own index title body = place := by
  rw [ownCases, List.mem_filterMap]
  constructor
  · rintro ⟨⟨block, index⟩, member, isCase⟩
    obtain ⟨title, body, rfl, rfl⟩ := Block.ownCase?_eq_some_iff.mp isCase
    exact ⟨index, title, body, List.mem_zipIdx_iff_getElem?.mp member, rfl⟩
  · rintro ⟨index, title, body, found, rfl⟩
    exact ⟨(_, index), List.mem_zipIdx_iff_getElem?.mpr found, rfl⟩

theorem mem_nestedCases_iff {blocks : List (Block ν)} {place : CasePlace ν} :
    place ∈ nestedCases blocks ↔
      ∃ index kind label items, blocks[index]? = some (.mk kind label (.items items)) ∧
        ∃ below ∈ casePlaces (items.filterMap Item.nested?),
          below.within index label (Items.setting items) = place := by
  rw [nestedCases, List.mem_flatMap]
  constructor
  · rintro ⟨⟨block, index⟩, member, inBlock⟩
    obtain ⟨kind, label, items, rfl, below⟩ := Block.mem_casePlaces_iff.mp inBlock
    exact ⟨index, kind, label, items, List.mem_zipIdx_iff_getElem?.mp member, below⟩
  · rintro ⟨index, kind, label, items, found, below⟩
    exact ⟨(_, index), List.mem_zipIdx_iff_getElem?.mpr found,
      Block.mem_casePlaces_iff.mpr ⟨kind, label, items, rfl, below⟩⟩

theorem zipIdx_increasing (blocks : List (Block ν)) :
    blocks.zipIdx.Pairwise fun first second => first.2 < second.2 := by
  apply List.Pairwise.of_map Prod.snd (fun _ _ less => less)
  rw [List.zipIdx_map_snd]
  exact List.pairwise_lt_range' 1 Nat.one_pos

theorem ownCases_ordered (blocks : List (Block ν)) :
    (ownCases blocks).Pairwise CasePlace.Before := by
  rw [ownCases, List.pairwise_filterMap]
  refine (zipIdx_increasing blocks).imp ?_
  rintro ⟨block, index⟩ ⟨other, further⟩ less first isFirst second isSecond
  obtain ⟨title, body, -, rfl⟩ := Block.ownCase?_eq_some_iff.mp isFirst
  obtain ⟨title, body, -, rfl⟩ := Block.ownCase?_eq_some_iff.mp isSecond
  exact .sameSuite rfl less

theorem casePlaces_ordered_of_nested {blocks : List (Block ν)}
    (nested : ∀ block ∈ blocks, ∀ index, (block.casePlaces index).Pairwise CasePlace.Before) :
    (casePlaces blocks).Pairwise CasePlace.Before := by
  rw [casePlaces, List.pairwise_append]
  refine ⟨ownCases_ordered blocks, ?_, ?_⟩
  · rw [nestedCases, List.pairwise_flatMap]
    constructor
    · rintro ⟨block, index⟩ member
      exact nested block (List.fst_mem_of_mem_zipIdx member) index
    · refine (zipIdx_increasing blocks).imp ?_
      rintro ⟨block, index⟩ ⟨other, further⟩ less first isFirst second isSecond
      obtain ⟨_, _, _, -, below, -, rfl⟩ := Block.mem_casePlaces_iff.mp isFirst
      obtain ⟨_, _, _, -, behind, -, rfl⟩ := Block.mem_casePlaces_iff.mp isSecond
      exact .sibling [] rfl rfl less
  · intro first isOwn second isNested
    obtain ⟨index, title, body, -, rfl⟩ := mem_ownCases_iff.mp isOwn
    obtain ⟨further, _, _, _, -, below, -, rfl⟩ := mem_nestedCases_iff.mp isNested
    exact .above _ (List.cons_ne_nil _ _) rfl

theorem Block.casePlaces_ordered (block : Block ν) (index : Nat) :
    (block.casePlaces index).Pairwise CasePlace.Before := by
  induction block using Block.induction_nested generalizing index with
  | callable kind label callable =>
      rw [Block.casePlaces]
      exact .nil
  | items kind label items ih =>
      rw [Block.casePlaces_items, List.pairwise_map]
      apply (casePlaces_ordered_of_nested ih).imp
      exact fun before => before.within index label (Items.setting items)

theorem casePlaces_ordered (blocks : List (Block ν)) :
    (casePlaces blocks).Pairwise CasePlace.Before :=
  casePlaces_ordered_of_nested fun block _ index => block.casePlaces_ordered index

/-! ## The places of a spec -/

theorem Items.setting_items (partition : Partition ν) :
    Items.setting partition.items =
      ⟨partition.modules, partition.dependencies, partition.before, partition.after⟩ := by
  obtain ⟨modules, dependencies, before, after, nested, dropped⟩ := partition
  cases modules <;> cases dependencies <;>
    simp [Items.setting, Partition.items, Item.loaded, Item.injected, Item.before?, Item.after?,
      List.filterMap_cons, List.flatMap_map, List.filterMap_map, Function.comp_def]

theorem Items.setting_sorted (entries : List (Entry ν)) :
    Items.setting (Partition.sorted "" (entryBlocks entries) entries).items =
      Entries.setting entries :=
  Items.setting_items _

theorem nested_items_sorted_rows (entries : List (Entry ν)) :
    (Partition.sorted "" (entryBlocks entries) entries).items.filterMap Item.nested? =
      rowBlocks (Entries.rows entries) := by
  rw [Partition.nested_items]
  exact entryBlocks_eq_rowBlocks entries

theorem Binding.block_eq_case_iff {label title : String} {binding : Binding ν} {body : Callable ν} :
    binding.block label = .mk .case title (.callable body) ↔
      (label, binding) = (title, .callable body) ∧ isCaseLabel title = true := by
  cases binding with
  | callable callable =>
      rw [Binding.block, Block.ofCallable, LabelKind.ofLabel]
      cases isCase : isCaseLabel label with
      | false =>
          simp
          rintro rfl
          simp [isCase]
      | true =>
          simp
          rintro rfl
          simp [isCase]
  | _ => simp [Binding.block, Block.ofItems]

theorem Binding.block_eq_items {label name : String} {binding : Binding ν} {kind : LabelKind}
    {items : List (Item ν)} (isSuite : binding.block label = .mk kind name (.items items)) :
    items = [] ∨ ∃ entries, (label, binding) = (name, .sequence entries) ∧
      items = (Partition.sorted "" (entryBlocks entries) entries).items := by
  cases binding with
  | callable callable => cases isSuite
  | sequence entries =>
      cases isSuite
      exact .inr ⟨entries, rfl, rfl⟩
  | mapping spec =>
      cases isSuite
      exact .inl rfl
  | other kind =>
      cases isSuite
      exact .inl rfl

/-- By recursion on the labels around the place: seen from a nested suite there is one fewer. -/
theorem rowsHoldCase_of_mem_casePlaces (rows : List (String × Binding ν)) (place : CasePlace ν)
    (member : place ∈ casePlaces (rowBlocks rows)) : RowsHoldCase rows place := by
  rw [casePlaces, List.mem_append, mem_ownCases_iff, mem_nestedCases_iff,
    rowBlocks_eq_map] at member
  simp only [List.getElem?_map, Option.map_eq_some_iff] at member
  rcases member with ⟨index, title, body, ⟨⟨label, binding⟩, found, isCase⟩, rfl⟩ |
    ⟨index, kind, name, items, ⟨⟨label, binding⟩, found, isSuite⟩, below, isIn, rfl⟩
  · obtain ⟨same, isCase⟩ := Binding.block_eq_case_iff.mp isCase
    rw [same] at found
    exact .own found isCase
  · rcases Binding.block_eq_items isSuite with rfl | ⟨entries, same, rfl⟩
    · cases isIn
    · rw [same] at found
      rw [nested_items_sorted_rows] at isIn
      rw [Items.setting_sorted]
      exact .nested found (rowsHoldCase_of_mem_casePlaces (Entries.rows entries) below isIn)
termination_by place.labels.length
decreasing_by
  subst_vars
  exact Nat.lt_succ_self _

theorem mem_casePlaces_iff (rows : List (String × Binding ν)) (place : CasePlace ν) :
    place ∈ casePlaces (rowBlocks rows) ↔ RowsHoldCase rows place := by
  refine ⟨rowsHoldCase_of_mem_casePlaces rows place, ?_⟩
  intro holds
  induction holds with
  | @own rows index title body found isCase =>
      rw [casePlaces, List.mem_append, mem_ownCases_iff, rowBlocks_eq_map]
      refine .inl ⟨index, title, body, ?_, rfl⟩
      rw [List.getElem?_map, found]
      exact congrArg some (Binding.block_eq_case_iff.mpr ⟨rfl, isCase⟩)
  | @nested rows index label entries place found _ ih =>
      rw [casePlaces, List.mem_append, mem_nestedCases_iff, rowBlocks_eq_map]
      rw [← nested_items_sorted_rows] at ih
      refine .inr ⟨index, .suite, label, _, ?_, place, ih, ?_⟩
      · rw [List.getElem?_map, found]
        rfl
      · rw [Items.setting_sorted]

theorem Spec.mem_casePlaces_iff (spec : Spec ν) (place : CasePlace ν) :
    place ∈ spec.casePlaces ↔ RowsHoldCase spec.rows place := by
  obtain ⟨rows⟩ := spec
  exact SuiteOutline.mem_casePlaces_iff rows place

end SuiteOutline
