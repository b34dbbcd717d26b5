import SuiteOutline.Proofs.CallNesting
import SuiteOutline.Proofs.Nesting
import SuiteOutline.Recording

/-!
# The tree that registration records

Registering blocks opens and closes suites like brackets.  The recording framework keeps the suites
that are open on a stack, and what it is told goes to the innermost of them; the tree that it builds
this way is the one that can be read off the blocks.
-/

namespace SuiteOutline

variable {ν : Type}

/-! ## The tree of blocks -/

/-- The case that a block is: a callable under the label of a case. -/
def Block.case? : Block ν → Option (String × Callable ν)
  | .mk .case label (.callable callable) => some (label, callable)
  | _ => none

namespace Item

def loaded : Item ν → List String
  | .modules names => names
  | _ => []

def injected : Item ν → List String
  | .inject names => names
  | _ => []

def before? : Item ν → Option (Callable ν)
  | .before hook => some hook
  | _ => none

def after? : Item ν → Option (Callable ν)
  | .after hook => some hook
  | _ => none

def case? (item : Item ν) : Option (String × Callable ν) :=
  item.nested?.bind Block.case?

end Item

mutual

/-- The suite that a block is: every block with items is one, whatever its kind says, and no
callable is. -/
def Block.record? : Block ν → Option (SuiteRecord ν)
  | .mk _ _ (.callable _) => none
  | .mk _ label (.items items) =>
      some ⟨label, items.flatMap Item.loaded, items.flatMap Item.injected,
        items.filterMap Item.before?, items.filterMap Item.after?, items.filterMap Item.case?,
        itemRecords items⟩

def itemRecords : List (Item ν) → List (SuiteRecord ν)
  | [] => []
  | item :: rest => item.record?.toList ++ itemRecords rest

def Item.record? : Item ν → Option (SuiteRecord ν)
  | .nested block => block.record?
  | _ => none

end

theorem Item.record?_eq_bind (item : Item ν) : item.record? = item.nested?.bind Block.record? := by
  cases item <;> simp [Item.record?, Item.nested?]

theorem itemRecords_eq_filterMap (items : List (Item ν)) :
    itemRecords items = (items.filterMap Item.nested?).filterMap Block.record? := by
  rw [List.filterMap_filterMap]
  induction items with
  | nil => rw [itemRecords, List.filterMap_nil]
  | cons item rest ih =>
      rw [itemRecords, ih, Item.record?_eq_bind]
      cases found : item.nested?.bind Block.record? <;> simp [found]

namespace SuiteRecord

def extend (suite : SuiteRecord ν) (items : List (Item ν)) : SuiteRecord ν where
  name := suite.name
  modules := suite.modules ++ items.flatMap Item.loaded
  dependencies := suite.dependencies ++ items.flatMap Item.injected
  before := suite.before ++ items.filterMap Item.before?
  after := suite.after ++ items.filterMap Item.after?
  cases := suite.cases ++ items.filterMap Item.case?
  suites := suite.suites ++ itemRecords items

@[simp]
theorem extend_nil (suite : SuiteRecord ν) : suite.extend [] = suite := by
  obtain ⟨name, modules, dependencies, before, after, cases, suites⟩ := suite
  simp [extend, itemRecords]

theorem extend_singleton (suite : SuiteRecord ν) (item : Item ν) :
    suite.extend [item] =
      ⟨suite.name, suite.modules ++ item.loaded, suite.dependencies ++ item.injected,
        suite.before ++ item.before?.toList, suite.after ++ item.after?.toList,
        suite.cases ++ item.case?.toList, suite.suites ++ item.record?.toList⟩ := by
  simp only [extend, itemRecords, List.filterMap_eq_flatMap_toList, List.flatMap_singleton,
    List.append_nil]

theorem extend_cons (suite : SuiteRecord ν) (item : Item ν) (rest : List (Item ν)) :
    suite.extend (item :: rest) = (suite.extend [item]).extend rest := by
  rw [extend_singleton]
  simp only [extend, itemRecords, List.filterMap_eq_flatMap_toList, List.flatMap_cons,
    List.append_assoc]

theorem extend_modules (suite : SuiteRecord ν) (names : List String) :
    suite.extend [.modules names] = { suite with modules := suite.modules ++ names } := by
  simp [extend_singleton, Item.loaded, Item.injected, Item.before?, Item.after?, Item.case?,
    Item.nested?, Item.record?]

theorem extend_inject (suite : SuiteRecord ν) (names : List String) :
    suite.extend [.inject names] =
      { suite with dependencies := suite.dependencies ++ names } := by
  simp [extend_singleton, Item.loaded, Item.injected, Item.before?, Item.after?, Item.case?,
    Item.nested?, Item.record?]

theorem extend_before (suite : SuiteRecord ν) (hook : Callable ν) :
    suite.extend [.before hook] = { suite with before := suite.before ++ [hook] } := by
  simp [extend_singleton, Item.loaded, Item.injected, Item.before?, Item.after?, Item.case?,
    Item.nested?, Item.record?]

theorem extend_after (suite : SuiteRecord ν) (hook : Callable ν) :
    suite.extend [.after hook] = { suite with after := suite.after ++ [hook] } := by
  simp [extend_singleton, Item.loaded, Item.injected, Item.before?, Item.after?, Item.case?,
    Item.nested?, Item.record?]

@[simp]
theorem extend_nested (suite : SuiteRecord ν) (block : Block ν) :
    suite.extend [.nested block] =
      { suite with
        cases := suite.cases ++ block.case?.toList
        suites := suite.suites ++ block.record?.toList } := by
  simp [extend_singleton, Item.loaded, Item.injected, Item.before?, Item.after?, Item.case?,
    Item.nested?, Item.record?]

/-- A callable under the label of a suite adds nothing. -/
theorem extend_callable (suite : SuiteRecord ν) (label : String) (callable : Callable ν) :
    suite.extend [.nested (.mk .suite label (.callable callable))] = suite := by
  obtain ⟨name, modules, dependencies, before, after, cases, suites⟩ := suite
  simp [Block.case?, Block.record?]

@[simp]
theorem record?_eq_extend (kind : LabelKind) (label : String) (items : List (Item ν)) :
    Block.record? (.mk kind label (.items items)) = some ((named label).extend items) := by
  simp [Block.record?, extend, named]

end SuiteRecord

/-! ## Recording -/

namespace Recording

theorem changeCurrent_id (recording : Recording ν) :
    (recording.changeCurrent fun suite => suite) = recording := by
  obtain ⟨calls, root, opened⟩ := recording
  cases opened <;> rfl

/-- The recording behind items: their calls, and the current suite with what they add. -/
def filled (recording : Recording ν) (items : List (Item ν)) : Recording ν :=
  { recording with calls := recording.calls ++ itemCalls items }.changeCurrent (·.extend items)

theorem filled_nil (recording : Recording ν) : recording.filled [] = recording := by
  obtain ⟨calls, root, opened⟩ := recording
  cases opened <;> simp [filled, changeCurrent, itemCalls]

theorem filled_cons (recording : Recording ν) (item : Item ν) (rest : List (Item ν)) :
    recording.filled (item :: rest) = (recording.filled [item]).filled rest := by
  obtain ⟨calls, root, opened⟩ := recording
  cases opened <;>
    simp [filled, changeCurrent, itemCalls, SuiteRecord.extend_cons _ item rest]

theorem filled_singleton (recording : Recording ν) {item : Item ν} (call : Call ν)
    (made : item.calls = [call]) :
    recording.filled [item] = (recording.noting call).changeCurrent (·.extend [item]) := by
  rw [filled, itemCalls, itemCalls, made]
  rfl

/-- A suite that is opened, filled and closed becomes a part of the suite around it. -/
theorem filled_suite (recording : Recording ν) (kind : LabelKind) (label : String)
    (items : List (Item ν)) :
    framework.endDescribe label ((framework.describe label recording).filled items) =
      recording.filled [.nested (.mk kind label (.items items))] := by
  obtain ⟨calls, root, opened⟩ := recording
  have made : itemCalls [.nested (.mk kind label (.items items))] =
      .describe label :: (itemCalls items ++ [.endDescribe label]) := by
    cases kind <;> simp [itemCalls, Item.calls, Block.calls]
  have adds (suite : SuiteRecord ν) : suite.extend [.nested (.mk kind label (.items items))] =
      { suite with suites := suite.suites ++ [(SuiteRecord.named label).extend items] } := by
    simp [Block.case?]
  cases opened <;>
    simp [framework, filled, noting, openSuite, closeSuite, changeCurrent, made, adds]

mutual

theorem registerBlock_eq_filled :
    ∀ (block : Block ν) (recording : Recording ν),
      framework.registerBlock block recording = recording.filled [.nested block]
  | .mk .suite label (.callable callable), recording => by
      rw [filled_singleton recording (.describeWith label callable) rfl]
      simp only [SuiteRecord.extend_callable]
      exact (changeCurrent_id (recording.noting (.describeWith label callable))).symm
  | .mk .case label (.callable callable), recording => by
      rw [filled_singleton recording (.it label callable) rfl]
      simp only [SuiteRecord.extend_nested, Block.case?, Block.record?, Option.toList_none,
        List.append_nil]
      rfl
  | .mk kind label (.items items), recording => by
      rw [Framework.registerBlock, registerItems_eq_filled items]
      exact filled_suite recording kind label items

theorem registerItems_eq_filled :
    ∀ (items : List (Item ν)) (recording : Recording ν),
      framework.registerItems items recording = recording.filled items
  | [], recording => by
      rw [Framework.registerItems, filled_nil]
  | item :: rest, recording => by
      rw [Framework.registerItems, registerItem_eq_filled item, registerItems_eq_filled rest,
        ← filled_cons]

theorem registerItem_eq_filled :
    ∀ (item : Item ν) (recording : Recording ν),
      framework.registerItem item recording = recording.filled [item]
  | .modules names, recording => by
      rw [filled_singleton recording (.loadModules names) rfl]
      simp only [SuiteRecord.extend_modules]
      rfl
  | .inject names, recording => by
      rw [filled_singleton recording (.inject names) rfl]
      simp only [SuiteRecord.extend_inject]
      rfl
  | .before hook, recording => by
      rw [filled_singleton recording (.beforeEach hook) rfl]
      simp only [SuiteRecord.extend_before]
      rfl
  | .after hook, recording => by
      rw [filled_singleton recording (.afterEach hook) rfl]
      simp only [SuiteRecord.extend_after]
      rfl
  | .nested block, recording => by
      rw [Framework.registerItem]
      exact registerBlock_eq_filled block recording

end

theorem register_eq_filled (blocks : List (Block ν)) (recording : Recording ν) :
    framework.register blocks recording = recording.filled (blocks.map .nested) := by
  induction blocks generalizing recording with
  | nil => rw [List.map_nil, filled_nil]; rfl
  | cons block rest ih =>
      rw [List.map_cons, filled_cons, ← ih, ← registerBlock_eq_filled]
      rfl

end Recording

theorem SuiteRecord.extend_blocks (suite : SuiteRecord ν) (blocks : List (Block ν)) :
    suite.extend (blocks.map .nested) =
      { suite with
        cases := suite.cases ++ blocks.filterMap Block.case?
        suites := suite.suites ++ blocks.filterMap Block.record? } := by
  induction blocks generalizing suite with
  | nil =>
      cases suite
      simp
  | cons block rest ih =>
      rw [List.map_cons, extend_cons, ih, extend_nested]
      simp only [List.filterMap_eq_flatMap_toList, List.flatMap_cons, List.append_assoc]

/-- Registration is well nested and rebuilds the tree of the blocks.  Whatever the framework, of the
calls that it receives each one that opens a suite has a single one that closes it, and both give
the same name.  The recording framework, if no suite is open, ends with no suite open: its root has
in addition the cases and suites of the blocks, where a block with items is a suite whatever its
kind, has what its items load, inject and hook, and in it the cases and suites among its nested
blocks. -/
theorem registration_rebuilds_tree {τ : Type} (framework : Framework τ ν) (state : τ)
    (blocks : List (Block ν)) :
    (∃ received : List (Call ν),
      framework.watched.register blocks (state, []) =
        (framework.register blocks state, received) ∧
      WellNested received ∧
      ∀ front name rest, received = front ++ .describe name :: rest →
        ∃ within back, rest = within ++ .endDescribe name :: back ∧ WellNested within ∧
          ∀ stretch other further, rest = stretch ++ .endDescribe other :: further →
            WellNested stretch → stretch = within ∧ other = name ∧ further = back) ∧
    (∀ (calls : List (Call ν)) (root : SuiteRecord ν),
      Recording.framework.register blocks ⟨calls, root, []⟩ =
        ⟨calls ++ Framework.calls blocks,
          { root with
            cases := root.cases ++ blocks.filterMap Block.case?
            suites := root.suites ++ blocks.filterMap Block.record? },
          []⟩) ∧
    (∀ (kind : LabelKind) (label : String) (items : List (Item ν)),
      Block.record? (.mk kind label (.items items)) =
        some {
          name := label
          modules := items.flatMap Item.loaded
          dependencies := items.flatMap Item.injected
          before := items.filterMap Item.before?
          after := items.filterMap Item.after?
          cases := (items.filterMap Item.nested?).filterMap Block.case?
          suites := (items.filterMap Item.nested?).filterMap Block.record? }) ∧
    ∀ (kind : LabelKind) (label : String) (callable : Callable ν),
      Block.record? (.mk kind label (.callable callable)) = none := by
  refine ⟨⟨Framework.calls blocks, ?_, Framework.calls_wellNested blocks, ?_⟩, ?_, ?_, ?_⟩
  · rw [Framework.register_watched, List.nil_append]
  · intro front name rest opened
    exact (Framework.calls_wellNested blocks).exists_only_close opened
  · intro calls root
    rw [Recording.register_eq_filled, Recording.filled, Framework.calls_eq_flatMap,
      ← itemCalls_map_nested, ← SuiteRecord.extend_blocks]
    rfl
  · intro kind label items
    simp only [Block.record?, itemRecords_eq_filterMap, List.filterMap_filterMap]
    rfl
  · intro kind label callable
    rfl

end SuiteOutline
