import SuiteOutline.Proofs.CallText
import SuiteOutline.Proofs.Meaning
import SuiteOutline.Proofs.Observation

/-!
# Callables carried through a compilation

Of a callable a compilation looks at the role alone.  Sources and bodies are carried along: what a
spec compiles to after its callables have been replaced by others with the same roles is what it
compiled to before, with the same replacement.  A callable therefore comes to a framework as it
stood in the spec, body and all.
-/

namespace SuiteOutline

variable {ν : Type}

/-! ## Replacing callables -/

mutual

/-- The spec with every callable replaced. -/
def Spec.mapCallables (change : Callable ν → Callable ν) : Spec ν → Spec ν
  | .mk rows => .mk (mapRowCallables change rows)

def mapRowCallables (change : Callable ν → Callable ν) :
    List (String × Binding ν) → List (String × Binding ν)
  | [] => []
  | (label, binding) :: rest => (label, binding.mapCallables change) :: mapRowCallables change rest

def Binding.mapCallables (change : Callable ν → Callable ν) : Binding ν → Binding ν
  | .callable callable => .callable (change callable)
  | .sequence entries => .sequence (mapEntryCallables change entries)
  | .mapping spec => .mapping (spec.mapCallables change)
  | .other kind => .other kind

def mapEntryCallables (change : Callable ν → Callable ν) : List (Entry ν) → List (Entry ν)
  | [] => []
  | entry :: rest => entry.mapCallables change :: mapEntryCallables change rest

def Entry.mapCallables (change : Callable ν → Callable ν) : Entry ν → Entry ν
  | .reference raw => .reference raw
  | .hook callable => .hook (change callable)
  | .suite spec => .suite (spec.mapCallables change)
  | .other kind => .other kind

end

mutual

def Block.mapCallables (change : Callable ν → Callable ν) : Block ν → Block ν
  | .mk kind label (.callable callable) => .mk kind label (.callable (change callable))
  | .mk kind label (.items items) => .mk kind label (.items (mapItemCallables change items))

def mapItemCallables (change : Callable ν → Callable ν) : List (Item ν) → List (Item ν)
  | [] => []
  | item :: rest => item.mapCallables change :: mapItemCallables change rest

def Item.mapCallables (change : Callable ν → Callable ν) : Item ν → Item ν
  | .modules names => .modules names
  | .inject names => .inject names
  | .before hook => .before (change hook)
  | .after hook => .after (change hook)
  | .nested block => .nested (block.mapCallables change)

end

def Call.mapCallables (change : Callable ν → Callable ν) : Call ν → Call ν
  | .describe name => .describe name
  | .endDescribe name => .endDescribe name
  | .describeWith name body => .describeWith name (change body)
  | .it name body => .it name (change body)
  | .loadModules names => .loadModules names
  | .inject names => .inject names
  | .beforeEach hook => .beforeEach (change hook)
  | .afterEach hook => .afterEach (change hook)

def Position.mapCallables (change : Callable ν → Callable ν) : Position ν → Position ν
  | .atLabel path label binding => .atLabel path label (binding.mapCallables change)
  | .atEntry path earlier entry =>
      .atEntry path (mapEntryCallables change earlier) (entry.mapCallables change)

theorem mapEntryCallables_eq_map (change : Callable ν → Callable ν) (entries : List (Entry ν)) :
    mapEntryCallables change entries = entries.map (Entry.mapCallables change) := by
  induction entries with
  | nil => rw [mapEntryCallables, List.map_nil]
  | cons entry rest ih => rw [mapEntryCallables, ih, List.map_cons]

theorem mapItemCallables_eq_map (change : Callable ν → Callable ν) (items : List (Item ν)) :
    mapItemCallables change items = items.map (Item.mapCallables change) := by
  induction items with
  | nil => rw [mapItemCallables, List.map_nil]
  | cons item rest ih => rw [mapItemCallables, ih, List.map_cons]

/-! ## Hooks by their roles -/

namespace Hooks

variable {earlier others : List (Callable ν)} {hook other : Callable ν}

theorem fillBefore_congr (tags : earlier.map Callable.tag = others.map Callable.tag) :
    fillBefore earlier = fillBefore others := by
  have byTags (hooks : List (Callable ν)) :
      fillBefore hooks = (hooks.map Callable.tag).any fun tag => !(tag == .after) := by
    rw [List.any_map]
    rfl
  rw [byTags, byTags, tags]

theorem fillAfter_congr (tags : earlier.map Callable.tag = others.map Callable.tag) :
    fillAfter earlier = fillAfter others := by
  have byTags (hooks : List (Callable ν)) : fillAfter hooks =
      ((hooks.map Callable.tag).any (· == .after) ||
        (hooks.map Callable.tag).tail.any (· == .unmarked)) := by
    rw [← List.map_tail, List.any_map, List.any_map]
    rfl
  rw [byTags, byTags, tags]

theorem bucket?_congr (tags : earlier.map Callable.tag = others.map Callable.tag)
    (tag : hook.tag = other.tag) : bucket? earlier hook = bucket? others other := by
  rw [bucket?, bucket?, fillBefore_congr tags, fillAfter_congr tags, tag]

end Hooks

/-! ## One suite -/

/-- The items of a suite without the blocks nested in it. -/
def Entries.ownItems (entries : List (Entry ν)) : List (Item ν) :=
  moduleItems entries ++ injectItems entries
    ++ (Hooks.inBucket .before (hooks entries)).map .before
    ++ (Hooks.inBucket .after (hooks entries)).map .after

theorem Entries.items_eq_ownItems (suite : String) (nested : List (Block ν))
    (entries : List (Entry ν)) :
    (Partition.sorted suite nested entries).items = ownItems entries ++ nested.map .nested :=
  items_sorted suite nested entries

/-- A replacement of callables that leaves each of them its role. -/
def KeepsRoles (change : Callable ν → Callable ν) : Prop :=
  ∀ callable, (change callable).tag = callable.tag

variable {change : Callable ν → Callable ν}

section Suite

variable (keeps : KeepsRoles change)

include keeps

theorem Hooks.bucket?_map (earlier : List (Callable ν)) (hook : Callable ν) :
    bucket? (earlier.map change) (change hook) = bucket? earlier hook := by
  apply bucket?_congr
  · rw [List.map_map]
    exact List.map_congr_left fun callable _ => keeps callable
  · exact keeps hook

theorem Hooks.inBucket_map (bucket : HookBucket) (hooks : List (Callable ν)) :
    inBucket bucket (hooks.map change) = (inBucket bucket hooks).map change := by
  induction hooks using List.reverseRecOn with
  | nil => rfl
  | append_singleton hooks last ih =>
      rw [List.map_append, List.map_singleton, inBucket_concat, inBucket_concat, ih,
        bucket?_map keeps, List.map_append]
      split <;> rfl

omit keeps in
theorem Entries.hooks_mapCallables (entries : List (Entry ν)) :
    hooks (mapEntryCallables change entries) = (hooks entries).map change := by
  rw [mapEntryCallables_eq_map, hooks, hooks, List.filterMap_map, List.map_filterMap]
  apply List.filterMap_congr
  intro entry _
  cases entry <;> rfl

omit keeps in
theorem Entries.references_mapCallables (entries : List (Entry ν)) :
    references (mapEntryCallables change entries) = references entries := by
  rw [mapEntryCallables_eq_map, references, references, List.filterMap_map]
  apply List.filterMap_congr
  intro entry _
  cases entry <;> rfl

theorem Entry.dropReason?_mapCallables (earlier : List (Entry ν)) (entry : Entry ν) :
    (entry.mapCallables change).dropReason? (mapEntryCallables change earlier) =
      entry.dropReason? earlier := by
  cases entry with
  | hook callable =>
      rw [mapCallables, dropReason?, dropReason?, Entries.hooks_mapCallables,
        Hooks.bucket?_map keeps]
  | _ => rfl

theorem Entry.dropped?_mapCallables (suite : String) (earlier : List (Entry ν)) (entry : Entry ν) :
    (entry.mapCallables change).dropped? suite (mapEntryCallables change earlier) =
      entry.dropped? suite earlier := by
  have shape : (entry.mapCallables change).shape = entry.shape := by
    cases entry <;> rfl
  rw [dropped?, dropped?, dropReason?_mapCallables keeps, shape, mapEntryCallables_eq_map,
    List.length_map]

theorem Entries.dropped_mapCallables (suite : String) (entries : List (Entry ν)) :
    Entries.dropped suite (mapEntryCallables change entries) = Entries.dropped suite entries := by
  induction entries using List.reverseRecOn with
  | nil => rw [mapEntryCallables]
  | append_singleton entries last ih =>
      have split : mapEntryCallables change (entries ++ [last]) =
          mapEntryCallables change entries ++ [last.mapCallables change] := by
        simp only [mapEntryCallables_eq_map, List.map_append, List.map_singleton]
      rw [split, dropped_concat, dropped_concat, ih, Entry.dropped?_mapCallables keeps]

omit keeps in
theorem Entries.moduleItems_mapCallables (entries : List (Entry ν)) :
    moduleItems (mapEntryCallables change entries) =
      (moduleItems entries).map (Item.mapCallables change) := by
  rw [moduleItems, moduleNames, references_mapCallables, moduleItems, moduleNames]
  split <;> rfl

omit keeps in
theorem Entries.injectItems_mapCallables (entries : List (Entry ν)) :
    injectItems (mapEntryCallables change entries) =
      (injectItems entries).map (Item.mapCallables change) := by
  rw [injectItems, dependencyNames, references_mapCallables, injectItems, dependencyNames]
  split <;> rfl

theorem Entries.ownItems_mapCallables (entries : List (Entry ν)) :
    ownItems (mapEntryCallables change entries) =
      (ownItems entries).map (Item.mapCallables change) := by
  rw [ownItems, ownItems, moduleItems_mapCallables, injectItems_mapCallables, hooks_mapCallables,
    Hooks.inBucket_map keeps, Hooks.inBucket_map keeps]
  simp only [List.map_append, List.map_map]
  rfl

theorem Partition.items_mapCallables (suite : String) (nested : List (Block ν))
    (entries : List (Entry ν)) :
    (sorted suite (nested.map (Block.mapCallables change))
        (mapEntryCallables change entries)).items =
      mapItemCallables change (sorted suite nested entries).items := by
  rw [mapItemCallables_eq_map, Entries.items_eq_ownItems, Entries.items_eq_ownItems,
    Entries.ownItems_mapCallables keeps, List.map_append, List.map_map, List.map_map]
  rfl

end Suite

/-! ## Blocks, records and positions -/

mutual

theorem Spec.blocks_mapCallables (keeps : KeepsRoles change) :
    ∀ spec : Spec ν, (spec.mapCallables change).blocks = spec.blocks.map (Block.mapCallables change)
  | .mk rows => by
      rw [Spec.mapCallables, Spec.blocks, Spec.blocks]
      exact rowBlocks_mapCallables keeps rows

theorem rowBlocks_mapCallables (keeps : KeepsRoles change) :
    ∀ rows : List (String × Binding ν),
      rowBlocks (mapRowCallables change rows) = (rowBlocks rows).map (Block.mapCallables change)
  | [] => by
      rw [mapRowCallables, rowBlocks, List.map_nil]
  | (label, binding) :: rest => by
      rw [mapRowCallables, rowBlocks, rowBlocks, List.map_cons, Binding.block_mapCallables keeps,
        rowBlocks_mapCallables keeps]

theorem Binding.block_mapCallables (keeps : KeepsRoles change) (label : String) :
    ∀ binding : Binding ν,
      (binding.mapCallables change).block label = (binding.block label).mapCallables change
  | .callable callable => by
      rw [Binding.mapCallables, Binding.block, Binding.block, Block.ofCallable, Block.ofCallable,
        Block.mapCallables]
  | .sequence entries => by
      rw [Binding.mapCallables, Binding.block, Binding.block, Block.ofItems, Block.ofItems,
        Block.mapCallables, entryBlocks_mapCallables keeps, Partition.items_mapCallables keeps]
  | .mapping spec => by
      rw [Binding.mapCallables, Binding.block, Binding.block, Block.ofItems, Block.mapCallables,
        mapItemCallables]
  | .other kind => by
      rw [Binding.mapCallables, Binding.block, Block.ofItems, Block.mapCallables,
        mapItemCallables]

theorem entryBlocks_mapCallables (keeps : KeepsRoles change) :
    ∀ entries : List (Entry ν),
      entryBlocks (mapEntryCallables change entries) =
        (entryBlocks entries).map (Block.mapCallables change)
  | [] => by
      rw [mapEntryCallables, entryBlocks, List.map_nil]
  | entry :: rest => by
      rw [mapEntryCallables, entryBlocks, entryBlocks, List.map_append,
        Entry.blocks_mapCallables keeps, entryBlocks_mapCallables keeps]

theorem Entry.blocks_mapCallables (keeps : KeepsRoles change) :
    ∀ entry : Entry ν,
      (entry.mapCallables change).blocks = entry.blocks.map (Block.mapCallables change)
  | .reference _ => by
      rw [Entry.mapCallables, Entry.blocks, List.map_nil]
  | .hook _ => by
      rw [Entry.mapCallables, Entry.blocks, Entry.blocks, List.map_nil]
  | .suite spec => by
      rw [Entry.mapCallables, Entry.blocks, Entry.blocks]
      exact Spec.blocks_mapCallables keeps spec
  | .other _ => by
      rw [Entry.mapCallables, Entry.blocks, List.map_nil]

end

mutual

theorem Spec.dropped_mapCallables (keeps : KeepsRoles change) (path : List String) :
    ∀ spec : Spec ν, (spec.mapCallables change).dropped path = spec.dropped path
  | .mk rows => by
      rw [Spec.mapCallables, Spec.dropped, Spec.dropped]
      exact rowsDropped_mapCallables keeps path rows

theorem rowsDropped_mapCallables (keeps : KeepsRoles change) (path : List String) :
    ∀ rows : List (String × Binding ν),
      rowsDropped path (mapRowCallables change rows) = rowsDropped path rows
  | [] => by
      rw [mapRowCallables]
  | (label, binding) :: rest => by
      rw [mapRowCallables, rowsDropped, rowsDropped, Binding.dropped_mapCallables keeps,
        rowsDropped_mapCallables keeps]

theorem Binding.dropped_mapCallables (keeps : KeepsRoles change) (path : List String) :
    ∀ binding : Binding ν, (binding.mapCallables change).dropped path = binding.dropped path
  | .callable _ => by
      rw [Binding.mapCallables, Binding.dropped, Binding.dropped]
  | .sequence entries => by
      rw [Binding.mapCallables, Binding.dropped, Binding.dropped, entriesDropped_mapCallables keeps,
        Entries.dropped_mapCallables keeps]
  | .mapping _ => by
      rw [Binding.mapCallables, Binding.dropped, Binding.dropped]
  | .other _ => by
      rw [Binding.mapCallables]

theorem entriesDropped_mapCallables (keeps : KeepsRoles change) (path : List String) :
    ∀ entries : List (Entry ν),
      entriesDropped path (mapEntryCallables change entries) = entriesDropped path entries
  | [] => by
      rw [mapEntryCallables]
  | entry :: rest => by
      rw [mapEntryCallables, entriesDropped, entriesDropped, Entry.dropped_mapCallables keeps,
        entriesDropped_mapCallables keeps]

theorem Entry.dropped_mapCallables (keeps : KeepsRoles change) (path : List String) :
    ∀ entry : Entry ν, (entry.mapCallables change).dropped path = entry.dropped path
  | .reference _ => by
      rw [Entry.mapCallables]
  | .hook _ => by
      rw [Entry.mapCallables, Entry.dropped, Entry.dropped]
  | .suite spec => by
      rw [Entry.mapCallables, Entry.dropped, Entry.dropped]
      exact Spec.dropped_mapCallables keeps path spec
  | .other _ => by
      rw [Entry.mapCallables]

end

mutual

theorem Spec.positions_mapCallables (path : List String) :
    ∀ spec : Spec ν, (spec.mapCallables change).positions path =
      (spec.positions path).map (Position.mapCallables change)
  | .mk rows => by
      rw [Spec.mapCallables, Spec.positions, Spec.positions]
      exact rowPositions_mapCallables path rows

theorem rowPositions_mapCallables (path : List String) :
    ∀ rows : List (String × Binding ν),
      rowPositions path (mapRowCallables change rows) =
        (rowPositions path rows).map (Position.mapCallables change)
  | [] => by
      rw [mapRowCallables, rowPositions, List.map_nil]
  | (label, binding) :: rest => by
      rw [mapRowCallables, rowPositions, rowPositions, Binding.positions_mapCallables,
        rowPositions_mapCallables, List.map_cons, List.map_append]
      rfl

theorem Binding.positions_mapCallables (path : List String) :
    ∀ binding : Binding ν, (binding.mapCallables change).positions path =
      (binding.positions path).map (Position.mapCallables change)
  | .callable _ => by
      rw [Binding.mapCallables, Binding.positions, Binding.positions, List.map_nil]
  | .sequence entries => by
      rw [Binding.mapCallables, Binding.positions, Binding.positions]
      exact entryPositions_mapCallables path [] entries
  | .mapping spec => by
      rw [Binding.mapCallables, Binding.positions, Binding.positions]
      exact Spec.positions_mapCallables path spec
  | .other _ => by
      rw [Binding.mapCallables, Binding.positions, List.map_nil]

theorem entryPositions_mapCallables (path : List String) (earlier : List (Entry ν)) :
    ∀ entries : List (Entry ν),
      entryPositions path (mapEntryCallables change earlier) (mapEntryCallables change entries) =
        (entryPositions path earlier entries).map (Position.mapCallables change)
  | [] => by
      rw [mapEntryCallables, entryPositions, entryPositions, List.map_nil]
  | entry :: rest => by
      have others := entryPositions_mapCallables path (earlier ++ [entry]) rest
      rw [mapEntryCallables_eq_map change (earlier ++ [entry]), List.map_append,
        List.map_singleton, ← mapEntryCallables_eq_map] at others
      rw [mapEntryCallables, entryPositions, entryPositions, Entry.positions_mapCallables, others,
        List.map_cons, List.map_append]
      rfl

theorem Entry.positions_mapCallables (path : List String) :
    ∀ entry : Entry ν, (entry.mapCallables change).positions path =
      (entry.positions path).map (Position.mapCallables change)
  | .reference _ => by
      rw [Entry.mapCallables, Entry.positions, List.map_nil]
  | .hook _ => by
      rw [Entry.mapCallables, Entry.positions, Entry.positions, List.map_nil]
  | .suite spec => by
      rw [Entry.mapCallables, Entry.positions, Entry.positions]
      exact Spec.positions_mapCallables path spec
  | .other _ => by
      rw [Entry.mapCallables, Entry.positions, List.map_nil]

end

theorem Position.fault?_mapCallables (keeps : KeepsRoles change) (options : Options)
    (position : Position ν) :
    (position.mapCallables change).fault? options = position.fault? options := by
  cases position with
  | atLabel path label binding =>
      cases binding <;> rfl
  | atEntry path earlier entry =>
      have record := Entry.dropped?_mapCallables keeps (pathText path) earlier entry
      have length : (mapEntryCallables change earlier).length = earlier.length := by
        rw [mapEntryCallables_eq_map, List.length_map]
      cases entry with
      | reference raw =>
          simp only [mapCallables, fault?, Entry.mapCallables, entryFault?, length]
      | suite spec => rfl
      | hook callable =>
          rw [Entry.mapCallables] at record
          simp only [mapCallables, fault?, Entry.mapCallables, entryFault?, record]
      | other kind =>
          rw [Entry.mapCallables] at record
          simp only [mapCallables, fault?, Entry.mapCallables, entryFault?, record]

/-- A spec with replaced callables compiles to the replaced blocks, or fails as before. -/
theorem Options.compileBlocks_mapCallables (keeps : KeepsRoles change) (options : Options)
    (spec : Spec ν) (depth : UInt64) :
    (options.compileBlocks (spec.mapCallables change) depth).result =
      (options.compileBlocks spec depth).result.map fun (blocks, dropped) =>
        (blocks.map (Block.mapCallables change), dropped) := by
  have faults : ((spec.mapCallables change).positions []).findSome? (Position.fault? options) =
      (spec.positions []).findSome? (Position.fault? options) := by
    rw [Spec.positions_mapCallables, List.findSome?_map]
    congr 1
    exact funext fun position => position.fault?_mapCallables keeps options
  rw [(options.compileBlocks_settles (spec.mapCallables change) depth).result_eq,
    (options.compileBlocks_settles spec depth).result_eq, faults, Spec.blocks_mapCallables keeps,
    Spec.dropped_mapCallables keeps]
  cases (spec.positions []).findSome? (Position.fault? options) <;> rfl

/-! ## Calls of replaced blocks -/

mutual

theorem Block.calls_mapCallables :
    ∀ block : Block ν,
      (block.mapCallables change).calls = block.calls.map (Call.mapCallables change)
  | .mk .suite _ (.callable _) => rfl
  | .mk .case _ (.callable _) => rfl
  | .mk .suite label (.items items) => by
      rw [Block.mapCallables, Block.calls, Block.calls, itemCalls_mapCallables, List.map_cons,
        List.map_append]
      rfl
  | .mk .case label (.items items) => by
      rw [Block.mapCallables, Block.calls, Block.calls, itemCalls_mapCallables, List.map_cons,
        List.map_append]
      rfl

theorem itemCalls_mapCallables :
    ∀ items : List (Item ν),
      itemCalls (mapItemCallables change items) = (itemCalls items).map (Call.mapCallables change)
  | [] => by
      rw [mapItemCallables, itemCalls, List.map_nil]
  | item :: rest => by
      rw [mapItemCallables, itemCalls, itemCalls, Item.calls_mapCallables, itemCalls_mapCallables,
        List.map_append]

theorem Item.calls_mapCallables :
    ∀ item : Item ν, (item.mapCallables change).calls = item.calls.map (Call.mapCallables change)
  | .modules _ => rfl
  | .inject _ => rfl
  | .before _ => rfl
  | .after _ => rfl
  | .nested block => by
      rw [Item.mapCallables, Item.calls, Item.calls]
      exact Block.calls_mapCallables block

end

theorem Framework.calls_mapCallables (blocks : List (Block ν)) :
    calls (blocks.map (Block.mapCallables change)) =
      (calls blocks).map (Call.mapCallables change) := by
  rw [calls_eq_flatMap, calls_eq_flatMap, List.flatMap_map, List.map_flatMap]
  exact List.flatMap_congr fun block _ => block.calls_mapCallables

/-! ## Specs that differ in bodies -/

def Callable.bodiless (callable : Callable ν) : Callable ν :=
  { callable with body := none }

theorem Callable.keepsRoles_bodiless : KeepsRoles (bodiless (ν := ν)) :=
  fun _ => rfl

def Spec.bodiless (spec : Spec ν) : Spec ν :=
  spec.mapCallables Callable.bodiless

def Block.bodiless (block : Block ν) : Block ν :=
  block.mapCallables Callable.bodiless

theorem Script.blocks_bodiless (dialect : Dialect) (blocks : List (Block ν)) :
    Script.blocks dialect (blocks.map Block.bodiless) = Script.blocks dialect blocks := by
  have written (made : List (Call ν)) :
      Script.calls dialect (made.map (Call.mapCallables Callable.bodiless)) =
        Script.calls dialect made := by
    rw [Script.calls, Script.calls, List.map_map]
    congr 2
    funext call
    cases call <;> rfl
  rw [Script.blocks_eq_calls, Script.blocks_eq_calls]
  exact (congrArg _ (Framework.calls_mapCallables blocks)).trans (written _)

namespace Options

variable (options : Options) {first second : Spec ν}

theorem compileBlocks_of_bodiless (same : first.bodiless = second.bodiless) (depth : UInt64) :
    (options.compileBlocks first depth).result.map (fun (blocks, dropped) =>
        (blocks.map Block.bodiless, dropped)) =
      (options.compileBlocks second depth).result.map fun (blocks, dropped) =>
        (blocks.map Block.bodiless, dropped) := by
  have firstBare := options.compileBlocks_mapCallables Callable.keepsRoles_bodiless first depth
  have secondBare := options.compileBlocks_mapCallables Callable.keepsRoles_bodiless second depth
  rw [← Spec.bodiless, same] at firstBare
  exact firstBare.symm.trans secondBare

theorem texts_of_bodiless (same : first.bodiless = second.bodiless) (depth : UInt64) :
    (options.compileBlocks first depth).result.map (fun (blocks, dropped) =>
        (Script.blocks options.dialect blocks, dropped)) =
      (options.compileBlocks second depth).result.map fun (blocks, dropped) =>
        (Script.blocks options.dialect blocks, dropped) := by
  have written (result : Except CompileError (List (Block ν) × List DroppedEntry)) :
      result.map (fun (blocks, dropped) => (Script.blocks options.dialect blocks, dropped)) =
        (result.map fun (blocks, dropped) => (blocks.map Block.bodiless, dropped)).map
          fun (blocks, dropped) => (Script.blocks options.dialect blocks, dropped) := by
    cases result with
    | error error => rfl
    | ok value =>
        simp only [Except.map, Script.blocks_bodiless]
  rw [written (options.compileBlocks first depth).result,
    options.compileBlocks_of_bodiless same, ← written]

theorem fragment_of_bodiless (same : first.bodiless = second.bodiless) (depth : UInt64) :
    (options.fragment first depth).result = (options.fragment second depth).result := by
  have fromTexts (spec : Spec ν) : (options.fragment spec depth).result =
      ((options.compileBlocks spec depth).result.map fun (blocks, dropped) =>
        (Script.blocks options.dialect blocks, dropped)).map Prod.fst := by
    rw [fragment_result_eq_map]
    cases (options.compileBlocks spec depth).result <;> rfl
  rw [fromTexts, options.texts_of_bodiless same, ← fromTexts]

theorem program_of_bodiless (same : first.bodiless = second.bodiless) :
    (options.program first).result.map (fun program => (program.text, program.dropped)) =
      (options.program second).result.map fun program => (program.text, program.dropped) := by
  have fromTexts (spec : Spec ν) :
      (options.program spec).result.map (fun program => (program.text, program.dropped)) =
        (options.compileBlocks spec 0).result.map fun (blocks, dropped) =>
          (Script.blocks options.dialect blocks, dropped) := by
    rw [program_result_eq_map]
    cases (options.compileBlocks spec 0).result <;> rfl
  rw [fromTexts, options.texts_of_bodiless same, ← fromTexts]

end Options

/-! ## What a framework is told of a spec -/

def Entries.ownCalls (entries : List (Entry ν)) : List (Call ν) :=
  (if (references entries).any (·.role.loadsModule) then [.loadModules (moduleNames entries)]
    else [])
    ++ (if (references entries).any (·.role.injects) then [.inject (dependencyNames entries)]
      else [])
    ++ (Hooks.inBucket .before (hooks entries)).map .beforeEach
    ++ (Hooks.inBucket .after (hooks entries)).map .afterEach

mutual

/-- What a framework is told of a spec: its labels in order, with the callables that stand
there. -/
def Spec.calls : Spec ν → List (Call ν)
  | .mk rows => rowCalls rows

def rowCalls : List (String × Binding ν) → List (Call ν)
  | [] => []
  | (label, binding) :: rest => binding.calls label ++ rowCalls rest

/-- What a framework is told of a label: its case, or its suite with the hooks of the suite and
the specs in it. -/
def Binding.calls (label : String) : Binding ν → List (Call ν)
  | .callable callable =>
      match LabelKind.ofLabel label with
      | .suite => [.describeWith label callable]
      | .case => [.it label callable]
  | .sequence entries =>
      .describe label :: (Entries.ownCalls entries ++ entryCalls entries ++ [.endDescribe label])
  | .mapping _ => []
  | .other _ => []

def entryCalls : List (Entry ν) → List (Call ν)
  | [] => []
  | entry :: rest => entry.calls ++ entryCalls rest

def Entry.calls : Entry ν → List (Call ν)
  | .reference _ => []
  | .hook _ => []
  | .suite spec => spec.calls
  | .other _ => []

end

theorem itemCalls_map_before (hooks : List (Callable ν)) :
    itemCalls (hooks.map .before) = hooks.map .beforeEach := by
  induction hooks with
  | nil => rfl
  | cons hook rest ih =>
      rw [List.map_cons, itemCalls, ih]
      rfl

theorem itemCalls_map_after (hooks : List (Callable ν)) :
    itemCalls (hooks.map .after) = hooks.map .afterEach := by
  induction hooks with
  | nil => rfl
  | cons hook rest ih =>
      rw [List.map_cons, itemCalls, ih]
      rfl

theorem Arranged.itemCalls_eq {suite : String} {entries : List (Entry ν)} {nested : List (Block ν)}
    {before after : List (Callable ν)} {items : List (Item ν)} {reported : List DroppedEntry}
    (arranged : Arranged suite entries nested before after items reported) :
    itemCalls items = Entries.ownCalls entries ++ nested.flatMap Block.calls := by
  have modules : itemCalls (Entries.moduleItems entries) =
      if (Entries.references entries).any (·.role.loadsModule) then
        [.loadModules (Entries.moduleNames entries)] else [] := by
    rw [Entries.moduleItems]
    split <;> rfl
  have dependencies : itemCalls (Entries.injectItems entries) =
      if (Entries.references entries).any (·.role.injects) then
        [.inject (Entries.dependencyNames entries)] else [] := by
    rw [Entries.injectItems]
    split <;> rfl
  rw [arranged.items_eq, arranged.before_eq, arranged.after_eq]
  simp only [itemCalls_append, itemCalls_map_before, itemCalls_map_after, itemCalls_map_nested,
    modules, dependencies, Entries.ownCalls]

mutual

/-- Blocks that stand for a spec stand for the calls that a framework is told of it. -/
theorem Spec.Means.calls_eq {path : List String} {spec : Spec ν} {blocks : List (Block ν)}
    {reported : List DroppedEntry} (means : Spec.Means path spec blocks reported) :
    blocks.flatMap Block.calls = spec.calls := by
  cases means with
  | rows means =>
      rw [Spec.calls]
      exact means.calls_eq

theorem RowsMean.calls_eq {path : List String} {rows : List (String × Binding ν)}
    {blocks : List (Block ν)} {reported : List DroppedEntry}
    (means : RowsMean path rows blocks reported) :
    blocks.flatMap Block.calls = rowCalls rows := by
  cases means with
  | nil =>
      rw [rowCalls, List.flatMap_nil]
  | cons first others =>
      rw [rowCalls, List.flatMap_cons, first.calls_eq, others.calls_eq]

theorem Binding.Means.calls_eq {path : List String} {label : String} {binding : Binding ν}
    {block : Block ν} {reported : List DroppedEntry}
    (means : Binding.Means path label binding block reported) :
    block.calls = binding.calls label := by
  cases means with
  | callable =>
      rw [Binding.calls]
      cases LabelKind.ofLabel label <;> rfl
  | sequence isSuite inner arranged =>
      rw [Binding.calls, Block.calls, arranged.itemCalls_eq, inner.calls_eq]

theorem EntriesMean.calls_eq {path : List String} {entries : List (Entry ν)}
    {nested : List (Block ν)} {reported : List DroppedEntry}
    (means : EntriesMean path entries nested reported) :
    nested.flatMap Block.calls = entryCalls entries := by
  cases means with
  | nil =>
      rw [entryCalls, List.flatMap_nil]
  | suite first more =>
      rw [entryCalls, Entry.calls, List.flatMap_append, first.calls_eq, more.calls_eq]
  | @plain _ entry _ _ _ noSpec more =>
      rw [entryCalls, more.calls_eq]
      cases entry with
      | suite spec => exact absurd rfl (noSpec spec)
      | _ => rfl

end

section Register

variable {τ : Type} (options : Options) {spec : Spec ν} (framework : Framework τ ν) (state : τ)

theorem Options.registerCalls_of_error {error : CompileError}
    (failed : (options.compileBlocks spec 0).outcome = .error error) :
    options.registerCalls framework spec state = [] := by
  have noProgram := options.program_of_error failed
  simp only [registerCalls, register, noProgram]

theorem Options.registerCalls_of_ok {blocks : List (Block ν)}
    (compiled : (options.compileBlocks spec 0).outcome = .ok blocks) :
    options.registerCalls framework spec state = Framework.calls blocks := by
  have made := options.program_of_ok compiled
  simp only [registerCalls, register, made, Framework.register_watched, List.nil_append]

theorem Options.register_state_eq :
    (options.register framework spec state).2 =
      (options.registerCalls framework spec state).foldl framework.answer state := by
  cases compiled : (options.compileBlocks spec 0).outcome with
  | error error =>
      have noProgram := options.program_of_error compiled
      rw [options.registerCalls_of_error framework state compiled]
      simp only [register, noProgram, List.foldl_nil]
  | ok blocks =>
      have made := options.program_of_ok compiled
      rw [options.registerCalls_of_ok framework state compiled]
      simp only [register, made, framework.register_eq_foldl_calls]

end Register

theorem Framework.calls_of_ok {options : Options} {spec : Spec ν} {depth : UInt64}
    {blocks : List (Block ν)} (compiled : (options.compileBlocks spec depth).outcome = .ok blocks) :
    Framework.calls blocks = spec.calls := by
  obtain ⟨rfl, -, innocent⟩ := (options.compileBlocks_settles spec depth).of_ok compiled
  have means := Spec.means options [] spec (List.findSome?_eq_none_iff.mp innocent)
  rw [calls_eq_flatMap, means.calls_eq]

/-- Callables go through a compilation unopened.  If each of them is replaced by one of the same
role, with any source and any body, a spec compiles to its blocks with that replacement and the
same dropped entries, or fails with the same error.  So specs that differ in bodies alone have one
text at every depth, one program text with the same dropped entries, and the same errors.  A
framework with which a spec that compiles is registered is told of the callables that stand in the
spec, each as it stands at its place. -/
theorem compilation_carries_callables (options : Options) :
    (∀ change : Callable ν → Callable ν, KeepsRoles change → ∀ (spec : Spec ν) (depth : UInt64),
      (options.compileBlocks (spec.mapCallables change) depth).result =
        (options.compileBlocks spec depth).result.map fun (blocks, dropped) =>
          (blocks.map (Block.mapCallables change), dropped)) ∧
    (∀ first second : Spec ν, first.bodiless = second.bodiless →
      (∀ depth : UInt64,
        (options.fragment first depth).result = (options.fragment second depth).result) ∧
      (options.program first).result.map (fun program => (program.text, program.dropped)) =
        (options.program second).result.map fun program => (program.text, program.dropped)) ∧
    (∀ (spec : Spec ν) (blocks : List (Block ν)),
      (options.compileBlocks spec 0).outcome = .ok blocks →
      ∀ (τ : Type) (framework : Framework τ ν) (state : τ),
        options.registerCalls framework spec state = spec.calls ∧
        (options.register framework spec state).2 = spec.calls.foldl framework.answer state) := by
  refine ⟨?_, ?_, ?_⟩
  · intro change keeps spec depth
    exact options.compileBlocks_mapCallables keeps spec depth
  · intro first second same
    exact ⟨options.fragment_of_bodiless same, options.program_of_bodiless same⟩
  · intro spec blocks compiled τ framework state
    have told : options.registerCalls framework spec state = spec.calls := by
      rw [options.registerCalls_of_ok framework state compiled, Framework.calls_of_ok compiled]
    refine ⟨told, ?_⟩
    rw [options.register_state_eq, told]

/-- A hook with another source and a body is placed as before, and comes to a framework with its
body. -/
theorem compilation_carries_callables_widget :
    KeepsRoles (ν := Value) (fun callable => ⟨"g", callable.tag, some (pure ())⟩) ∧
    (({} : Options).compileBlocks (ν := Value)
        (.mk [("Widget", .sequence [.hook ⟨"g", .after, some (pure ())⟩])]) 0).result =
      .ok ([.mk .suite "Widget" (.items [.after ⟨"g", .after, some (pure ())⟩])], []) ∧
    ({} : Options).registerCalls (ν := Value) Framework.listing
        (.mk [("Widget", .sequence [.hook ⟨"g", .after, some (pure ())⟩])]) [] =
      [.describe "Widget", .afterEach ⟨"g", .after, some (pure ())⟩, .endDescribe "Widget"] := by
  have keeps : KeepsRoles (ν := Value) (fun callable => ⟨"g", callable.tag, some (pure ())⟩) :=
    fun _ => rfl
  obtain ⟨replaced, -, told⟩ := compilation_carries_callables (ν := Value) {}
  refine ⟨keeps, ?_, ?_⟩
  · exact replaced _ keeps (.mk [("Widget", .sequence [.hook (.after "f")])]) 0
  · exact (told _ _ rfl _ Framework.listing []).1

end SuiteOutline
