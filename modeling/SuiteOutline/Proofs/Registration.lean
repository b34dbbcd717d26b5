import SuiteOutline.Framework

/-!
# Registration as a list of calls

Registering blocks makes a fixed list of calls, whatever the framework does with them: a framework
learns of the blocks through these calls and in no other way.
-/

namespace SuiteOutline

variable {ν : Type}

mutual

/-- The calls that a block stands for. -/
def Block.calls : Block ν → List (Call ν)
  | .mk .suite label (.callable callable) => [.describeWith label callable]
  | .mk .case label (.callable callable) => [.it label callable]
  | .mk _ label (.items items) => .describe label :: (itemCalls items ++ [.endDescribe label])

def itemCalls : List (Item ν) → List (Call ν)
  | [] => []
  | item :: rest => item.calls ++ itemCalls rest

def Item.calls : Item ν → List (Call ν)
  | .modules names => [.loadModules names]
  | .inject names => [.inject names]
  | .before hook => [.beforeEach hook]
  | .after hook => [.afterEach hook]
  | .nested block => block.calls

end

theorem itemCalls_append (first second : List (Item ν)) :
    itemCalls (first ++ second) = itemCalls first ++ itemCalls second := by
  induction first with
  | nil => rw [List.nil_append, itemCalls, List.nil_append]
  | cons item rest ih => rw [List.cons_append, itemCalls, ih, itemCalls, List.append_assoc]

theorem itemCalls_map_nested (blocks : List (Block ν)) :
    itemCalls (blocks.map .nested) = blocks.flatMap Block.calls := by
  induction blocks with
  | nil => rw [List.map_nil, itemCalls, List.flatMap_nil]
  | cons block rest ih =>
      rw [List.map_cons, itemCalls, ih, Item.calls, List.flatMap_cons]

namespace Framework

variable {σ : Type} (framework : Framework σ ν)

def answer (state : σ) : Call ν → σ
  | .describe name => framework.describe name state
  | .endDescribe name => framework.endDescribe name state
  | .describeWith name body => framework.describeWith name body state
  | .it name body => framework.it name body state
  | .loadModules names => framework.loadModules names state
  | .inject names => framework.inject names state
  | .beforeEach hook => framework.beforeEach hook state
  | .afterEach hook => framework.afterEach hook state

mutual

theorem registerBlock_eq_foldl :
    ∀ (block : Block ν) (state : σ),
      framework.registerBlock block state = block.calls.foldl framework.answer state
  | .mk .suite label (.callable callable), state => rfl
  | .mk .case label (.callable callable), state => rfl
  | .mk .suite label (.items items), state => by
      rw [registerBlock, registerItems_eq_foldl, Block.calls, List.foldl_cons, List.foldl_append]
      rfl
  | .mk .case label (.items items), state => by
      rw [registerBlock, registerItems_eq_foldl, Block.calls, List.foldl_cons, List.foldl_append]
      rfl

theorem registerItems_eq_foldl :
    ∀ (items : List (Item ν)) (state : σ),
      framework.registerItems items state = (itemCalls items).foldl framework.answer state
  | [], state => by
      rw [registerItems, itemCalls, List.foldl_nil]
  | item :: rest, state => by
      rw [registerItems, itemCalls, List.foldl_append, ← registerItem_eq_foldl,
        registerItems_eq_foldl]

theorem registerItem_eq_foldl :
    ∀ (item : Item ν) (state : σ),
      framework.registerItem item state = item.calls.foldl framework.answer state
  | .modules names, state => rfl
  | .inject names, state => rfl
  | .before hook, state => rfl
  | .after hook, state => rfl
  | .nested block, state => by
      rw [registerItem, Item.calls]
      exact registerBlock_eq_foldl block state

end

/-- Registering blocks is making their calls in order. -/
theorem register_eq_foldl (blocks : List (Block ν)) (state : σ) :
    framework.register blocks state =
      (blocks.flatMap Block.calls).foldl framework.answer state := by
  induction blocks generalizing state with
  | nil => rfl
  | cons block rest ih =>
      rw [List.flatMap_cons, List.foldl_append, ← registerBlock_eq_foldl, ← ih]
      rfl

theorem calls_eq_flatMap (blocks : List (Block ν)) : calls blocks = blocks.flatMap Block.calls := by
  have listed (made calls : List (Call ν)) :
      made.foldl listing.answer calls = made.reverse ++ calls := by
    induction made generalizing calls with
    | nil => rfl
    | cons call rest ih =>
        rw [List.foldl_cons, ih, List.reverse_cons, List.append_assoc]
        cases call <;> rfl
  rw [calls, register_eq_foldl, listed, List.append_nil, List.reverse_reverse]

/-- Every framework learns of blocks through the listed calls alone. -/
theorem register_eq_foldl_calls (blocks : List (Block ν)) (state : σ) :
    framework.register blocks state = (calls blocks).foldl framework.answer state := by
  rw [calls_eq_flatMap, register_eq_foldl]

end Framework

end SuiteOutline
