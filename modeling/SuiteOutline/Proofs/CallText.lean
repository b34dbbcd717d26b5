import SuiteOutline.Script
import SuiteOutline.Proofs.Restraint

/-!
# Texts of calls

The text of blocks and the calls of their registration come from two passes over the same blocks.
The passes agree: each call has a text of its own, and the text of the blocks is the texts of their
calls, one after the other.  A pass that appends to one shared output writes the same text.
-/

namespace SuiteOutline

variable {ν : Type}

/-! ## What a call's text depends on -/

/-- The callable without role and body: only its source. -/
def Callable.bare (callable : Callable ν) : Callable ν :=
  ⟨callable.source, .unmarked, none⟩

def Call.bare : Call ν → Call ν
  | .describe name => .describe name
  | .endDescribe name => .endDescribe name
  | .describeWith name body => .describeWith name body.bare
  | .it name body => .it name body.bare
  | .loadModules names => .loadModules names
  | .inject names => .inject names
  | .beforeEach hook => .beforeEach hook.bare
  | .afterEach hook => .afterEach hook.bare

namespace Script

variable (dialect : Dialect)

def call : Call ν → String
  | .describe name => openSuite dialect name
  | .endDescribe _ => closeSuite
  | .describeWith name body => registerCallable dialect .suite name body
  | .it name body => registerCallable dialect .case name body
  | .loadModules names => Script.loadModules dialect names
  | .inject names => injectAll dialect names
  | .beforeEach hook => beforeHook dialect hook
  | .afterEach hook => afterHook dialect hook

def calls (made : List (Call ν)) : String :=
  String.join (made.map (call dialect))

theorem calls_nil : calls (ν := ν) dialect [] = "" := rfl

theorem calls_cons (first : Call ν) (rest : List (Call ν)) :
    calls dialect (first :: rest) = call dialect first ++ calls dialect rest := by
  rw [calls, List.map_cons, String.join_cons, calls]

theorem calls_append (first second : List (Call ν)) :
    calls dialect (first ++ second) = calls dialect first ++ calls dialect second := by
  rw [calls, List.map_append, String.join_append, calls, calls]

theorem calls_singleton (made : Call ν) : calls dialect [made] = call dialect made := by
  rw [calls_cons, calls_nil, String.append_empty]

theorem call_bare (made : Call ν) : call dialect made.bare = call dialect made := by
  cases made <;> rfl

/-! ## One text for each call -/

mutual

theorem block_eq_calls : ∀ block : Block ν, Script.block dialect block = calls dialect block.calls
  | .mk .suite label (.callable callable) => by
      rw [Block.calls, calls_singleton]
      rfl
  | .mk .case label (.callable callable) => by
      rw [Block.calls, calls_singleton]
      rfl
  | .mk .suite label (.items items) => by
      rw [Block.calls, calls_cons, calls_append, calls_singleton, ← itemTexts_eq_calls items,
        Script.block, String.append_assoc]
      rfl
  | .mk .case label (.items items) => by
      rw [Block.calls, calls_cons, calls_append, calls_singleton, ← itemTexts_eq_calls items,
        Script.block, String.append_assoc]
      rfl

theorem itemTexts_eq_calls :
    ∀ items : List (Item ν), itemTexts dialect items = calls dialect (itemCalls items)
  | [] => by
      rw [itemTexts, itemCalls, calls_nil]
  | item :: rest => by
      rw [itemTexts, itemCalls, calls_append, item_eq_calls item, itemTexts_eq_calls rest]

theorem item_eq_calls : ∀ item : Item ν, Script.item dialect item = calls dialect item.calls
  | .modules names => (calls_singleton dialect (.loadModules names)).symm
  | .inject names => (calls_singleton dialect (.inject names)).symm
  | .before hook => (calls_singleton dialect (.beforeEach hook)).symm
  | .after hook => (calls_singleton dialect (.afterEach hook)).symm
  | .nested block => by
      rw [Script.item, Item.calls, block_eq_calls block]

end

theorem blocks_eq_calls (blocks : List (Block ν)) :
    Script.blocks dialect blocks = calls dialect (Framework.calls blocks) := by
  rw [Framework.calls_eq_flatMap]
  induction blocks with
  | nil => rfl
  | cons block rest ih =>
      rw [List.flatMap_cons, calls_append, ← ih, ← block_eq_calls, Script.blocks, Script.blocks,
        List.map_cons, String.join_cons]

theorem blocks_append (first second : List (Block ν)) :
    Script.blocks dialect (first ++ second) =
      Script.blocks dialect first ++ Script.blocks dialect second := by
  rw [Script.blocks, List.map_append, String.join_append, Script.blocks, Script.blocks]

/-- The text of a suite around a nested block: what comes before and behind it does not depend on
the block. -/
theorem block_nested (kind : LabelKind) (label : String) (front back : List (Item ν))
    (nested : Block ν) :
    Script.block dialect (.mk kind label (.items (front ++ .nested nested :: back))) =
      calls dialect (.describe label :: itemCalls front) ++ Script.block dialect nested ++
        calls dialect (itemCalls back ++ [.endDescribe label]) := by
  have inner : itemTexts dialect (front ++ .nested nested :: back) =
      itemTexts dialect front ++ Script.block dialect nested ++ itemTexts dialect back := by
    induction front with
    | nil => simp [itemTexts, item]
    | cons item rest ih => simp [itemTexts, ih, String.append_assoc]
  rw [calls_cons, calls_append, calls_singleton, ← itemTexts_eq_calls, ← itemTexts_eq_calls,
    Script.block, inner]
  simp only [call, String.append_assoc]

/-! ## Writing to one output -/

/-- The framework that only writes: each call appends its text to the output. -/
def writer : Framework String ν where
  describe name output := output ++ openSuite dialect name
  endDescribe _ output := output ++ closeSuite
  describeWith name body output := output ++ registerCallable dialect .suite name body
  it name body output := output ++ registerCallable dialect .case name body
  loadModules names output := output ++ Script.loadModules dialect names
  inject names output := output ++ injectAll dialect names
  beforeEach hook output := output ++ beforeHook dialect hook
  afterEach hook output := output ++ afterHook dialect hook

theorem foldl_writer_answer (made : List (Call ν)) (output : String) :
    made.foldl (writer dialect).answer output = output ++ calls dialect made := by
  induction made generalizing output with
  | nil => rw [List.foldl_nil, calls_nil, String.append_empty]
  | cons first rest ih =>
      have step : (writer dialect).answer output first = output ++ call dialect first := by
        cases first <;> rfl
      rw [List.foldl_cons, step, ih, calls_cons, String.append_assoc]

/-- Writing blocks to an output appends their text, whatever the output held before. -/
theorem register_writer (blocks : List (Block ν)) (output : String) :
    (writer dialect).register blocks output = output ++ Script.blocks dialect blocks := by
  rw [Framework.register_eq_foldl_calls, foldl_writer_answer, ← blocks_eq_calls]

end Script

/-- Writing blocks and registering them with a framework agree.  The text of the blocks is the
texts of the calls that the framework receives, in order and one for each call; a call's text
depends on its name, its list or the source of its callable and on nothing else; and a pass that
appends to one output writes the same text behind whatever the output held.  So the text of a list
of blocks is the texts of its blocks one after the other, and a nested block contributes to the
text of its suite exactly the text that it has alone. -/
theorem blocks_written_call_by_call {τ : Type} (dialect : Dialect) (blocks : List (Block ν))
    (framework : Framework τ ν) (state : τ) :
    (∃ received : List (Call ν),
      framework.watched.register blocks (state, []) =
        (framework.register blocks state, received) ∧
      Script.blocks dialect blocks = String.join (received.map (Script.call dialect))) ∧
    (∀ call : Call ν, Script.call dialect call = Script.call dialect call.bare) ∧
    (∀ output : String,
      (Script.writer dialect).register blocks output = output ++ Script.blocks dialect blocks) ∧
    Script.blocks dialect blocks = String.join (blocks.map (Script.block dialect)) ∧
    (∀ more : List (Block ν),
      Script.blocks dialect (blocks ++ more) =
        Script.blocks dialect blocks ++ Script.blocks dialect more) ∧
    ∀ (kind : LabelKind) (label : String) (front back : List (Item ν)), ∃ before behind : String,
      ∀ nested : Block ν,
        Script.block dialect (.mk kind label (.items (front ++ .nested nested :: back))) =
          before ++ Script.block dialect nested ++ behind := by
  refine ⟨?_, ?_, ?_, rfl, ?_, ?_⟩
  · refine ⟨Framework.calls blocks, ?_, Script.blocks_eq_calls dialect blocks⟩
    rw [Framework.register_watched, List.nil_append]
  · intro call
    exact (Script.call_bare dialect call).symm
  · exact Script.register_writer dialect blocks
  · exact Script.blocks_append dialect blocks
  · intro kind label front back
    exact ⟨_, _, Script.block_nested dialect kind label front back⟩

end SuiteOutline
