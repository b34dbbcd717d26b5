import SuiteOutline.Proofs.NestingLimit
import SuiteOutline.Proofs.SuiteNotes

/-!
# The log of a compilation

What a compilation with debugging on tells its sink: the notes of the suites that it completes, and
a last message exactly if the whole spec compiles.  The texts in the log are what the suites
contribute to one another and to the text of the spec.
-/

namespace SuiteOutline

variable {ν : Type}

/-! ## What the texts are made of -/

namespace Script

variable (dialect : Dialect)

def rows (rows : List (String × Binding ν)) : String :=
  String.join (rows.map fun (label, binding) => Script.block dialect (binding.block label))

theorem blocks_rowBlocks (rows : List (String × Binding ν)) :
    Script.blocks dialect (rowBlocks rows) = Script.rows dialect rows := by
  rw [rowBlocks_eq_map, Script.blocks, List.map_map]
  rfl

theorem itemTexts_map_nested (nested : List (Block ν)) :
    itemTexts dialect (nested.map .nested) = Script.blocks dialect nested := by
  induction nested with
  | nil => rfl
  | cons block rest ih =>
      rw [List.map_cons, itemTexts, ih, item, Script.blocks, Script.blocks, List.map_cons,
        String.join_cons]

theorem itemTexts_append_nested (items : List (Item ν)) (nested : List (Block ν)) :
    itemTexts dialect (items ++ nested.map .nested) =
      itemTexts dialect items ++ Script.blocks dialect nested := by
  induction items with
  | nil => rw [List.nil_append, itemTexts_map_nested, itemTexts, String.empty_append]
  | cons item rest ih => rw [List.cons_append, itemTexts, ih, itemTexts, String.append_assoc]

end Script

theorem SuitePlace.text_eq (place : SuitePlace ν) (dialect : Dialect) :
    Script.block dialect place.block =
      Script.openSuite dialect place.label ++
        Script.itemTexts dialect (Partition.sorted "" [] place.entries).items ++
        Script.rows dialect (Entries.rows place.entries) ++ Script.closeSuite := by
  have items := Partition.items_sorted_append "" [] (entryBlocks place.entries) place.entries
  rw [List.nil_append] at items
  rw [block, Binding.block, Block.ofItems, Script.block, items, Script.itemTexts_append_nested,
    entryBlocks_eq_rowBlocks, Script.blocks_rowBlocks]
  simp only [String.append_assoc]

/-! ## Suites in the text of a spec -/

theorem Spec.HasSuite.positions_subset {spec : Spec ν} {labels : List String}
    {entries : List (Entry ν)} (has : spec.HasSuite labels entries) (path : List String) :
    (Binding.sequence entries).positions (path ++ labels) ⊆ spec.positions path := by
  induction has generalizing path with
  | @own spec label entries bound =>
      intro position isIn
      rw [positions_eq_flatMap, List.mem_flatMap]
      exact ⟨_, bound, List.mem_cons_of_mem _ isIn⟩
  | @nested spec inner label entries found labels bound inside has ih =>
      rw [List.append_cons]
      exact List.Subset.trans (ih (path ++ [label])) (positions_subset_of_nested bound inside path)

section Compiled

variable {options : Options} {spec : Spec ν} {place : SuitePlace ν}
  (innocent : ∀ position ∈ spec.positions [], position.fault? options = none)
  (isIn : place ∈ spec.suites)

include innocent isIn

end Compiled

/-! ## Messages -/

namespace Options

variable {options : Options} {σ unit scope : Type}

end Options

namespace SuitePlace

def messages (dialect : Dialect) (start : UInt64) (place : SuitePlace ν) : List String :=
  (Entries.dropped (pathText place.labels) place.entries).map
      (fun entry => "dropped " ++ entry.text)
    ++ ["suite '" ++ pathText place.labels ++ "' (depth "
        ++ toString (place.depth start).toNat ++ ")" ++ Note.bucketLines dialect place.partition,
      "fragment for '" ++ pathText place.labels ++ "':\n  " ++ Script.block dialect place.block]

end SuitePlace

/-- What a sink is told of the suites of a spec that is compiled from a depth. -/
def Spec.log (options : Options) (start : UInt64) (spec : Spec ν) : List String :=
  (spec.suites.filter (SuitePlace.completes options start)).flatMap
    (SuitePlace.messages options.dialect start)

end SuiteOutline
