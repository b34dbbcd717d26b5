import SuiteOutline.Proofs.Registration

/-!
# Nesting of calls

The calls that registering blocks makes open and close suites like brackets.  Each call that opens a
suite has one that closes it, under the same name and behind everything in the suite.
-/

namespace SuiteOutline

variable {ν : Type}

def Call.isInside : Call ν → Bool
  | .describe _ => false
  | .endDescribe _ => false
  | _ => true

/-- Calls that open and close suites like brackets: each suite is closed under its name, after the
suites that were opened inside it. -/
inductive WellNested : List (Call ν) → Prop where
  | nil : WellNested []
  | inside {call : Call ν} {rest : List (Call ν)} (inside : call.isInside = true)
      (behind : WellNested rest) : WellNested (call :: rest)
  | suite {name : String} {within rest : List (Call ν)} (nested : WellNested within)
      (behind : WellNested rest) :
      WellNested (.describe name :: (within ++ .endDescribe name :: rest))

namespace WellNested

theorem append {first second : List (Call ν)} (before : WellNested first)
    (behind : WellNested second) : WellNested (first ++ second) := by
  induction before with
  | nil => exact behind
  | inside inside _ ih => exact .inside inside ih
  | suite nested _ _ ih =>
      rw [List.cons_append, List.append_assoc, List.cons_append]
      exact .suite nested ih

/-- How many suites calls open more than they close. -/
def depth : List (Call ν) → Int
  | [] => 0
  | .describe _ :: rest => depth rest + 1
  | .endDescribe _ :: rest => depth rest - 1
  | _ :: rest => depth rest

theorem depth_append (first second : List (Call ν)) :
    depth (first ++ second) = depth first + depth second := by
  induction first with
  | nil => simp [depth]
  | cons call rest ih => cases call <;> simp only [List.cons_append, depth, ih] <;> omega

theorem depth_cons_inside {call : Call ν} (inside : call.isInside = true) (rest : List (Call ν)) :
    depth (call :: rest) = depth rest := by
  cases call with
  | describe name => cases inside
  | endDescribe name => cases inside
  | _ => rfl

theorem depth_eq_zero {calls : List (Call ν)} (nested : WellNested calls) : depth calls = 0 := by
  induction nested with
  | nil => rfl
  | inside inside _ ih => rw [depth_cons_inside inside, ih]
  | suite _ _ within behind => simp only [depth, depth_append, within, behind]; omega

theorem depth_nonneg {calls : List (Call ν)} (nested : WellNested calls) :
    ∀ front back, calls = front ++ back → 0 ≤ depth front := by
  induction nested with
  | nil =>
      intro front back split
      rw [(List.append_eq_nil_iff.mp split.symm).1]
      exact Int.le_refl 0
  | inside inside _ ih =>
      intro front back split
      cases front with
      | nil => exact Int.le_refl 0
      | cons call front =>
          obtain ⟨rfl, rest_eq⟩ := List.cons.inj split
          rw [depth_cons_inside inside]
          exact ih front back rest_eq
  | @suite name within rest nested _ inWithin inRest =>
      intro front back split
      cases front with
      | nil => exact Int.le_refl 0
      | cons call front =>
          obtain ⟨rfl, rest_eq⟩ := List.cons.inj split
          simp only [depth]
          rcases List.append_eq_append_iff.mp rest_eq with ⟨more, rfl, closed⟩ | ⟨more, split, -⟩
          · cases more with
            | nil =>
                rw [List.append_nil]
                have balanced := nested.depth_eq_zero
                omega
            | cons call more =>
                obtain ⟨rfl, rfl⟩ := List.cons.inj closed
                have balanced := nested.depth_eq_zero
                have further := inRest more back rfl
                simp only [depth_append, depth]
                omega
          · have further := inWithin front more split
            omega

/-- A well nested stretch up to the end of the suite around it is determined. -/
theorem eq_of_append_eq {first second back rest : List (Call ν)} {name other : String}
    (before : WellNested first) (beforeToo : WellNested second)
    (same : first ++ .endDescribe name :: back = second ++ .endDescribe other :: rest) :
    first = second := by
  have shorter {first second back rest more : List (Call ν)} {name other : String}
      (before : WellNested first) (beforeToo : WellNested second)
      (longer : second = first ++ more)
      (behind : .endDescribe name :: back = more ++ .endDescribe other :: rest) :
      more = [] := by
    cases more with
    | nil => rfl
    | cons call more =>
        obtain ⟨rfl, -⟩ := List.cons.inj behind
        have front : second = (first ++ [.endDescribe name]) ++ more := by simp [longer]
        have open_ := beforeToo.depth_nonneg _ _ front
        rw [depth_append, before.depth_eq_zero] at open_
        simp [depth] at open_
  rcases List.append_eq_append_iff.mp same with ⟨more, longer, behind⟩ | ⟨more, longer, behind⟩
  · have noMore := shorter before beforeToo longer behind
    rw [longer, noMore, List.append_nil]
  · have noMore := shorter beforeToo before longer behind
    rw [longer, noMore, List.append_nil]

/-- Every suite that is opened is closed under its name, behind a well nested stretch. -/
theorem exists_close {calls : List (Call ν)} (nested : WellNested calls) :
    ∀ front name rest, calls = front ++ .describe name :: rest →
      ∃ within back, rest = within ++ .endDescribe name :: back ∧ WellNested within := by
  induction nested with
  | nil =>
      intro front name rest split
      exact absurd split.symm (by simp)
  | inside inside _ ih =>
      intro front name rest split
      cases front with
      | nil =>
          obtain ⟨rfl, -⟩ := List.cons.inj split
          cases inside
      | cons call front =>
          obtain ⟨-, rest_eq⟩ := List.cons.inj split
          exact ih front name rest rest_eq
  | @suite opened within behind nested _ inWithin inBehind =>
      intro front name rest split
      cases front with
      | nil =>
          obtain ⟨same, rfl⟩ := List.cons.inj split
          cases same
          exact ⟨within, behind, rfl, nested⟩
      | cons call front =>
          obtain ⟨-, rest_eq⟩ := List.cons.inj split
          rcases List.append_eq_append_iff.mp rest_eq with ⟨more, -, closed⟩ | ⟨more, opens, closed⟩
          · cases more with
            | nil => cases closed
            | cons call more => exact inBehind more name rest (List.cons.inj closed).2
          · cases more with
            | nil => cases closed
            | cons call more =>
                obtain ⟨rfl, rest_eq⟩ := List.cons.inj closed
                obtain ⟨inner, back, rfl, innerNested⟩ := inWithin front name more opens
                exact ⟨inner, back ++ .endDescribe opened :: behind,
                  rest_eq.trans (List.append_assoc _ _ _), innerNested⟩

end WellNested

mutual

theorem Block.calls_wellNested : ∀ block : Block ν, WellNested block.calls
  | .mk .suite label (.callable callable) => by
      rw [Block.calls]
      exact .inside rfl .nil
  | .mk .case label (.callable callable) => by
      rw [Block.calls]
      exact .inside rfl .nil
  | .mk .suite label (.items items) => by
      rw [Block.calls]
      exact .suite (itemCalls_wellNested items) .nil
  | .mk .case label (.items items) => by
      rw [Block.calls]
      exact .suite (itemCalls_wellNested items) .nil

theorem itemCalls_wellNested : ∀ items : List (Item ν), WellNested (itemCalls items)
  | [] => by
      rw [itemCalls]
      exact .nil
  | item :: rest => by
      rw [itemCalls]
      exact (Item.calls_wellNested item).append (itemCalls_wellNested rest)

theorem Item.calls_wellNested : ∀ item : Item ν, WellNested item.calls
  | .modules names => .inside rfl .nil
  | .inject names => .inside rfl .nil
  | .before hook => .inside rfl .nil
  | .after hook => .inside rfl .nil
  | .nested block => by
      rw [Item.calls]
      exact Block.calls_wellNested block

end

theorem Framework.calls_wellNested (blocks : List (Block ν)) : WellNested (calls blocks) := by
  rw [calls_eq_flatMap, ← itemCalls_map_nested]
  exact itemCalls_wellNested _

/-- A suite that is opened in well nested calls is closed by one call, which names it. -/
theorem WellNested.exists_only_close {calls : List (Call ν)} (nested : WellNested calls)
    {front rest : List (Call ν)} {name : String}
    (opened : calls = front ++ .describe name :: rest) :
    ∃ within back, rest = within ++ .endDescribe name :: back ∧ WellNested within ∧
      ∀ stretch other further, rest = stretch ++ .endDescribe other :: further →
        WellNested stretch → stretch = within ∧ other = name ∧ further = back := by
  obtain ⟨within, back, rest_eq, inner⟩ := nested.exists_close front name rest opened
  refine ⟨within, back, rest_eq, inner, ?_⟩
  intro stretch other further split stretchNested
  have closed := split.symm.trans rest_eq
  obtain rfl := eq_of_append_eq stretchNested inner closed
  obtain ⟨same, rfl⟩ := List.cons.inj (List.append_cancel_left closed)
  cases same
  exact ⟨rfl, rfl, rfl⟩

end SuiteOutline
