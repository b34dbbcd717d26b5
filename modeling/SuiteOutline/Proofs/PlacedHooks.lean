import SuiteOutline.Proofs.Sorting

/-!
# Hooks placed one after another

Hooks are placed one at a time, and each finds the buckets as the hooks in front of it left them.
A hook with a role goes to the bucket of its role.  Of the unmarked hooks one may open either
bucket; all others are handed back.  Where every hook goes is thereby settled, and so are the
buckets at the end.
-/

namespace SuiteOutline

variable {ν : Type}

namespace Partition

/-- Places a hook in a partition, or hands it back behind the hooks handed back before. -/
def placeHook (placed : Partition ν × List (Callable ν)) (hook : Callable ν) :
    Partition ν × List (Callable ν) :=
  match placed.1.addHook? hook with
  | some extended => (extended, placed.2)
  | none => (placed.1, placed.2 ++ [hook])

def placeHooks (hooks : List (Callable ν)) : Partition ν × List (Callable ν) :=
  hooks.foldl placeHook (empty, [])

theorem placeHooks_concat (hooks : List (Callable ν)) (last : Callable ν) :
    placeHooks (hooks ++ [last]) = placeHook (placeHooks hooks) last := by
  rw [placeHooks, List.foldl_append]
  rfl

/-- The buckets and the hooks handed back are told by the tags alone. -/
theorem placeHooks_eq (hooks : List (Callable ν)) :
    placeHooks hooks =
      ({ empty with
          before := Hooks.inBucket .before hooks
          after := Hooks.inBucket .after hooks }, Hooks.homeless hooks) := by
  induction hooks using List.reverseRecOn with
  | nil => rfl
  | append_singleton hooks last ih =>
      rw [placeHooks_concat, ih, placeHook, addHook?_eq_map rfl rfl, Hooks.inBucket_concat,
        Hooks.inBucket_concat, Hooks.homeless_concat]
      cases Hooks.bucket? hooks last with
      | none => simp
      | some bucket => cases bucket <;> simp [addTo]

end Partition

theorem getElem?_withEarlier {α : Type} (earlier elements : List α) (index : Nat) :
    (withEarlier earlier elements)[index]? =
      elements[index]?.map fun element => (earlier ++ elements.take index, element) := by
  induction elements generalizing earlier index with
  | nil => rfl
  | cons first rest ih =>
      cases index with
      | zero => simp [withEarlier]
      | succ index => simp [withEarlier, ih]

namespace Hooks

/-- Where each hook goes: to a bucket, or back. -/
def goals (hooks : List (Callable ν)) : List (Option HookBucket) :=
  (withEarlier [] hooks).map fun (earlier, hook) => bucket? earlier hook

def sentTo (goal : Option HookBucket) (hooks : List (Callable ν))
    (goals : List (Option HookBucket)) :
    List (Callable ν) :=
  (hooks.zip goals).filterMap fun (hook, own) => if own = goal then some hook else none

theorem getElem?_goals (hooks : List (Callable ν)) (index : Nat) :
    (goals hooks)[index]? = hooks[index]?.map (bucket? (hooks.take index)) := by
  rw [goals, List.getElem?_map, getElem?_withEarlier, Option.map_map]
  rfl

theorem goals_concat (hooks : List (Callable ν)) (last : Callable ν) :
    goals (hooks ++ [last]) = goals hooks ++ [bucket? hooks last] := by
  rw [goals, withEarlier_concat, List.map_append]
  rfl

theorem length_goals (hooks : List (Callable ν)) : (goals hooks).length = hooks.length := by
  induction hooks using List.reverseRecOn with
  | nil => rfl
  | append_singleton hooks last ih =>
      rw [goals_concat, List.length_append, List.length_append, ih]
      rfl

theorem sentTo_concat (goal : Option HookBucket) (hooks : List (Callable ν)) (last : Callable ν) :
    sentTo goal (hooks ++ [last]) (goals (hooks ++ [last])) =
      sentTo goal hooks (goals hooks) ++ (if bucket? hooks last = goal then [last] else []) := by
  unfold sentTo
  rw [goals_concat, List.zip_append (length_goals hooks).symm, List.filterMap_append]
  by_cases found : bucket? hooks last = goal
  · simp [found]
  · simp [found]

theorem sentTo_bucket (bucket : HookBucket) (hooks : List (Callable ν)) :
    sentTo (some bucket) hooks (goals hooks) = inBucket bucket hooks := by
  induction hooks using List.reverseRecOn with
  | nil => rfl
  | append_singleton hooks last ih => rw [sentTo_concat, inBucket_concat, ih]

theorem sentTo_none (hooks : List (Callable ν)) :
    sentTo none hooks (goals hooks) = homeless hooks := by
  induction hooks using List.reverseRecOn with
  | nil => rfl
  | append_singleton hooks last ih => rw [sentTo_concat, homeless_concat, ih]

theorem bucket?_of_unmarked {hook : Callable ν} (unmarked : hook.tag = .unmarked)
    (earlier : List (Callable ν)) :
    (bucket? earlier hook = some .before ↔ inBucket .before earlier = []) ∧
      (bucket? earlier hook = some .after ↔
        inBucket .before earlier ≠ [] ∧ inBucket .after earlier = []) ∧
      (bucket? earlier hook = none ↔
        inBucket .before earlier ≠ [] ∧ inBucket .after earlier ≠ []) := by
  rw [← not_ne_iff (a := inBucket .before earlier), ← not_ne_iff (a := inBucket .after earlier),
    inBucket_before_ne_nil_iff, inBucket_after_ne_nil_iff]
  cases before : fillBefore earlier <;> cases after : fillAfter earlier <;>
    simp [bucket?, unmarked, before, after]

/-- An unmarked hook opens the bucket to which it goes. -/
theorem inBucket_eq_nil_of_unmarked {hook : Callable ν} (unmarked : hook.tag = .unmarked)
    {earlier : List (Callable ν)} {bucket : HookBucket}
    (goes : bucket? earlier hook = some bucket) :
    inBucket bucket earlier = [] := by
  obtain ⟨before, after, -⟩ := bucket?_of_unmarked unmarked earlier
  cases bucket with
  | before => exact before.mp goes
  | after => exact (after.mp goes).2

theorem tag_ne_unmarked_of_mem_tail {bucket : HookBucket} {hooks : List (Callable ν)} :
    ∀ hook ∈ (inBucket bucket hooks).tail, hook.tag ≠ .unmarked := by
  induction hooks using List.reverseRecOn with
  | nil =>
      intro hook member
      cases member
  | append_singleton hooks last ih =>
      intro hook member unmarked
      rw [inBucket_concat] at member
      split at member
      · rename_i goes
        by_cases empty : inBucket bucket hooks = []
        · rw [empty] at member
          cases member
        · rw [List.tail_append_of_ne_nil empty, List.mem_append, List.mem_singleton] at member
          rcases member with sooner | rfl
          · exact ih hook sooner unmarked
          · exact empty (inBucket_eq_nil_of_unmarked unmarked goes)
      · rw [List.append_nil] at member
        exact ih hook member unmarked

theorem countP_unmarked_le_one (bucket : HookBucket) (hooks : List (Callable ν)) :
    (inBucket bucket hooks).countP (fun hook => hook.tag = .unmarked) ≤ 1 := by
  have others : ∀ hook ∈ (inBucket bucket hooks).tail, hook.tag ≠ .unmarked :=
    tag_ne_unmarked_of_mem_tail
  cases contents : inBucket bucket hooks with
  | nil => exact Nat.zero_le 1
  | cons first rest =>
      rw [contents, List.tail_cons] at others
      have noneBehind : rest.countP (fun hook => hook.tag = .unmarked) = 0 := by
        simpa [List.countP_eq_zero] using others
      rw [List.countP_cons, noneBehind]
      split <;> omega

end Hooks

/-- Hooks placed one after another in an empty partition each have one goal, and the buckets and
the hooks handed back are the hooks with that goal in the order in which they came.  The goal of a
hook with a role is the bucket of the role.  That of an unmarked hook is the bucket before if that
is empty when the hook comes, the bucket after if only that is empty, and the way back if neither
is.  A bucket has at most one unmarked hook, and all behind its first hook have the role of the
bucket. -/
theorem hooks_placed_by_role_and_order (hooks : List (Callable ν)) :
    ∃ (before after returned : List (Callable ν)) (goals : List (Option HookBucket)),
      Partition.placeHooks hooks =
        ({ Partition.empty with before := before, after := after }, returned) ∧
      goals.length = hooks.length ∧
      before = Hooks.sentTo (some .before) hooks goals ∧
      after = Hooks.sentTo (some .after) hooks goals ∧
      returned = Hooks.sentTo none hooks goals ∧
      (∀ index hook goal, hooks[index]? = some hook → goals[index]? = some goal →
        (hook.tag = .before → goal = some .before) ∧
        (hook.tag = .after → goal = some .after) ∧
        (hook.tag = .unmarked →
          (goal = some .before ↔
            (Partition.placeHooks (hooks.take index)).1.before = []) ∧
          (goal = some .after ↔
            (Partition.placeHooks (hooks.take index)).1.before ≠ [] ∧
              (Partition.placeHooks (hooks.take index)).1.after = []) ∧
          (goal = none ↔
            (Partition.placeHooks (hooks.take index)).1.before ≠ [] ∧
              (Partition.placeHooks (hooks.take index)).1.after ≠ []))) ∧
      (before.countP (fun hook => hook.tag = .unmarked) ≤ 1 ∧
        ∀ hook ∈ before.tail, hook.tag ≠ .unmarked) ∧
      (after.countP (fun hook => hook.tag = .unmarked) ≤ 1 ∧
        ∀ hook ∈ after.tail, hook.tag ≠ .unmarked) ∧
      before.Sublist hooks ∧ after.Sublist hooks ∧
      (before ++ after ++ returned).Perm hooks := by
  refine ⟨_, _, _, Hooks.goals hooks, Partition.placeHooks_eq hooks, Hooks.length_goals hooks,
    (Hooks.sentTo_bucket .before hooks).symm, (Hooks.sentTo_bucket .after hooks).symm,
    (Hooks.sentTo_none hooks).symm, ?_, ?_, ?_, Hooks.inBucket_sublist .before hooks,
    Hooks.inBucket_sublist .after hooks, Hooks.inBucket_append_homeless_perm hooks⟩
  · intro index hook goal isHook isGoal
    rw [Hooks.getElem?_goals, isHook, Option.map_some, Option.some.injEq] at isGoal
    subst isGoal
    refine ⟨?_, ?_, ?_⟩
    · intro tagged
      rw [Hooks.bucket?, tagged]
    · intro tagged
      rw [Hooks.bucket?, tagged]
    · intro unmarked
      rw [Partition.placeHooks_eq]
      exact Hooks.bucket?_of_unmarked unmarked (hooks.take index)
  · exact ⟨Hooks.countP_unmarked_le_one .before hooks, Hooks.tag_ne_unmarked_of_mem_tail⟩
  · exact ⟨Hooks.countP_unmarked_le_one .after hooks, Hooks.tag_ne_unmarked_of_mem_tail⟩

example : Partition.placeHooks (ν := Value) [.after "a", .ofSource "f", .ofSource "g"] =
    ({ Partition.empty with before := [.ofSource "f"], after := [.after "a"] },
      [.ofSource "g"]) := by
  rfl

end SuiteOutline
