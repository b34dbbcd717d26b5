import Mathlib.Data.List.Induction
import SuiteOutline.Partition

/-!
# Where hooks are placed

A suite's hooks are placed one after another, and where an unmarked hook goes depends on the
buckets that the hooks before it have filled.  Which buckets those are can be read off the tags of
the earlier hooks alone: a hook that is not for afterwards always leaves a hook in the bucket
before, and an unmarked hook behind the first hook always leaves one in the bucket after.
-/

namespace SuiteOutline

variable {ν : Type}

/-- Each element of a list with the elements in front of it; some lie in front of all. -/
def withEarlier {α : Type} (earlier : List α) : List α → List (List α × α)
  | [] => []
  | element :: rest => (earlier, element) :: withEarlier (earlier ++ [element]) rest

theorem withEarlier_append {α : Type} (earlier first second : List α) :
    withEarlier earlier (first ++ second) =
      withEarlier earlier first ++ withEarlier (earlier ++ first) second := by
  induction first generalizing earlier with
  | nil => simp [withEarlier]
  | cons element rest ih => simp [withEarlier, ih]

theorem withEarlier_concat {α : Type} (elements : List α) (last : α) :
    withEarlier [] (elements ++ [last]) = withEarlier [] elements ++ [(elements, last)] := by
  simp [withEarlier_append, withEarlier]

/-- An element is paired with everything in front of it, those in front of all included. -/
theorem mem_withEarlier_iff {α : Type} {earlier elements front : List α} {element : α} :
    (front, element) ∈ withEarlier earlier elements ↔
      ∃ passed later, front = earlier ++ passed ∧ elements = passed ++ element :: later := by
  induction elements generalizing earlier with
  | nil => simp [withEarlier]
  | cons first rest ih =>
      rw [withEarlier, List.mem_cons, ih, Prod.mk.injEq]
      constructor
      · rintro (⟨rfl, rfl⟩ | ⟨passed, later, rfl, rfl⟩)
        · exact ⟨[], rest, by simp, rfl⟩
        · exact ⟨first :: passed, later, by simp, rfl⟩
      · rintro ⟨passed, later, rfl, split⟩
        cases passed with
        | nil =>
            obtain ⟨rfl, rfl⟩ := List.cons.inj split
            exact .inl ⟨List.append_nil earlier, rfl⟩
        | cons head passed =>
            obtain ⟨rfl, rfl⟩ := List.cons.inj split
            exact .inr ⟨passed, later, by simp, rfl⟩

theorem pairwise_withEarlier {α : Type} (earlier elements : List α) :
    (withEarlier earlier elements).Pairwise fun first second =>
      first.1.length < second.1.length := by
  induction elements generalizing earlier with
  | nil => exact List.Pairwise.nil
  | cons element rest ih =>
      refine List.Pairwise.cons ?_ (ih (earlier ++ [element]))
      rintro ⟨front, other⟩ behind
      obtain ⟨passed, -, rfl, -⟩ := mem_withEarlier_iff.mp behind
      simp only [List.length_append, List.length_singleton]
      omega

inductive HookBucket where
  | before
  | after
  deriving DecidableEq

namespace Hooks

/-- Whether earlier hooks leave one in the bucket before. -/
def fillBefore (earlier : List (Callable ν)) : Bool :=
  earlier.any fun hook => !hook.isAfter

/-- Whether earlier hooks leave one in the bucket after. -/
def fillAfter (earlier : List (Callable ν)) : Bool :=
  earlier.any Callable.isAfter || earlier.tail.any fun hook => hook.tag == .unmarked

/-- The bucket of a hook behind earlier ones, if there is one for it. -/
def bucket? (earlier : List (Callable ν)) (hook : Callable ν) : Option HookBucket :=
  match hook.tag with
  | .before => some .before
  | .after => some .after
  | .unmarked =>
      if fillBefore earlier then if fillAfter earlier then none else some .after
      else some .before

def inBucket (bucket : HookBucket) (hooks : List (Callable ν)) : List (Callable ν) :=
  (withEarlier [] hooks).filterMap fun (earlier, hook) =>
    if bucket? earlier hook = some bucket then some hook else none

@[simp]
theorem inBucket_concat (bucket : HookBucket) (hooks : List (Callable ν)) (last : Callable ν) :
    inBucket bucket (hooks ++ [last]) =
      inBucket bucket hooks ++ (if bucket? hooks last = some bucket then [last] else []) := by
  unfold inBucket
  rw [withEarlier_concat, List.filterMap_append]
  by_cases placed : bucket? hooks last = some bucket
  · simp [placed]
  · simp [placed]

theorem inBucket_sublist (bucket : HookBucket) (hooks : List (Callable ν)) :
    (inBucket bucket hooks).Sublist hooks := by
  induction hooks using List.reverseRecOn with
  | nil => exact List.Sublist.refl []
  | append_singleton hooks last ih =>
      rw [inBucket_concat]
      apply ih.append
      split
      · exact List.Sublist.refl [last]
      · exact List.nil_sublist [last]

theorem inBucket_concat_isEmpty (bucket : HookBucket) (hooks : List (Callable ν))
    (last : Callable ν) :
    (inBucket bucket (hooks ++ [last])).isEmpty =
      ((inBucket bucket hooks).isEmpty && bucket? hooks last != some bucket) := by
  rw [inBucket_concat]
  by_cases placed : bucket? hooks last = some bucket
  · simp [placed]
  · simp [placed]

theorem fillBefore_concat (hooks : List (Callable ν)) (last : Callable ν) :
    fillBefore (hooks ++ [last]) = (fillBefore hooks || !last.isAfter) := by
  simp [fillBefore]

/-- Without a hook behind the first one, only a tag fills the bucket after. -/
theorem fillAfter_concat (hooks : List (Callable ν)) (last : Callable ν) :
    fillAfter (hooks ++ [last]) =
      (fillAfter hooks || last.isAfter || (!hooks.isEmpty && last.tag == .unmarked)) := by
  cases hooks with
  | nil => simp [fillAfter]
  | cons first rest =>
      simp only [fillAfter, List.cons_append, List.any_cons, List.any_append, List.tail_cons,
        List.any_nil, List.isEmpty_cons]
      grind

/-- If no hook is in the bucket after, the first hook is in the bucket before. -/
theorem fillBefore_of_not_fillAfter {hooks : List (Callable ν)} (nonempty : hooks ≠ [])
    (open_ : fillAfter hooks = false) : fillBefore hooks = true := by
  cases hooks with
  | nil => exact absurd rfl nonempty
  | cons first rest =>
      simp only [fillAfter, List.any_cons, Bool.or_eq_false_iff] at open_
      simp [fillBefore, open_.1.1]

theorem inBucket_before_isEmpty (hooks : List (Callable ν)) :
    (inBucket .before hooks).isEmpty = !fillBefore hooks := by
  induction hooks using List.reverseRecOn with
  | nil => rfl
  | append_singleton hooks last ih =>
      rw [inBucket_concat_isEmpty, ih, fillBefore_concat]
      cases tagged : last.tag <;> cases filled : fillBefore hooks <;>
        simp [bucket?, tagged, filled, Callable.isAfter]

theorem inBucket_after_isEmpty (hooks : List (Callable ν)) :
    (inBucket .after hooks).isEmpty = !fillAfter hooks := by
  induction hooks using List.reverseRecOn with
  | nil => rfl
  | append_singleton hooks last ih =>
      rw [inBucket_concat_isEmpty, ih, fillAfter_concat]
      cases filled : fillAfter hooks with
      | true => rfl
      | false =>
          cases tagged : last.tag with
          | before =>
              simp only [bucket?, tagged, Callable.isAfter]
              cases hooks <;> rfl
          | after => simp [bucket?, tagged, Callable.isAfter]
          | unmarked =>
              cases hooks with
              | nil =>
                  simp [bucket?, tagged, fillBefore, Callable.isAfter]
                  rfl
              | cons first rest =>
                  have before := fillBefore_of_not_fillAfter (List.cons_ne_nil first rest) filled
                  simp [bucket?, tagged, before, filled, Callable.isAfter]

theorem inBucket_before_ne_nil_iff (hooks : List (Callable ν)) :
    inBucket .before hooks ≠ [] ↔ fillBefore hooks = true := by
  rw [ne_eq, ← List.isEmpty_iff, inBucket_before_isEmpty]
  simp

theorem inBucket_after_ne_nil_iff (hooks : List (Callable ν)) :
    inBucket .after hooks ≠ [] ↔ fillAfter hooks = true := by
  rw [ne_eq, ← List.isEmpty_iff, inBucket_after_isEmpty]
  simp

/-- A hook finds no bucket exactly if it is unmarked and hooks of both buckets are in front. -/
theorem bucket?_eq_none_iff (earlier : List (Callable ν)) (hook : Callable ν) :
    bucket? earlier hook = none ↔
      hook.tag = .unmarked ∧ inBucket .before earlier ≠ [] ∧ inBucket .after earlier ≠ [] := by
  rw [inBucket_before_ne_nil_iff, inBucket_after_ne_nil_iff]
  cases tagged : hook.tag <;> cases before : fillBefore earlier <;>
    cases after : fillAfter earlier <;> simp [bucket?, tagged, before, after]

theorem bucket?_eq_ite (earlier : List (Callable ν)) (hook : Callable ν) :
    bucket? earlier hook =
      if hook.isBefore || (!fillBefore earlier && !hook.isAfter) then some .before
      else if hook.isAfter || (!fillAfter earlier && !hook.isBefore) then some .after
      else none := by
  cases tagged : hook.tag <;> cases before : fillBefore earlier <;>
    cases after : fillAfter earlier <;>
      simp [bucket?, tagged, before, after, Callable.isBefore, Callable.isAfter]

def homeless (hooks : List (Callable ν)) : List (Callable ν) :=
  (withEarlier [] hooks).filterMap fun (earlier, hook) =>
    if bucket? earlier hook = none then some hook else none

theorem homeless_concat (hooks : List (Callable ν)) (last : Callable ν) :
    homeless (hooks ++ [last]) =
      homeless hooks ++ (if bucket? hooks last = none then [last] else []) := by
  unfold homeless
  rw [withEarlier_concat, List.filterMap_append]
  by_cases found : bucket? hooks last = none
  · simp [found]
  · simp [found]

/-- Every hook is in exactly one of the two buckets or homeless. -/
theorem inBucket_append_homeless_perm (hooks : List (Callable ν)) :
    (inBucket .before hooks ++ inBucket .after hooks ++ homeless hooks).Perm hooks := by
  induction hooks using List.reverseRecOn with
  | nil => exact List.Perm.refl []
  | append_singleton hooks last ih =>
      rw [inBucket_concat, inBucket_concat, homeless_concat]
      have atFront : (last :: (inBucket .before hooks ++ inBucket .after hooks ++
          homeless hooks)).Perm (hooks ++ [last]) :=
        (ih.cons last).trans (List.perm_append_singleton last hooks).symm
      refine List.Perm.trans ?_ atFront
      cases bucket? hooks last with
      | none =>
          rw [if_neg (by simp), if_neg (by simp), if_pos rfl, List.append_nil, List.append_nil,
            ← List.append_assoc]
          exact List.perm_append_singleton last _
      | some bucket =>
          cases bucket with
          | before => simp
          | after =>
              rw [if_neg (by simp), if_pos rfl, if_neg (by simp), List.append_nil,
                List.append_nil, ← List.append_assoc, List.append_assoc _ [last]]
              exact List.perm_middle

end Hooks

end SuiteOutline
