import Mathlib.Logic.Function.Basic
import SuiteOutline.Context
import SuiteOutline.Proofs.TableHistory

/-!
# Contexts and their copies

A context may be cloned, and the clone goes its own way.  To save a context is to clone it to a
place of its own, and to restore it is to clone it back from there.  So the bindings behind a copy
may have been made in several places; they alone decide what it answers.
-/

namespace SuiteOutline

/-- One step in the life of contexts that stand in numbered places. -/
inductive ContextStep (α : Type) where
  | bind (copy : Nat) (name : String) (value : α)
  | bindShared (copy : Nat) (name : String) (value : α)
  | clone (source target : Nat)

namespace ContextStep

variable {α : Type}

/-- The place whose context a step replaces. -/
def target : ContextStep α → Nat
  | .bind copy _ _ => copy
  | .bindShared copy _ _ => copy
  | .clone _ target => target

def apply (copies : Nat → Context α) : ContextStep α → Nat → Context α
  | .bind copy name value => Function.update copies copy ((copies copy).bind name value)
  | .bindShared copy name value =>
      Function.update copies copy ((copies copy).bindShared name value)
  | .clone source target => Function.update copies target (copies source)

theorem apply_of_ne {step : ContextStep α} {copy : Nat} (other : step.target ≠ copy)
    (copies : Nat → Context α) : step.apply copies copy = copies copy := by
  cases step <;> exact Function.update_of_ne (Ne.symm other) _ _

/-- The bindings behind a copy, given the steps with the latest first: a clone has behind it what
was behind its source. -/
def bindingsBehind : List (ContextStep α) → Nat → List (String × α)
  | [], _ => []
  | .bind copy name value :: earlier, sought
  | .bindShared copy name value :: earlier, sought =>
      if copy = sought then bindingsBehind earlier sought ++ [(name, value)]
      else bindingsBehind earlier sought
  | .clone source target :: earlier, sought =>
      bindingsBehind earlier (if target = sought then source else sought)

end ContextStep

namespace Context

variable {α τ : Type}

/-- The contexts in all places after the steps, of contexts that bound nothing before. -/
def copies (steps : List (ContextStep α)) : Nat → Context α :=
  steps.foldl ContextStep.apply fun _ => empty

/-- The bindings that have led to a copy, in their order. -/
def history (steps : List (ContextStep α)) (copy : Nat) : List (String × α) :=
  ContextStep.bindingsBehind steps.reverse copy

theorem copies_concat (steps : List (ContextStep α)) (last : ContextStep α) :
    copies (steps ++ [last]) = last.apply (copies steps) := by
  rw [copies, List.foldl_append]
  rfl

theorem history_concat (steps : List (ContextStep α)) (last : ContextStep α) :
    history (steps ++ [last]) = ContextStep.bindingsBehind (last :: steps.reverse) := by
  funext copy
  rw [history, List.reverse_append]
  rfl

/-! ## A copy is the table of its history -/

theorem rows_bind {context : Context α} {bindings : List (String × α)}
    (table : context.rows = Rows.ofList bindings) (name : String) (value : α) :
    (context.bind name value).rows = Rows.ofList (bindings ++ [(name, value)]) := by
  rw [Rows.ofList_concat, ← table]
  rfl

theorem rows_copies (steps : List (ContextStep α)) (copy : Nat) :
    (copies steps copy).rows = Rows.ofList (history steps copy) := by
  induction steps using List.reverseRecOn generalizing copy with
  | nil => rfl
  | append_singleton steps last ih =>
      rw [copies_concat, history_concat]
      cases last with
      | bind changed name value | bindShared changed name value =>
          rw [ContextStep.apply, ContextStep.bindingsBehind]
          by_cases same : changed = copy
          · rw [same, Function.update_self, if_pos rfl]
            exact rows_bind (ih copy) name value
          · rw [Function.update_of_ne (Ne.symm same), if_neg same]
            exact ih copy
      | clone source target =>
          rw [ContextStep.apply, ContextStep.bindingsBehind]
          by_cases same : target = copy
          · rw [same, Function.update_self, if_pos rfl]
            exact ih source
          · rw [Function.update_of_ne (Ne.symm same), if_neg same]
            exact ih copy

theorem copies_append_of_ne {more : List (ContextStep α)} {copy : Nat}
    (others : ∀ step ∈ more, step.target ≠ copy) (steps : List (ContextStep α)) :
    copies (steps ++ more) copy = copies steps copy := by
  induction more using List.reverseRecOn with
  | nil => rw [List.append_nil]
  | append_singleton more last ih =>
      rw [← List.append_assoc, copies_concat,
        ContextStep.apply_of_ne (others last (List.mem_append_right _ List.mem_cons_self))]
      exact ih fun step isIn => others step (List.mem_append_left _ isIn)

/-! ## The three ways to ask -/

theorem contains_eq_false_iff {context : Context α} {name : String} :
    context.contains name = false ↔ Rows.find? name context.rows = none := by
  rw [contains, Rows.contains, Option.isSome_eq_false_iff, Option.isNone_iff_eq_none]

variable [Typed α τ] [DecidableEq τ] {context : Context α} {name : String} {type : τ}

theorem get?_eq_some_iff {value : α} :
    context.get? name type = some value ↔
      Rows.find? name context.rows = some value ∧ Typed.type value = type := by
  rw [get?]
  cases Rows.find? name context.rows with
  | none => simp
  | some present =>
      by_cases right : Typed.type present = type
      · simp only [if_pos right, Option.some.injEq]
        exact ⟨fun same => ⟨same, same ▸ right⟩, And.left⟩
      · simp only [if_neg right, reduceCtorEq, false_iff, Option.some.injEq]
        rintro ⟨rfl, isRight⟩
        exact right isRight

theorem require_eq_ok_iff {value : α} :
    context.require name type = .ok value ↔ context.get? name type = some value := by
  rw [require, get?]
  cases Rows.find? name context.rows with
  | none => simp
  | some present => by_cases right : Typed.type present = type <;> simp [right]

theorem require_eq_error_iff {failure : CaseFailure} :
    context.require name type = .error failure ↔
      context.contains name = false ∧ failure = .unbound name ∨
        (context.contains name = true ∧ context.get? name type = none) ∧
          failure = .wrongType name (Typed.typeName α type) := by
  rw [← Bool.not_eq_false, contains_eq_false_iff, require, get?]
  cases Rows.find? name context.rows with
  | none => simp [eq_comm]
  | some present => by_cases right : Typed.type present = type <;> simp [right, eq_comm]

theorem get?_copies_eq_some_iff {steps : List (ContextStep α)} {copy : Nat} {value : α} :
    (copies steps copy).get? name type = some value ↔
      Rows.LastBinds (history steps copy) name value ∧ Typed.type value = type := by
  rw [get?_eq_some_iff, rows_copies, Rows.find?_ofList_eq_some_iff]

theorem get?_bind_of_ne {value : α} (other : type ≠ Typed.type value) :
    (context.bind name value).get? name type = none := by
  rw [get?, bind, Rows.find?_insert, if_pos rfl]
  exact if_neg (Ne.symm other)

theorem contains_bind (value : α) : (context.bind name value).contains name = true := by
  rw [contains, Rows.contains, bind, Rows.find?_insert, if_pos rfl]
  rfl

end Context

open Context in
/-- After any steps with values of any types, the bindings that have led to a copy decide what it
answers: its names are those bound, by their first bindings, and a name is read at the type, and
only at the type, of its last binding. The two ways to read a value differ only in that one of them
says why there is none. Steps on other copies change nothing, and a clone starts as its source. -/
theorem copies_answer_from_their_histories {α τ : Type} [Typed α τ] [DecidableEq τ]
    (steps : List (ContextStep α)) (copy : Nat) :
    (copies steps copy).names.Nodup ∧
    (copies steps copy).names = (Rows.keys (history steps copy)).eraseDups ∧
    (∀ (name : String) (type : τ),
      ((copies steps copy).contains name = true ↔ name ∈ Rows.keys (history steps copy)) ∧
      (∀ value, (copies steps copy).get? name type = some value ↔
        Rows.LastBinds (history steps copy) name value ∧ Typed.type value = type) ∧
      (∀ value, (copies steps copy).require name type = .ok value ↔
        (copies steps copy).get? name type = some value) ∧
      ((copies steps copy).require name type = .error (.unbound name) ↔
        (copies steps copy).contains name = false) ∧
      ((copies steps copy).require name type = .error (.wrongType name (Typed.typeName α type)) ↔
        (copies steps copy).contains name = true ∧ (copies steps copy).get? name type = none) ∧
      ∀ failure, (copies steps copy).require name type = .error failure →
        failure = .unbound name ∨ failure = .wrongType name (Typed.typeName α type)) ∧
    (∀ (name : String) (value : α) (type : τ), type ≠ Typed.type value →
      (copies (steps ++ [.bind copy name value]) copy).get? name type = none ∧
      (copies (steps ++ [.bind copy name value]) copy).require name type =
        .error (.wrongType name (Typed.typeName α type))) ∧
    (∀ (name : String) (value : α),
      copies (steps ++ [.bindShared copy name value]) = copies (steps ++ [.bind copy name value])) ∧
    (∀ target, copies (steps ++ [.clone copy target]) target = copies steps copy) ∧
    ∀ more : List (ContextStep α), (∀ step ∈ more, step.target ≠ copy) →
      copies (steps ++ more) copy = copies steps copy := by
  refine ⟨(copies steps copy).distinct, ?_, fun name type => ?_, ?_, ?_, ?_,
    fun more others => copies_append_of_ne others steps⟩
  · rw [names, rows_copies, Rows.keys_ofList]
  · refine ⟨?_, fun _ => get?_copies_eq_some_iff, fun _ => require_eq_ok_iff, ?_, ?_, ?_⟩
    · rw [contains, Rows.contains_iff, rows_copies, Rows.mem_keys_ofList]
    · rw [require_eq_error_iff]
      simp
    · rw [require_eq_error_iff]
      simp
    · intro failure failed
      exact (require_eq_error_iff.mp failed).imp And.right And.right
  · intro name value type other
    rw [copies_concat, ContextStep.apply, Function.update_self]
    have hidden : ((copies steps copy).bind name value).get? name type = none :=
      get?_bind_of_ne other
    exact ⟨hidden, require_eq_error_iff.mpr (.inr ⟨⟨contains_bind value, hidden⟩, rfl⟩)⟩
  · intro name value
    rw [copies_concat, copies_concat]
    rfl
  · intro target
    rw [copies_concat, ContextStep.apply, Function.update_self]

def ContextStep.savedWidget : List (ContextStep Value) :=
  [.bind 0 "svc" (.integer 1), .bindShared 0 "ready" (.boolean true), .clone 0 1]

open Context ContextStep in
/-- A name bound anew at another type, which the saved copy keeps. -/
theorem copies_answer_from_their_histories_widget :
    (copies (savedWidget ++ [.bind 0 "svc" (.text "one")]) 0).require "svc" ValueType.integer =
      .error (.wrongType "svc" "i64") ∧
    copies (savedWidget ++ [.bind 0 "svc" (.text "one")]) 1 = copies savedWidget 1 := by
  obtain ⟨-, -, -, rebound, -⟩ := copies_answer_from_their_histories savedWidget 0
  obtain ⟨-, -, -, -, -, -, kept⟩ := copies_answer_from_their_histories savedWidget 1
  exact ⟨(rebound "svc" (.text "one") .integer (by decide)).2,
    kept [.bind 0 "svc" (.text "one")] (by decide)⟩

end SuiteOutline
