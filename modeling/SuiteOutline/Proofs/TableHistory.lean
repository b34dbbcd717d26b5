import Mathlib.Data.Finset.Card
import Mathlib.Data.List.Induction
import SuiteOutline.Rows

/-!
# Tables and their histories

A table is what a sequence of bindings has left.  The place of a key is that of its first binding
and its value that of its last, so the two may come from different bindings.
-/

namespace SuiteOutline.Rows

variable {α : Type}

/-- A key is bound to a value, and not bound again behind it. -/
def LastBinds (bindings : List (String × α)) (key : String) (value : α) : Prop :=
  ∃ earlier later, bindings = earlier ++ (key, value) :: later ∧ key ∉ keys later

theorem keys_append (rows more : List (String × α)) :
    keys (rows ++ more) = keys rows ++ keys more :=
  List.map_append

/-! ## One binding -/

theorem find?_eq_none_iff {key : String} {rows : List (String × α)} :
    find? key rows = none ↔ key ∉ keys rows := by
  induction rows with
  | nil => simp [find?, keys]
  | cons row rest ih =>
      obtain ⟨present, value⟩ := row
      rw [find?, keys, List.map_cons, List.mem_cons, not_or, ← keys, ← ih]
      by_cases same : present = key
      · simp [same]
      · simp [same, Ne.symm same]

theorem contains_iff {key : String} {rows : List (String × α)} :
    contains key rows = true ↔ key ∈ keys rows := by
  rw [contains, ← not_iff_not, ← find?_eq_none_iff, Bool.not_eq_true, Option.isSome_eq_false_iff,
    Option.isNone_iff_eq_none]

theorem keys_insert (key : String) (value : α) (rows : List (String × α)) :
    keys (insert key value rows) = if key ∈ keys rows then keys rows else keys rows ++ [key] := by
  induction rows with
  | nil => simp [insert, keys]
  | cons row rest ih =>
      obtain ⟨present, old⟩ := row
      rw [insert]
      by_cases same : present = key
      · simp [same, keys]
      · have known : key ∈ keys ((present, old) :: rest) ↔ key ∈ keys rest :=
          List.mem_cons.trans (or_iff_right (Ne.symm same))
        simp only [if_neg same, known]
        rw [keys, List.map_cons, ← keys, ih]
        split <;> rfl

theorem find?_insert (other key : String) (value : α) (rows : List (String × α)) :
    find? other (insert key value rows) = if other = key then some value else find? other rows := by
  induction rows with
  | nil => simp [insert, find?, eq_comm]
  | cons row rest ih =>
      obtain ⟨present, old⟩ := row
      rw [insert]
      by_cases same : present = key
      · subst same
        rw [if_pos rfl, find?, find?]
        by_cases sought : present = other
        · simp [sought]
        · simp [sought, Ne.symm sought]
      · rw [if_neg same, find?, find?, ih]
        by_cases sought : present = other
        · subst sought
          simp [same]
        · simp [sought]

/-! ## Sequences of bindings -/

theorem ofList_concat (bindings : List (String × α)) (key : String) (value : α) :
    ofList (bindings ++ [(key, value)]) = insert key value (ofList bindings) := by
  rw [ofList, List.foldl_append]
  rfl

theorem nodup_keys_ofList (bindings : List (String × α)) : (keys (ofList bindings)).Nodup := by
  induction bindings using List.reverseRecOn with
  | nil => exact List.nodup_nil
  | append_singleton bindings last ih =>
      rw [ofList_concat]
      exact nodup_keys_insert ih

theorem keys_ofList (bindings : List (String × α)) :
    keys (ofList bindings) = (keys bindings).eraseDups := by
  induction bindings using List.reverseRecOn with
  | nil => rfl
  | append_singleton bindings last ih =>
      obtain ⟨key, value⟩ := last
      have single : keys [(key, value)] = [key] := rfl
      rw [ofList_concat, keys_insert, ih, keys_append, single, List.eraseDups_append]
      by_cases present : key ∈ keys bindings
      · simp [List.removeAll, present]
      · simp [List.removeAll, present, List.eraseDups_cons]

theorem mem_keys_ofList {bindings : List (String × α)} {key : String} :
    key ∈ keys (ofList bindings) ↔ key ∈ keys bindings := by
  rw [keys_ofList, List.mem_eraseDups]

theorem lastBinds_concat_iff {bindings : List (String × α)} {key other : String} {value last : α} :
    LastBinds (bindings ++ [(other, last)]) key value ↔
      if key = other then last = value else LastBinds bindings key value := by
  constructor
  · rintro ⟨earlier, later, split, unbound⟩
    induction later using List.reverseRecOn with
    | nil =>
        obtain ⟨-, isLast⟩ := List.append_inj' split rfl
        simp only [List.cons.injEq, Prod.mk.injEq, and_true] at isLast
        rw [if_pos isLast.1.symm, isLast.2]
    | append_singleton later end_ _ =>
        rw [← List.cons_append, ← List.append_assoc] at split
        obtain ⟨isFront, isLast⟩ := List.append_inj' split rfl
        cases isLast
        rw [keys_append, List.mem_append, not_or] at unbound
        have differs : key ≠ other := by simpa [keys] using unbound.2
        rw [if_neg differs]
        exact ⟨earlier, later, isFront, unbound.1⟩
  · intro given
    split at given
    · rename_i same
      subst same given
      exact ⟨bindings, [], rfl, by simp [keys]⟩
    · rename_i differs
      obtain ⟨earlier, later, rfl, unbound⟩ := given
      refine ⟨earlier, later ++ [(other, last)], by simp, ?_⟩
      rw [keys_append, List.mem_append, not_or]
      exact ⟨unbound, by simpa [keys] using differs⟩

theorem find?_ofList_eq_some_iff {bindings : List (String × α)} {key : String} {value : α} :
    find? key (ofList bindings) = some value ↔ LastBinds bindings key value := by
  induction bindings using List.reverseRecOn with
  | nil => simp [ofList, find?, LastBinds]
  | append_singleton bindings last ih =>
      obtain ⟨other, bound⟩ := last
      rw [ofList_concat, find?_insert, lastBinds_concat_iff]
      split
      · rw [Option.some.injEq]
      · exact ih

theorem find?_ofList_eq_none_iff {bindings : List (String × α)} {key : String} :
    find? key (ofList bindings) = none ↔ key ∉ keys bindings := by
  rw [find?_eq_none_iff, mem_keys_ofList]

theorem length_ofList (bindings : List (String × α)) :
    (ofList bindings).length = (keys bindings).toFinset.card := by
  have same : (keys (ofList bindings)).toFinset = (keys bindings).toFinset := by
    ext key
    rw [List.mem_toFinset, List.mem_toFinset, mem_keys_ofList]
  rw [← same, List.toFinset_card_of_nodup (nodup_keys_ofList bindings), keys, List.length_map]

theorem find?_of_mem {key : String} {value : α} {rows : List (String × α)}
    (distinct : (keys rows).Nodup) (isIn : (key, value) ∈ rows) : find? key rows = some value := by
  induction rows with
  | nil => cases isIn
  | cons row rest ih =>
      obtain ⟨present, first⟩ := row
      rw [keys, List.map_cons, List.nodup_cons, ← keys] at distinct
      rw [find?]
      rcases List.mem_cons.mp isIn with isFirst | isLater
      · cases isFirst
        rw [if_pos rfl]
      · have differs : present ≠ key := by
          rintro rfl
          exact distinct.1 (List.mem_map.mpr ⟨_, isLater, rfl⟩)
        rw [if_neg differs]
        exact ih distinct.2 isLater

end SuiteOutline.Rows
