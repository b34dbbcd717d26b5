/-!
# Ordered tables

A table is a list of rows, each a key and a value. Binding a key that is present replaces its
value and keeps its place; a new key goes to the end. The keys of a table built by binding are
therefore distinct and stand in the order in which they were first bound.
-/

namespace SuiteOutline.Rows

variable {α : Type}

def keys (rows : List (String × α)) : List String :=
  rows.map Prod.fst

/-- Binds a key in its old place, or at the end if it is new. -/
def insert (key : String) (value : α) : List (String × α) → List (String × α)
  | [] => [(key, value)]
  | (present, old) :: rest =>
      if present = key then (present, value) :: rest
      else (present, old) :: insert key value rest

def find? (key : String) : List (String × α) → Option α
  | [] => none
  | (present, value) :: rest => if present = key then some value else find? key rest

def contains (key : String) (rows : List (String × α)) : Bool :=
  (find? key rows).isSome

def ofList (bindings : List (String × α)) : List (String × α) :=
  bindings.foldl (fun rows (key, value) => insert key value rows) []

theorem mem_keys_insert {key other : String} {value : α} {rows : List (String × α)} :
    other ∈ keys (insert key value rows) ↔ other = key ∨ other ∈ keys rows := by
  induction rows with
  | nil => simp [insert, keys]
  | cons row rest ih =>
      obtain ⟨present, old⟩ := row
      simp only [insert]
      split
      · rename_i same
        subst same
        simp [keys]
      · simp only [keys, List.map_cons, List.mem_cons] at ih ⊢
        rw [ih]
        constructor
        · rintro (h | h | h)
          · exact .inr (.inl h)
          · exact .inl h
          · exact .inr (.inr h)
        · rintro (h | h | h)
          · exact .inr (.inl h)
          · exact .inl h
          · exact .inr (.inr h)

theorem nodup_keys_insert {key : String} {value : α} {rows : List (String × α)}
    (distinct : (keys rows).Nodup) : (keys (insert key value rows)).Nodup := by
  induction rows with
  | nil => simp [insert, keys]
  | cons row rest ih =>
      obtain ⟨present, old⟩ := row
      simp only [keys, List.map_cons, List.nodup_cons] at distinct
      simp only [insert]
      split
      · simpa [keys] using distinct
      · rename_i differs
        have inner : (keys (insert key value rest)).Nodup := ih distinct.2
        have outside : present ∉ keys (insert key value rest) := by
          rw [mem_keys_insert]
          rintro (h | h)
          · exact differs h
          · exact distinct.1 h
        simpa [keys] using And.intro outside inner

theorem insert_of_not_mem {key : String} {value : α} {rows : List (String × α)}
    (absent : key ∉ keys rows) : insert key value rows = rows ++ [(key, value)] := by
  induction rows with
  | nil => rfl
  | cons row rest ih =>
      obtain ⟨present, old⟩ := row
      simp only [keys, List.map_cons, List.mem_cons, not_or] at absent
      rw [insert, if_neg (Ne.symm absent.1), ih absent.2, List.cons_append]

/-- Binding keys that are distinct and new lists them behind the others. -/
theorem foldl_insert_of_nodup {rows more : List (String × α)}
    (distinct : (keys rows ++ keys more).Nodup) :
    more.foldl (fun rows (key, value) => insert key value rows) rows = rows ++ more := by
  induction more generalizing rows with
  | nil => simp
  | cons row rest ih =>
      obtain ⟨key, value⟩ := row
      have absent : key ∉ keys rows := by
        intro present
        exact (List.nodup_append.mp distinct).2.2 key present key List.mem_cons_self rfl
      have others : (keys (rows ++ [(key, value)]) ++ keys rest).Nodup := by
        simpa [keys] using distinct
      have first : insert key value rows = rows ++ [(key, value)] := insert_of_not_mem absent
      rw [List.foldl_cons]
      dsimp only
      rw [first, ih others, List.append_assoc, List.singleton_append]

theorem ofList_of_nodup {rows : List (String × α)} (distinct : (keys rows).Nodup) :
    ofList rows = rows := by
  have behind : (keys ([] : List (String × α)) ++ keys rows).Nodup := distinct
  rw [ofList, foldl_insert_of_nodup behind, List.nil_append]

end SuiteOutline.Rows
