import Mathlib.Tactic.ByContra
import SuiteOutline.SpecDocument

/-!
# The places of a document that are read

The value of a document is read as a spec at its root, at the keys of mappings, at what labels are
bound to and at the items of sequences bound to labels, in the order of the document.  What stands
under a tag, or in a sequence inside a sequence, is no such place.  A document is a spec if what
stands at every place that is read fits there, and the first place where it does not is the one
that is complained about.
-/

namespace SuiteOutline

open Document (Data)

def callableTags : List String :=
  ["fn", "before", "after"]

/-- A place that is read, and what stands there. -/
inductive ReadPlace where
  | root (data : Data)
  | key (data : Data)
  /-- What a label is bound to, or an item of a sequence that is bound to a label. -/
  | value (data : Data)

/-! ## Places in document order -/

mutual

def boundPlaces : Data → List ReadPlace
  | .sequence items => .value (.sequence items) :: itemPlaces items
  | .mapping members => .value (.mapping members) :: memberPlaces members
  | other => [.value other]

def memberPlaces : List (Data × Data) → List ReadPlace
  | [] => []
  | (key, value) :: rest => .key key :: (boundPlaces value ++ memberPlaces rest)

def itemPlaces : List Data → List ReadPlace
  | [] => []
  | item :: rest => itemPlacesWithin item ++ itemPlaces rest

/-- The place of an item and the places within.  A sequence among the items is not entered. -/
def itemPlacesWithin : Data → List ReadPlace
  | .mapping members => .value (.mapping members) :: memberPlaces members
  | other => [.value other]

end

/-- The places of a document that are read, in document order. -/
def readPlaces : Data → List ReadPlace
  | .mapping members => .root (.mapping members) :: memberPlaces members
  | other => [.root other]

/-! ## What fits at a place -/

namespace ReadPlace

/-- What stands at the place may stand there: at the root nothing or a mapping without a tag, at a
key a text without a tag, and elsewhere anything, if only a tag for callables stands before a
text. -/
def Fits : ReadPlace → Prop
  | .root data => data = .null ∨ ∃ members, data = .mapping members
  | .key data => ∃ label, data = .text label
  | .value data => ∀ tag content, data = .tagged tag content → tagName tag ∈ callableTags →
      ∃ source, content = .text source

inductive Violates : ReadPlace → SpecMisfit → Prop where
  | root {data : Data} (notNull : data ≠ .null) (notMapping : ∀ members, data ≠ .mapping members) :
      Violates (.root data) (.notAMapping (kindOf data))
  | key {data : Data} (notText : ∀ label, data ≠ .text label) :
      Violates (.key data) (.label (kindOf data))
  | source {tag : String} {content : Data} (marks : tagName tag ∈ callableTags)
      (notText : ∀ source, content ≠ .text source) :
      Violates (.value (.tagged tag content)) (.source (tagName tag) (kindOf content))

def misfit? : ReadPlace → Option SpecMisfit
  | .root .null => none
  | .root (.mapping _) => none
  | .root other => some (.notAMapping (kindOf other))
  | .key (.text _) => none
  | .key other => some (.label (kindOf other))
  | .value (.tagged _ (.text _)) => none
  | .value (.tagged tag content) =>
      if tagName tag ∈ callableTags then some (.source (tagName tag) (kindOf content)) else none
  | .value _ => none

theorem misfit?_eq_some_iff (place : ReadPlace) (misfit : SpecMisfit) :
    place.misfit? = some misfit ↔ place.Violates misfit := by
  constructor
  · intro found
    unfold misfit? at found
    split at found
    · cases found
    · cases found
    · rename_i data notNull notMapping
      cases found
      exact .root notNull notMapping
    · cases found
    · rename_i data notText
      cases found
      exact .key notText
    · cases found
    · rename_i tag content notText
      split at found
      · rename_i marks
        cases found
        exact .source marks notText
      · cases found
    · cases found
  · intro violates
    cases violates with
    | root notNull notMapping => rw [misfit?] <;> assumption
    | key notText => rw [misfit?]; assumption
    | source marks notText =>
        rw [misfit?]
        · exact if_pos marks
        · exact notText

theorem fits_iff (place : ReadPlace) : place.Fits ↔ ∀ misfit, ¬ place.Violates misfit := by
  constructor
  · intro fits misfit violates
    cases violates with
    | root notNull notMapping =>
        rcases fits with isNull | ⟨members, isMapping⟩
        · exact notNull isNull
        · exact notMapping members isMapping
    | key notText =>
        obtain ⟨label, isText⟩ := fits
        exact notText label isText
    | source marks notText =>
        obtain ⟨source, isText⟩ := fits _ _ rfl marks
        exact notText source isText
  · intro innocent
    cases place with
    | root data =>
        by_contra unfit
        obtain ⟨notNull, notMapping⟩ := not_or.mp unfit
        exact innocent _ (.root notNull (not_exists.mp notMapping))
    | key data =>
        by_contra unfit
        exact innocent _ (.key (not_exists.mp unfit))
    | value data =>
        rintro tag content rfl marks
        by_contra unfit
        exact innocent _ (.source marks (not_exists.mp unfit))

theorem misfit?_eq_none_iff (place : ReadPlace) : place.misfit? = none ↔ place.Fits := by
  rw [fits_iff, Option.eq_none_iff_forall_ne_some]
  simp only [ne_eq, misfit?_eq_some_iff]

end ReadPlace

/-! ## The first misfit -/

def misfitOf? {α : Type} : Except SpecMisfit α → Option SpecMisfit
  | .ok _ => none
  | .error misfit => some misfit

section Results

variable {α β γ : Type}

theorem misfitOf?_map (result : Except SpecMisfit α) (function : α → β) :
    misfitOf? (result.map function) = misfitOf? result := by
  cases result <;> rfl

theorem misfitOf?_bind (first : Except SpecMisfit α) (second : Except SpecMisfit β)
    (combine : α → β → γ) :
    misfitOf? (do let value ← first; let other ← second; .ok (combine value other)) =
      (misfitOf? first).or (misfitOf? second) := by
  cases first with
  | error misfit => rfl
  | ok value => cases second <;> rfl

end Results

theorem callableTag?_eq_none_iff (name : String) :
    callableTag? name = none ↔ name ∉ callableTags := by
  rw [callableTag?, callableTags]
  simp only [beq_iff_eq, List.mem_cons, List.not_mem_nil, or_false, not_or]
  split
  · simp [*]
  · split
    · simp [*]
    · split <;> simp [*]

theorem misfitOf?_taggedCallable? (tag : String) (content : Data) :
    misfitOf? (taggedCallable? (ν := ν) tag content) =
      (ReadPlace.value (.tagged tag content)).misfit? := by
  rw [taggedCallable?]
  cases marked : callableTag? (tagName tag) with
  | none =>
      have foreign := (callableTag?_eq_none_iff _).mp marked
      cases content with
      | text source => rfl
      | _ => exact (if_neg foreign).symm
  | some role =>
      have marks : tagName tag ∈ callableTags := by
        by_contra foreign
        rw [(callableTag?_eq_none_iff _).mpr foreign] at marked
        cases marked
      cases content with
      | text source => rfl
      | _ => exact (if_pos marks).symm

theorem findSome?_singleton (place : ReadPlace) :
    [place].findSome? ReadPlace.misfit? = place.misfit? := by
  rw [List.findSome?_cons]
  cases place.misfit? <;> rfl

mutual

theorem misfitOf?_bindingOf : ∀ data : Data,
    misfitOf? (bindingOf (ν := ν) data) = (boundPlaces data).findSome? ReadPlace.misfit?
  | .text source => rfl
  | .sequence items => by
      rw [bindingOf, misfitOf?_map, misfitOf?_entriesOf items]
      rfl
  | .mapping members => by
      rw [bindingOf, misfitOf?_map, misfitOf?_rowsOf members]
      rfl
  | .tagged tag content => by
      rw [boundPlaces, findSome?_singleton, ← misfitOf?_taggedCallable?, bindingOf]
      · rcases taggedCallable? tag content with _ | _ | _ <;> rfl
      · nofun
      · nofun
  | .null => rfl
  | .boolean _ => rfl
  | .number _ => rfl

theorem misfitOf?_rowsOf : ∀ members : List (Data × Data),
    misfitOf? (rowsOf (ν := ν) members) = (memberPlaces members).findSome? ReadPlace.misfit?
  | [] => rfl
  | (key, value) :: rest => by
      rw [memberPlaces, List.findSome?_cons, List.findSome?_append, ← misfitOf?_bindingOf value,
        ← misfitOf?_rowsOf rest]
      cases key with
      | text label => rw [rowsOf, misfitOf?_bind]; rfl
      | _ => rfl

theorem misfitOf?_entriesOf : ∀ items : List Data,
    misfitOf? (entriesOf (ν := ν) items) = (itemPlaces items).findSome? ReadPlace.misfit?
  | [] => rfl
  | item :: rest => by
      rw [itemPlaces, List.findSome?_append, ← misfitOf?_entryOf item, ← misfitOf?_entriesOf rest,
        entriesOf, misfitOf?_bind]

theorem misfitOf?_entryOf : ∀ data : Data,
    misfitOf? (entryOf (ν := ν) data) = (itemPlacesWithin data).findSome? ReadPlace.misfit?
  | .text raw => rfl
  | .sequence items => rfl
  | .mapping members => by
      rw [entryOf, misfitOf?_map, misfitOf?_rowsOf members]
      rfl
  | .tagged tag content => by
      rw [itemPlacesWithin, findSome?_singleton, ← misfitOf?_taggedCallable?, entryOf]
      · rcases taggedCallable? tag content with _ | _ | _ <;> rfl
      · nofun
  | .null => rfl
  | .boolean _ => rfl
  | .number _ => rfl

end

namespace Spec

/-- What is wrong with a document is what is wrong at the first of its places where anything is. -/
theorem misfitOf?_ofData (data : Data) :
    misfitOf? (ofData (ν := ν) data) = (readPlaces data).findSome? ReadPlace.misfit? := by
  cases data with
  | mapping members =>
      rw [ofData, misfitOf?_map, misfitOf?_rowsOf]
      rfl
  | _ => rfl

theorem ofData_ok_iff (data : Data) :
    (∃ spec : Spec ν, ofData data = .ok spec) ↔ ∀ place ∈ readPlaces data, place.Fits := by
  have innocent : misfitOf? (ofData (ν := ν) data) = none ↔
      ∀ place ∈ readPlaces data, place.Fits := by
    rw [misfitOf?_ofData, List.findSome?_eq_none_iff]
    simp only [ReadPlace.misfit?_eq_none_iff]
  rw [← innocent]
  cases ofData (ν := ν) data <;> simp [misfitOf?]

theorem ofData_error_iff (data : Data) (misfit : SpecMisfit) :
    ofData (ν := ν) data = .error misfit ↔
      ∃ front place rest, readPlaces data = front ++ place :: rest ∧
        (∀ innocent ∈ front, innocent.Fits) ∧ place.Violates misfit := by
  have stops : ofData (ν := ν) data = .error misfit ↔
      misfitOf? (ofData (ν := ν) data) = some misfit := by
    cases ofData (ν := ν) data <;> simp [misfitOf?]
  rw [stops, misfitOf?_ofData, List.findSome?_eq_some_iff]
  constructor
  · rintro ⟨front, place, rest, split, found, innocent⟩
    refine ⟨front, place, rest, split, ?_, (ReadPlace.misfit?_eq_some_iff _ _).mp found⟩
    intro earlier isIn
    exact (ReadPlace.misfit?_eq_none_iff earlier).mp (innocent earlier isIn)
  · rintro ⟨front, place, rest, split, innocent, violates⟩
    refine ⟨front, place, rest, split, (ReadPlace.misfit?_eq_some_iff _ _).mpr violates, ?_⟩
    intro earlier isIn
    exact (ReadPlace.misfit?_eq_none_iff earlier).mpr (innocent earlier isIn)

end Spec

end SuiteOutline
