import Mathlib.Data.List.Basic
import SuiteOutline.Document.Data

/-!
# The keys of a document

Whatever value a document has, no mapping anywhere in it holds two equal keys: neither at its root,
nor among its items and members, nor inside its keys.  The reader compares each key with the ones
before it, and what it gives is built from such mappings.
-/

namespace SuiteOutline.Document

mutual

/-- No mapping in the value holds two equal keys. -/
def Data.KeysDistinct : Data → Prop
  | .null => True
  | .boolean _ => True
  | .number _ => True
  | .text _ => True
  | .sequence items => itemsKeysDistinct items
  | .mapping members =>
      (members.map Prod.fst).Pairwise (fun first second => first.same second = false) ∧
        membersKeysDistinct members
  | .tagged _ content => content.KeysDistinct

def itemsKeysDistinct : List Data → Prop
  | [] => True
  | item :: rest => item.KeysDistinct ∧ itemsKeysDistinct rest

def membersKeysDistinct : List (Data × Data) → Prop
  | [] => True
  | (key, value) :: rest => key.KeysDistinct ∧ value.KeysDistinct ∧ membersKeysDistinct rest

end

theorem membersKeysDistinct_iff (members : List (Data × Data)) :
    membersKeysDistinct members ↔
      ∀ member ∈ members, member.1.KeysDistinct ∧ member.2.KeysDistinct := by
  induction members with
  | nil => simp [membersKeysDistinct]
  | cons member rest ih =>
      rw [membersKeysDistinct, ih, List.forall_mem_cons, and_assoc]

/-! ## What a reading gives -/

namespace Reading

variable {α β : Type}

/-- Whatever the reading gives has a property. -/
def Gives (reading : Reading α) (property : α → Prop) : Prop :=
  ∀ followed value after, reading followed = .ok (value, after) → property value

variable {property : α → Prop} {outcome : β → Prop}

theorem gives_pure {value : α} (has : property value) : Gives (pure value) property := by
  rintro _ _ _ ⟨⟩
  exact has

theorem gives_throw (fault : Fault) : Gives (throw fault) property := by
  intro _ _ _ given
  cases given

theorem gives_bind {first : Reading α} {next : α → Reading β} (gives : Gives first property)
    (rest : ∀ value, property value → Gives (next value) outcome) :
    Gives (first >>= next) outcome := by
  intro followed result after given
  change (first followed >>= fun step => next step.1 step.2) = _ at given
  cases step : first followed with
  | error fault =>
      rw [step] at given
      cases given
  | ok result =>
      rw [step] at given
      exact rest _ (gives _ _ _ step) _ _ _ given

theorem gives_located {reading : Reading α} (mark : Mark) (route : Route)
    (gives : Gives reading property) : Gives (located mark route reading) property := by
  intro followed value after given
  rw [located] at given
  cases step : reading followed with
  | error fault =>
      rw [step] at given
      cases given
  | ok result =>
      rw [step] at given
      cases given
      exact gives _ _ _ step

theorem gives_any (reading : Reading α) : Gives reading fun _ => True :=
  fun _ _ _ _ => trivial

end Reading

namespace Data

open Reading

/-- A reader of values whose mappings have distinct keys. -/
def Reader.Distinguishes (reader : Reader) : Prop :=
  ∀ route node, Gives (reader route node) KeysDistinct

theorem keysDistinct_wrapped {data : Data} (tag : Option Octets) (distinct : data.KeysDistinct) :
    (wrapped tag data).KeysDistinct := by
  unfold wrapped
  split
  · exact distinct
  · exact distinct

theorem keysDistinct_ofMeaning {meaning : Except String Meaning} {data : Data}
    (meant : meaning.bind ofMeaning = .ok data) : data.KeysDistinct := by
  cases meaning with
  | error message => cases meant
  | ok meaning =>
      cases meaning with
      | wide value => cases meant
      | _ =>
          cases meant
          trivial

theorem keysDistinct_concat {before : List (Data × Data)} {key value : Data}
    (distinct : (mapping before.reverse).KeysDistinct)
    (new : ∀ member ∈ before, ¬ member.1.same key = true) (keyDistinct : key.KeysDistinct)
    (valueDistinct : value.KeysDistinct) :
    (mapping (before.reverse ++ [(key, value)])).KeysDistinct := by
  obtain ⟨apart, inner⟩ := distinct
  rw [membersKeysDistinct_iff] at inner
  rw [KeysDistinct, membersKeysDistinct_iff, List.map_append, List.map_singleton,
    List.pairwise_append]
  refine ⟨⟨apart, List.pairwise_singleton _ _, ?_⟩, ?_⟩
  · intro earlier isEarlier last isLast
    obtain ⟨member, isIn, rfl⟩ := List.mem_map.mp isEarlier
    rw [List.mem_singleton.mp isLast]
    exact Bool.eq_false_iff.mpr (new member (List.mem_reverse.mp isIn))
  · intro member isIn
    rcases List.mem_append.mp isIn with isEarlier | isLast
    · exact inner member isEarlier
    · rw [List.mem_singleton.mp isLast]
      exact ⟨keyDistinct, valueDistinct⟩

section Collections

variable (content : Content) {reader : Reader} (distinguishes : reader.Distinguishes)

include distinguishes

theorem gives_readItems (route : Route) (index : Nat) (items : List Node) :
    Gives (readItems content reader route index items) itemsKeysDistinct := by
  induction items generalizing index with
  | nil => exact gives_pure trivial
  | cons item rest ih =>
      refine gives_bind (distinguishes _ item) ?_
      intro data distinct
      refine gives_bind (ih (index + 1)) ?_
      intro others distinctToo
      exact gives_pure ⟨distinct, distinctToo⟩

/-- The members read before, latest first, differ in their keys, and each new key from all of
them. -/
theorem gives_readMembers (route : Route) (before : List (Data × Data))
    (members : List (Node × Node)) (distinct : (mapping before.reverse).KeysDistinct) :
    Gives (readMembers reader route before members) fun members =>
      (mapping members).KeysDistinct := by
  induction members generalizing before with
  | nil => exact gives_pure distinct
  | cons member rest ih =>
      obtain ⟨key, value⟩ := member
      refine gives_bind (distinguishes route key) ?_
      intro keyData keyDistinct
      split
      · exact gives_throw _
      · rename_i new
        refine gives_bind (distinguishes _ value) ?_
        intro data valueDistinct
        refine ih _ ?_
        rw [List.reverse_cons]
        exact keysDistinct_concat distinct (List.find?_eq_none.mp new) keyDistinct valueDistinct

end Collections

theorem gives_readSolid (content : Content) {inner : Option Reader}
    (distinguishes : ∀ reader ∈ inner, reader.Distinguishes) (route : Route) (node : Node) :
    Gives (readSolid content inner route node) KeysDistinct := by
  match node with
  | .alias anchor mark => exact gives_throw _
  | .missing => exact gives_throw _
  | .absent => exact gives_pure trivial
  | .scalar tag written style mark =>
      refine gives_located mark route ?_
      dsimp only
      split
      · exact gives_throw _
      · rename_i data meant
        exact gives_pure (keysDistinct_wrapped tag (keysDistinct_ofMeaning meant))
  | .sequence tag mark items =>
      refine gives_located mark route ?_
      cases inner with
      | none => exact gives_throw _
      | some reader =>
          refine gives_bind (gives_readItems content (distinguishes reader rfl) route 0 items) ?_
          intro items distinct
          exact gives_pure (keysDistinct_wrapped tag distinct)
  | .mapping tag mark members =>
      refine gives_located mark route ?_
      cases inner with
      | none => exact gives_throw _
      | some reader =>
          have empty : (mapping ([] : List (Data × Data)).reverse).KeysDistinct :=
            ⟨.nil, trivial⟩
          refine gives_bind (gives_readMembers (distinguishes reader rfl) route [] members empty) ?_
          intro members distinct
          exact gives_pure (keysDistinct_wrapped tag distinct)

theorem distinguishes_readFollowing (content : Content) {inner : Option Reader}
    (distinguishes : ∀ reader ∈ inner, reader.Distinguishes) :
    (readFollowing content inner).Distinguishes := by
  intro route node
  unfold readFollowing
  split
  · rename_i anchor mark
    refine gives_located mark route (gives_bind (gives_any _) ?_)
    intro target _
    exact gives_readSolid content distinguishes _ target
  · exact gives_readSolid content distinguishes route node

theorem distinguishes_readWithin (content : Content) (levels : Nat) :
    (readWithin content levels).Distinguishes := by
  induction levels with
  | zero =>
      refine distinguishes_readFollowing content ?_
      rintro _ ⟨⟩
  | succ levels ih =>
      refine distinguishes_readFollowing content ?_
      rintro _ ⟨⟩
      exact ih

theorem keysDistinct_of_ofText {text : String} {data : Data} (read : ofText text = .ok data) :
    data.KeysDistinct := by
  rw [ofText, Content.readWhole] at read
  split at read
  · cases read
  · rename_i value after given
    have distinct := distinguishes_readWithin _ _ _ _ _ _ _ given
    split at read
    · cases read
    · split at read
      · cases read
      · cases read
        exact distinct

end Data

end SuiteOutline.Document
