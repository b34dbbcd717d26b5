import Mathlib.Data.List.TakeWhile
import SuiteOutline.Proofs.EqualSpecs
import SuiteOutline.Proofs.SpecLoading

/-!
# Writing a spec as a document

Which specs a document can describe.  A document has no live bodies, a callable without a role in
it has no source that states one, and a value without a use has one of the kinds that documents
have.  Every spec that keeps to this can be written: references as texts, nested specs as mappings,
and callables under the tag of their role.
-/

namespace SuiteOutline

variable {ν : Type}

open Document (Data)

/-! ## Parts of a spec -/

/-- A part of a spec for which a document may lack words. -/
inductive SpecPart (ν : Type := Value) where
  | callable (callable : Callable ν)
  | boundKind (kind : String)
  | entryKind (kind : String)

mutual

/-- The parts of a spec, at every depth. -/
def Spec.parts : Spec ν → List (SpecPart ν)
  | .mk rows => rowParts rows

def rowParts : List (String × Binding ν) → List (SpecPart ν)
  | [] => []
  | (_, binding) :: rest => binding.parts ++ rowParts rest

def Binding.parts : Binding ν → List (SpecPart ν)
  | .callable callable => [.callable callable]
  | .sequence entries => entryParts entries
  | .mapping spec => spec.parts
  | .other kind => [.boundKind kind]

def entryParts : List (Entry ν) → List (SpecPart ν)
  | [] => []
  | entry :: rest => entry.parts ++ entryParts rest

def Entry.parts : Entry ν → List (SpecPart ν)
  | .reference _ => []
  | .hook callable => [.callable callable]
  | .suite spec => spec.parts
  | .other kind => [.entryKind kind]

end

/-- The kinds of values without a use wherever they stand. -/
inductive UselessKind : String → Prop where
  | null : UselessKind "null"
  | boolean : UselessKind "boolean"
  | number : UselessKind "number"
  | tagged {name : String} (bare : name.toList.head? ≠ some '!') (foreign : name ∉ callableTags) :
      UselessKind ("!" ++ name ++ " value")

/-- A document has words for the part. -/
def SpecPart.Expressible : SpecPart ν → Prop
  | .callable held =>
      held.body = none ∧ (held.tag = .unmarked → HookTag.sniff held.source = .unmarked)
  | .boundKind kind => UselessKind kind
  | .entryKind kind => UselessKind kind ∨ kind = "sequence"

/-! ## Documents for specs -/

def HookTag.documentTag : HookTag → String
  | .before => "before"
  | .after => "after"
  | .unmarked => "fn"

def Callable.toData (callable : Callable ν) : Data :=
  .tagged ("!" ++ callable.tag.documentTag) (.text callable.source)

/-- A value of a kind without a use.  The kind of a tagged value holds its tag, mark and all. -/
def uselessData (kind : String) : Data :=
  if kind = "null" then .null
  else if kind = "boolean" then .boolean true
  else if kind = "number" then .number (.integer 0)
  else .tagged
    (String.ofList (kind.toList.take (kind.toList.length - " value".toList.length))) .null

mutual

def Spec.toData : Spec ν → Data
  | .mk rows => .mapping (rowsToData rows)

def rowsToData : List (String × Binding ν) → List (Data × Data)
  | [] => []
  | (label, binding) :: rest => (.text label, binding.toData) :: rowsToData rest

def Binding.toData : Binding ν → Data
  | .callable callable => callable.toData
  | .sequence entries => .sequence (entriesToData entries)
  | .mapping spec => spec.toData
  | .other kind => uselessData kind

def entriesToData : List (Entry ν) → List Data
  | [] => []
  | entry :: rest => entry.toData :: entriesToData rest

def Entry.toData : Entry ν → Data
  | .reference raw => .text raw
  | .hook callable => callable.toData
  | .suite spec => spec.toData
  | .other kind => if kind = "sequence" then .sequence [] else uselessData kind

end

/-! ## A document means the spec that it is for -/

theorem tagName_mark {name : String} (bare : name.toList.head? ≠ some '!') :
    tagName ("!" ++ name) = name := by
  have kept : name.toList.dropWhile (· == '!') = name.toList := by
    cases characters : name.toList with
    | nil => rfl
    | cons first rest =>
        rw [characters] at bare
        refine List.dropWhile_cons_of_neg ?_
        simpa using bare
  rw [tagName, String.toList_append]
  change String.ofList (name.toList.dropWhile (· == '!')) = name
  rw [kept, String.ofList_toList]

theorem UselessKind.uselessData_spec {kind : String} (useless : UselessKind kind) :
    Useless (uselessData kind) ∧ kindOf (uselessData kind) = kind := by
  cases useless with
  | null => exact ⟨.null, rfl⟩
  | boolean => exact ⟨.boolean true, rfl⟩
  | number => exact ⟨.number (.integer 0), rfl⟩
  | tagged bare foreign =>
      rename_i name
      have other (word : String) (unmarked : word.toList.head? ≠ some '!') :
          "!" ++ name ++ " value" ≠ word := by
        rintro rfl
        refine unmarked ?_
        rw [String.append_assoc, String.toList_append]
        rfl
      have kept : ("!" ++ name ++ " value").toList.take
          (("!" ++ name ++ " value").toList.length - " value".toList.length) =
            ("!" ++ name).toList := by
        have split : ("!" ++ name ++ " value").toList = ("!" ++ name).toList ++ " value".toList :=
          String.toList_append
        rw [split, List.length_append, Nat.add_sub_cancel, List.take_left]
      have written : uselessData ("!" ++ name ++ " value") = .tagged ("!" ++ name) .null := by
        rw [uselessData, if_neg (other _ (by decide)), if_neg (other _ (by decide)),
          if_neg (other _ (by decide)), kept, String.ofList_toList]
      rw [written, kindOf, tagName_mark bare]
      refine ⟨.tagged ?_ .null, rfl⟩
      rwa [tagName_mark bare]

theorem UselessKind.of_useless {data : Data} (useless : Useless data) :
    UselessKind (kindOf data) := by
  cases useless with
  | null => exact .null
  | boolean value => exact .boolean
  | number value => exact .number
  | tagged foreign content =>
      rename_i tag
      refine .tagged ?_ foreign
      rw [tagName, String.toList_ofList, ← List.find?_not_eq_head?_dropWhile]
      intro found
      cases List.find?_some found

theorem sniff_eq_unmarked_iff (source : String) : HookTag.sniff source = .unmarked ↔
    ¬ HookTag.beforeOpening <+: source.toList ∧ ¬ HookTag.afterOpening <+: source.toList := by
  rw [← List.isPrefixOf_iff_prefix, ← List.isPrefixOf_iff_prefix, HookTag.sniff]
  cases HookTag.beforeOpening.isPrefixOf source.toList <;>
    cases HookTag.afterOpening.isPrefixOf source.toList <;> simp

theorem Callable.marks_documentTag {callable : Callable ν}
    (stated : callable.tag = .unmarked → HookTag.sniff callable.source = .unmarked) :
    Marks (tagName ("!" ++ callable.tag.documentTag)) callable.source callable.tag := by
  obtain ⟨source, tag, body⟩ := callable
  have bare : tag.documentTag.toList.head? ≠ some '!' := by
    cases tag <;> decide
  rw [tagName_mark bare]
  cases tag with
  | before => exact .before source
  | after => exact .after source
  | unmarked =>
      have marks := Marks.fn source
      rw [stated rfl] at marks
      exact marks

mutual

theorem meansRows_toData : ∀ rows : List (String × Binding ν),
    (∀ part ∈ rowParts rows, part.Expressible) → MeansRows (rowsToData rows) rows
  | [], _ => .nil
  | (_, binding) :: rest, expressible => by
      obtain ⟨first, more⟩ := List.forall_mem_append.mp expressible
      exact .cons (binding.means_toData first) (meansRows_toData rest more)

theorem Binding.means_toData : ∀ binding : Binding ν, (∀ part ∈ binding.parts, part.Expressible) →
    MeansBinding binding.toData binding
  | .callable ⟨source, tag, body⟩, expressible => by
      obtain ⟨rfl, stated⟩ := expressible _ List.mem_cons_self
      exact .marked (Callable.marks_documentTag stated)
  | .sequence entries, expressible => .sequence (meansEntries_toData entries expressible)
  | .mapping (.mk rows), expressible => .mapping (meansRows_toData rows expressible)
  | .other kind, expressible => by
      obtain ⟨useless, same⟩ := (expressible _ List.mem_cons_self).uselessData_spec
      have means := MeansBinding.other (ν := ν) useless
      rwa [same] at means

theorem meansEntries_toData : ∀ entries : List (Entry ν),
    (∀ part ∈ entryParts entries, part.Expressible) →
      MeansEntries (entriesToData entries) entries
  | [], _ => .nil
  | entry :: rest, expressible => by
      obtain ⟨first, more⟩ := List.forall_mem_append.mp expressible
      exact .cons (entry.means_toData first) (meansEntries_toData rest more)

theorem Entry.means_toData : ∀ entry : Entry ν, (∀ part ∈ entry.parts, part.Expressible) →
    MeansEntry entry.toData entry
  | .reference raw, _ => .text raw
  | .hook ⟨source, tag, body⟩, expressible => by
      obtain ⟨rfl, stated⟩ := expressible _ List.mem_cons_self
      exact .marked (Callable.marks_documentTag stated)
  | .suite (.mk rows), expressible => .mapping (meansRows_toData rows expressible)
  | .other kind, expressible => by
      rw [Entry.toData]
      split
      · rename_i isSequence
        rw [isSequence]
        exact .sequence []
      · rename_i noSequence
        have useless := (expressible _ List.mem_cons_self).resolve_right noSequence
        obtain ⟨isUseless, same⟩ := useless.uselessData_spec
        have means := MeansEntry.other (ν := ν) isUseless
        rwa [same] at means

end

/-! ## A document for a spec has distinct keys -/

theorem keysDistinct_uselessData (kind : String) : (uselessData kind).KeysDistinct := by
  rw [uselessData]
  split
  · trivial
  · split
    · trivial
    · split <;> trivial

theorem rowsToData_keys (rows : List (String × Binding ν)) :
    (rowsToData rows).map Prod.fst = (Rows.keys rows).map Data.text := by
  induction rows with
  | nil => rfl
  | cons row rest ih =>
      rw [rowsToData, List.map_cons, ih]
      rfl

mutual

theorem Spec.keysDistinct_toData : ∀ spec : Spec ν, spec.Distinct → spec.toData.KeysDistinct
  | .mk rows, distinct => by
      refine ⟨?_, rowsToData_keysDistinct rows distinct.2⟩
      rw [rowsToData_keys, List.pairwise_map]
      refine distinct.1.imp ?_
      intro first second differ
      rw [Data.same, beq_eq_false_iff_ne]
      exact differ

theorem rowsToData_keysDistinct : ∀ rows : List (String × Binding ν), rowsDistinct rows →
    Document.membersKeysDistinct (rowsToData rows)
  | [], _ => trivial
  | (_, binding) :: rest, distinct =>
      ⟨trivial, binding.keysDistinct_toData distinct.1, rowsToData_keysDistinct rest distinct.2⟩

theorem Binding.keysDistinct_toData :
    ∀ binding : Binding ν, binding.Distinct → binding.toData.KeysDistinct
  | .callable _, _ => trivial
  | .sequence entries, distinct => entriesToData_keysDistinct entries distinct
  | .mapping spec, distinct => spec.keysDistinct_toData distinct
  | .other kind, _ => keysDistinct_uselessData kind

theorem entriesToData_keysDistinct : ∀ entries : List (Entry ν), entriesDistinct entries →
    Document.itemsKeysDistinct (entriesToData entries)
  | [], _ => trivial
  | entry :: rest, distinct =>
      ⟨entry.keysDistinct_toData distinct.1, entriesToData_keysDistinct rest distinct.2⟩

theorem Entry.keysDistinct_toData : ∀ entry : Entry ν, entry.Distinct → entry.toData.KeysDistinct
  | .reference _, _ => trivial
  | .hook _, _ => trivial
  | .suite spec, distinct => spec.keysDistinct_toData distinct
  | .other kind, _ => by
      rw [Entry.toData]
      split
      · trivial
      · exact keysDistinct_uselessData kind

end

theorem Spec.ofData_toData {spec : Spec ν} (distinct : spec.Distinct)
    (expressible : ∀ part ∈ spec.parts, part.Expressible) : ofData spec.toData = .ok spec := by
  obtain ⟨rows⟩ := spec
  refine (ofData_ok_iff_means (keysDistinct_toData _ distinct) _).mpr ?_
  exact .mapping (meansRows_toData rows expressible)

/-- A hook whose source begins like that of an after hook is written under its own tag. -/
example : Spec.ofData (.mk [("Widget", .sequence [.reference "svc+",
    .hook ⟨"function after", .before, none⟩, .other "! value"])] : Spec).toData =
      .ok (.mk [("Widget", .sequence [.reference "svc+",
        .hook ⟨"function after", .before, none⟩, .other "! value"])] : Spec) := by
  rfl

/-! ## Documents have words for nothing else -/

/-- No label is listed twice, and documents have words for every part. -/
def Spec.Loadable (spec : Spec ν) : Prop :=
  spec.Distinct ∧ ∀ part ∈ spec.parts, part.Expressible

def Binding.Loadable (binding : Binding ν) : Prop :=
  binding.Distinct ∧ ∀ part ∈ binding.parts, part.Expressible

def Entry.Loadable (entry : Entry ν) : Prop :=
  entry.Distinct ∧ ∀ part ∈ entry.parts, part.Expressible

theorem rowParts_insert_subset (label : String) (binding : Binding ν)
    (rows : List (String × Binding ν)) :
    rowParts (Rows.insert label binding rows) ⊆ binding.parts ++ rowParts rows := by
  induction rows with
  | nil => exact List.Subset.refl _
  | cons row rest ih =>
      obtain ⟨present, old⟩ := row
      intro part isIn
      rw [Rows.insert] at isIn
      rw [rowParts, List.mem_append, List.mem_append]
      split at isIn
      · rw [rowParts, List.mem_append] at isIn
        exact isIn.imp_right .inr
      · rw [rowParts, List.mem_append] at isIn
        rcases isIn with isOld | isLater
        · exact .inr (.inl isOld)
        · exact (List.mem_append.mp (ih isLater)).imp_right .inr

theorem Spec.loadable_insert {spec : Spec ν} {label : String} {binding : Binding ν}
    (loadable : spec.Loadable) (inner : binding.Loadable) :
    (spec.insert label binding).Loadable := by
  obtain ⟨rows⟩ := spec
  refine ⟨distinct_insert loadable.1 inner.1, ?_⟩
  intro part isIn
  rcases List.mem_append.mp (rowParts_insert_subset label binding rows isIn) with isNew | isOld
  · exact inner.2 part isNew
  · exact loadable.2 part isOld

theorem Spec.loadable_ofList {bindings : List (String × Binding ν)}
    (inner : ∀ row ∈ bindings, row.2.Loadable) : (ofList bindings).Loadable := by
  induction bindings using List.reverseRecOn with
  | nil => exact ⟨distinct_empty, fun _ isIn => nomatch isIn⟩
  | append_singleton front last ih =>
      obtain ⟨before, own⟩ := List.forall_mem_append.mp inner
      have step : ofList (front ++ [last]) = (ofList front).insert last.1 last.2 := by
        rw [ofList, Rows.ofList, List.foldl_concat]
        rfl
      rw [step]
      exact loadable_insert (ih before) (own last List.mem_cons_self)

theorem Binding.loadable_sequence {entries : List (Entry ν)}
    (inner : ∀ entry ∈ entries, entry.Loadable) : (Binding.sequence entries).Loadable := by
  induction entries with
  | nil => exact ⟨trivial, fun _ isIn => nomatch isIn⟩
  | cons entry rest ih =>
      obtain ⟨first, more⟩ := List.forall_mem_cons.mp inner
      exact ⟨⟨first.1, (ih more).1⟩, List.forall_mem_append.mpr ⟨first.2, (ih more).2⟩⟩

/-- A callable in a document has no role only if its source states none. -/
theorem Marks.stated {name source : String} {role : HookTag} (marks : Marks name source role)
    (unmarked : role = .unmarked) : HookTag.sniff source = .unmarked := by
  cases marks with
  | fn => exact unmarked
  | before => cases unmarked
  | after => cases unmarked

section Marked

variable {name source : String} {role : HookTag} (marks : Marks name source role)

include marks

theorem Marks.loadable_binding : (.callable ⟨source, role, none⟩ : Binding ν).Loadable :=
  ⟨trivial, List.forall_mem_singleton.mpr ⟨rfl, marks.stated⟩⟩

theorem Marks.loadable_entry : (.hook ⟨source, role, none⟩ : Entry ν).Loadable :=
  ⟨trivial, List.forall_mem_singleton.mpr ⟨rfl, marks.stated⟩⟩

end Marked

theorem Useless.loadable_binding {data : Data} (useless : Useless data) :
    (.other (kindOf data) : Binding ν).Loadable :=
  ⟨trivial, List.forall_mem_singleton.mpr (.of_useless useless)⟩

theorem Useless.loadable_entry {data : Data} (useless : Useless data) :
    (.other (kindOf data) : Entry ν).Loadable :=
  ⟨trivial, List.forall_mem_singleton.mpr (.inl (.of_useless useless))⟩

mutual

theorem loadable_of_bindingOf : ∀ (data : Data) (binding : Binding ν),
    bindingOf data = .ok binding → binding.Loadable
  | .text source, binding, read => by
      cases read
      exact (Marks.fn source).loadable_binding
  | .sequence items, binding, read => by
      rw [bindingOf, ok_of_map_iff] at read
      obtain ⟨entries, read, rfl⟩ := read
      exact Binding.loadable_sequence (loadable_of_entriesOf items entries read)
  | .mapping members, binding, read => by
      rw [bindingOf, ok_of_map_iff] at read
      obtain ⟨rows, read, rfl⟩ := read
      exact Spec.loadable_ofList (loadable_of_rowsOf members rows read)
  | .tagged tag content, binding, read => by
      rw [bindingOf_tagged, ok_of_map_iff] at read
      obtain ⟨found, read, rfl⟩ := read
      cases found with
      | none =>
          have foreign := taggedCallable?_none_iff.mp read
          exact (Useless.tagged foreign content).loadable_binding
      | some callable =>
          obtain ⟨source, role, rfl, marks, rfl⟩ := taggedCallable?_some_iff.mp read
          exact marks.loadable_binding
  | .null, binding, read => by
      cases read
      exact Useless.null.loadable_binding
  | .boolean value, binding, read => by
      cases read
      exact (Useless.boolean value).loadable_binding
  | .number value, binding, read => by
      cases read
      exact (Useless.number value).loadable_binding

theorem loadable_of_rowsOf : ∀ (members : List (Data × Data)) (rows : List (String × Binding ν)),
    rowsOf members = .ok rows → ∀ row ∈ rows, row.2.Loadable
  | [], rows, read => by
      cases read
      exact fun _ isIn => nomatch isIn
  | (key, value) :: rest, rows, read => by
      cases key with
      | text label =>
          rw [rowsOf, ok_of_both_iff] at read
          obtain ⟨binding, others, read, readToo, rfl⟩ := read
          exact List.forall_mem_cons.mpr
            ⟨loadable_of_bindingOf value binding read, loadable_of_rowsOf rest others readToo⟩
      | _ => cases read

theorem loadable_of_entriesOf : ∀ (items : List Data) (entries : List (Entry ν)),
    entriesOf items = .ok entries → ∀ entry ∈ entries, entry.Loadable
  | [], entries, read => by
      cases read
      exact fun _ isIn => nomatch isIn
  | item :: rest, entries, read => by
      rw [entriesOf, ok_of_both_iff] at read
      obtain ⟨entry, others, read, readToo, rfl⟩ := read
      exact List.forall_mem_cons.mpr
        ⟨loadable_of_entryOf item entry read, loadable_of_entriesOf rest others readToo⟩

theorem loadable_of_entryOf : ∀ (data : Data) (entry : Entry ν),
    entryOf data = .ok entry → entry.Loadable
  | .text _, entry, read => by
      cases read
      exact ⟨trivial, fun _ isIn => nomatch isIn⟩
  | .sequence _, entry, read => by
      cases read
      exact ⟨trivial, List.forall_mem_singleton.mpr (.inr rfl)⟩
  | .mapping members, entry, read => by
      rw [entryOf, ok_of_map_iff] at read
      obtain ⟨rows, read, rfl⟩ := read
      exact Spec.loadable_ofList (loadable_of_rowsOf members rows read)
  | .tagged tag content, entry, read => by
      rw [entryOf_tagged, ok_of_map_iff] at read
      obtain ⟨found, read, rfl⟩ := read
      cases found with
      | none =>
          have foreign := taggedCallable?_none_iff.mp read
          exact (Useless.tagged foreign content).loadable_entry
      | some callable =>
          obtain ⟨source, role, rfl, marks, rfl⟩ := taggedCallable?_some_iff.mp read
          exact marks.loadable_entry
  | .null, entry, read => by
      cases read
      exact Useless.null.loadable_entry
  | .boolean value, entry, read => by
      cases read
      exact (Useless.boolean value).loadable_entry
  | .number value, entry, read => by
      cases read
      exact (Useless.number value).loadable_entry

end

theorem Spec.loadable_of_ofData {data : Data} {spec : Spec ν} (read : ofData data = .ok spec) :
    spec.Loadable := by
  cases data with
  | null =>
      cases read
      exact ⟨distinct_empty, fun _ isIn => nomatch isIn⟩
  | mapping members =>
      rw [ofData, ok_of_map_iff] at read
      obtain ⟨rows, read, rfl⟩ := read
      exact loadable_ofList (loadable_of_rowsOf members rows read)
  | _ => cases read

theorem uselessKind_iff (kind : String) :
    UselessKind kind ↔ ∃ data, bindingOf (ν := ν) data = .ok (.other kind) := by
  constructor
  · intro useless
    obtain ⟨isUseless, same⟩ := useless.uselessData_spec
    refine ⟨uselessData kind, ?_⟩
    rw [isUseless.bindingOf_eq, same]
  · rintro ⟨data, read⟩
    exact (loadable_of_bindingOf data _ read).2 _ List.mem_cons_self

/-- Among the entries of a sequence there are sequences besides. -/
theorem entryKind_iff (kind : String) :
    (UselessKind kind ∨ kind = "sequence") ↔
      ∃ data, entryOf (ν := ν) data = .ok (.other kind) := by
  constructor
  · rintro (useless | rfl)
    · obtain ⟨isUseless, same⟩ := useless.uselessData_spec
      refine ⟨uselessData kind, ?_⟩
      rw [isUseless.entryOf_eq, same]
    · exact ⟨.sequence [], rfl⟩
  · rintro ⟨data, read⟩
    exact (loadable_of_entryOf data _ read).2 _ List.mem_cons_self

/-- A document describes exactly the specs that list no label of a node twice and for whose parts it
has words: callables without bodies that have no role only where their source states none, and
values without a use of the kinds that are read at their places.  Each of these is loaded from the
document written for it.  In particular no document loads as a spec with an unmarked callable whose
source begins like that of a marked one. -/
theorem documents_describe_exactly_expressible_specs :
    (∀ spec : Spec ν, spec.Distinct → (∀ part ∈ spec.parts, part.Expressible) →
      spec.toData.KeysDistinct ∧ Spec.ofData spec.toData = .ok spec) ∧
    (∀ spec : Spec ν, (∃ data, Spec.ofData data = .ok spec) ↔
      spec.Distinct ∧ ∀ part ∈ spec.parts, part.Expressible) ∧
    (∀ kind, (.boundKind kind : SpecPart ν).Expressible ↔
      ∃ data, bindingOf (ν := ν) data = .ok (.other kind)) ∧
    (∀ kind, (.entryKind kind : SpecPart ν).Expressible ↔
      ∃ data, entryOf (ν := ν) data = .ok (.other kind)) ∧
    ∀ (data : Data) (spec : Spec ν), Spec.ofData data = .ok spec → ∀ callable,
      .callable callable ∈ spec.parts → callable.tag = .unmarked →
        ¬ HookTag.beforeOpening <+: callable.source.toList ∧
          ¬ HookTag.afterOpening <+: callable.source.toList := by
  refine ⟨?_, ?_, uselessKind_iff, entryKind_iff, ?_⟩
  · intro spec distinct expressible
    exact ⟨spec.keysDistinct_toData distinct, Spec.ofData_toData distinct expressible⟩
  · intro spec
    constructor
    · rintro ⟨data, read⟩
      exact Spec.loadable_of_ofData read
    · rintro ⟨distinct, expressible⟩
      exact ⟨spec.toData, Spec.ofData_toData distinct expressible⟩
  · intro data spec read callable isIn unmarked
    exact (sniff_eq_unmarked_iff _).mp (((Spec.loadable_of_ofData read).2 _ isIn).2 unmarked)

end SuiteOutline
