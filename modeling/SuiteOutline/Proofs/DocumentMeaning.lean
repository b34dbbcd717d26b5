import SuiteOutline.Loading
import SuiteOutline.Proofs.DocumentKeys
import SuiteOutline.Proofs.ReadPlaces

/-!
# What a document means

A spec mirrors the document that it is read from: a node for each mapping, with the same labels in
the same order, and an entry for each item.  A text is a callable under a label and a reference
among items; a tag for callables makes it a callable in both places.  Whatever has no use is told
by the name of its kind alone.
-/

namespace SuiteOutline

variable {ν : Type}

open Document (Data)

/-! ## The meaning of values -/

/-- The role that a tag for callables gives to a source. -/
inductive Marks : String → String → HookTag → Prop where
  /-- The source itself states the role. -/
  | fn (source : String) : Marks "fn" source (HookTag.sniff source)
  | before (source : String) : Marks "before" source .before
  | after (source : String) : Marks "after" source .after

/-- A value without a use, wherever it stands. -/
inductive Useless : Data → Prop where
  | null : Useless .null
  | boolean (value : Bool) : Useless (.boolean value)
  | number (value : Document.Number) : Useless (.number value)
  | tagged {tag : String} (foreign : tagName tag ∉ callableTags) (content : Data) :
      Useless (.tagged tag content)

mutual

/-- What a label is bound to under which a value stands. -/
inductive MeansBinding : Data → Binding ν → Prop where
  | text (source : String) :
      MeansBinding (.text source) (.callable ⟨source, HookTag.sniff source, none⟩)
  | marked {tag source : String} {role : HookTag} (marks : Marks (tagName tag) source role) :
      MeansBinding (.tagged tag (.text source)) (.callable ⟨source, role, none⟩)
  | sequence {items : List Data} {entries : List (Entry ν)} (inner : MeansEntries items entries) :
      MeansBinding (.sequence items) (.sequence entries)
  | mapping {members : List (Data × Data)} {rows : List (String × Binding ν)}
      (inner : MeansRows members rows) : MeansBinding (.mapping members) (.mapping (.mk rows))
  | other {data : Data} (useless : Useless data) : MeansBinding data (.other (kindOf data))

inductive MeansRows : List (Data × Data) → List (String × Binding ν) → Prop where
  | nil : MeansRows [] []
  | cons {label : String} {value : Data} {binding : Binding ν} {members : List (Data × Data)}
      {rows : List (String × Binding ν)} (first : MeansBinding value binding)
      (more : MeansRows members rows) :
      MeansRows ((.text label, value) :: members) ((label, binding) :: rows)

inductive MeansEntries : List Data → List (Entry ν) → Prop where
  | nil : MeansEntries [] []
  | cons {item : Data} {entry : Entry ν} {items : List Data} {entries : List (Entry ν)}
      (first : MeansEntry item entry) (more : MeansEntries items entries) :
      MeansEntries (item :: items) (entry :: entries)

inductive MeansEntry : Data → Entry ν → Prop where
  | text (raw : String) : MeansEntry (.text raw) (.reference raw)
  | marked {tag source : String} {role : HookTag} (marks : Marks (tagName tag) source role) :
      MeansEntry (.tagged tag (.text source)) (.hook ⟨source, role, none⟩)
  | mapping {members : List (Data × Data)} {rows : List (String × Binding ν)}
      (inner : MeansRows members rows) : MeansEntry (.mapping members) (.suite (.mk rows))
  | sequence (items : List Data) : MeansEntry (.sequence items) (.other (kindOf (.sequence items)))
  | other {data : Data} (useless : Useless data) : MeansEntry data (.other (kindOf data))

end

/-- The spec that a document is. -/
inductive MeansSpec : Data → Spec ν → Prop where
  | null : MeansSpec .null .empty
  | mapping {members : List (Data × Data)} {rows : List (String × Binding ν)}
      (inner : MeansRows members rows) : MeansSpec (.mapping members) (.mk rows)

/-! ## Tagged values -/

theorem Marks.exists_tag {name source : String} {role : HookTag} (marks : Marks name source role) :
    ∃ tag, callableTag? name = some tag ∧
      callableOf source tag = (⟨source, role, none⟩ : Callable ν) := by
  cases marks with
  | fn => exact ⟨none, rfl, rfl⟩
  | before => exact ⟨some .before, rfl, rfl⟩
  | after => exact ⟨some .after, rfl, rfl⟩

theorem exists_marks {name : String} {tag : Option HookTag} (marked : callableTag? name = some tag)
    (source : String) :
    ∃ role, Marks name source role ∧
      callableOf source tag = (⟨source, role, none⟩ : Callable ν) := by
  simp only [callableTag?, beq_iff_eq] at marked
  split at marked
  · rename_i isFn
    cases marked
    rw [isFn]
    exact ⟨_, .fn source, rfl⟩
  · split at marked
    · rename_i isBefore
      cases marked
      rw [isBefore]
      exact ⟨_, .before source, rfl⟩
    · split at marked
      · rename_i isAfter
        cases marked
        rw [isAfter]
        exact ⟨_, .after source, rfl⟩
      · cases marked

theorem Marks.mem_callableTags {name source : String} {role : HookTag}
    (marks : Marks name source role) : name ∈ callableTags := by
  cases marks <;> decide

variable {tag : String} {content : Data}

theorem taggedCallable?_none_iff :
    taggedCallable? (ν := ν) tag content = .ok none ↔ tagName tag ∉ callableTags := by
  rw [← callableTag?_eq_none_iff, taggedCallable?]
  cases callableTag? (tagName tag) with
  | none => simp
  | some role => cases content <;> simp

theorem taggedCallable?_some_iff {callable : Callable ν} :
    taggedCallable? tag content = .ok (some callable) ↔
      ∃ source role, content = .text source ∧ Marks (tagName tag) source role ∧
        callable = ⟨source, role, none⟩ := by
  constructor
  · intro read
    rw [taggedCallable?] at read
    cases marked : callableTag? (tagName tag) with
    | none =>
        rw [marked] at read
        cases read
    | some role =>
        rw [marked] at read
        cases content with
        | text source =>
            cases read
            obtain ⟨role, marks, same⟩ := exists_marks marked source
            exact ⟨source, role, rfl, marks, same⟩
        | _ => cases read
  · rintro ⟨source, role, rfl, marks, rfl⟩
    obtain ⟨role, marked, same⟩ := marks.exists_tag
    rw [taggedCallable?, marked, ← same]

theorem MeansRows.keys_eq {members : List (Data × Data)} {rows : List (String × Binding ν)}
    (means : MeansRows members rows) :
    members.map Prod.fst = (Rows.keys rows).map Data.text := by
  induction rows generalizing members with
  | nil =>
      cases means
      rfl
  | cons row rest ih =>
      cases means with
      | cons first more => rw [List.map_cons, ih more]; rfl

/-- Labels from distinct keys are distinct, so binding them in order lists them in order. -/
theorem MeansRows.ofList_eq {members : List (Data × Data)} {rows : List (String × Binding ν)}
    (means : MeansRows members rows) (distinct : (Data.mapping members).KeysDistinct) :
    Spec.ofList rows = .mk rows := by
  have labels := distinct.1
  rw [means.keys_eq, List.pairwise_map] at labels
  rw [Spec.ofList, Rows.ofList_of_nodup]
  refine labels.imp ?_
  rintro label _ differs rfl
  rw [Data.same, beq_self_eq_true] at differs
  cases differs

/-! ## Reading finds the meaning -/

section Results

variable {α β γ : Type}

theorem ok_of_map_iff {result : Except SpecMisfit α} {function : α → β} {value : β} :
    result.map function = .ok value ↔ ∃ first, result = .ok first ∧ function first = value := by
  cases result <;> simp [Except.map]

theorem ok_of_both_iff {first : Except SpecMisfit α} {second : Except SpecMisfit β}
    {combine : α → β → γ} {result : γ} :
    (do let value ← first; let other ← second; .ok (combine value other)) = Except.ok result ↔
      ∃ value other, first = .ok value ∧ second = .ok other ∧ combine value other = result := by
  cases first with
  | error misfit => simp [bind, Except.bind]
  | ok value => cases second <;> simp [bind, Except.bind]

end Results

theorem bindingOf_tagged (tag : String) (content : Data) : bindingOf (.tagged tag content) =
    (taggedCallable? (ν := ν) tag content).map fun callable? =>
      (callable?.map Binding.callable).getD (.other (kindOf (.tagged tag content))) := by
  rw [bindingOf]
  rcases taggedCallable? (ν := ν) tag content with _ | _ | _ <;> rfl

theorem entryOf_tagged (tag : String) (content : Data) : entryOf (.tagged tag content) =
    (taggedCallable? (ν := ν) tag content).map fun callable? =>
      (callable?.map Entry.hook).getD (.other (kindOf (.tagged tag content))) := by
  rw [entryOf]
  rcases taggedCallable? (ν := ν) tag content with _ | _ | _ <;> rfl

namespace Useless

variable {data : Data} (useless : Useless data)

include useless

theorem bindingOf_eq : bindingOf (ν := ν) data = .ok (.other (kindOf data)) := by
  cases useless with
  | tagged foreign content =>
      rw [bindingOf_tagged, taggedCallable?_none_iff.mpr foreign]
      rfl
  | _ => rfl

theorem entryOf_eq : entryOf (ν := ν) data = .ok (.other (kindOf data)) := by
  cases useless with
  | tagged foreign content =>
      rw [entryOf_tagged, taggedCallable?_none_iff.mpr foreign]
      rfl
  | _ => rfl

theorem meansBinding_iff (binding : Binding ν) :
    MeansBinding data binding ↔ binding = .other (kindOf data) := by
  constructor
  · intro means
    cases means with
    | other _ => rfl
    | marked marks =>
        cases useless with
        | tagged foreign => exact absurd marks.mem_callableTags foreign
    | _ => cases useless
  · rintro rfl
    exact .other useless

theorem meansEntry_iff (entry : Entry ν) :
    MeansEntry data entry ↔ entry = .other (kindOf data) := by
  constructor
  · intro means
    cases means with
    | other _ => rfl
    | marked marks =>
        cases useless with
        | tagged foreign => exact absurd marks.mem_callableTags foreign
    | _ => cases useless
  · rintro rfl
    exact .other useless

theorem bindingOf_ok_iff (binding : Binding ν) :
    bindingOf data = .ok binding ↔ MeansBinding data binding := by
  rw [useless.bindingOf_eq, useless.meansBinding_iff, Except.ok.injEq, eq_comm]

theorem entryOf_ok_iff (entry : Entry ν) : entryOf data = .ok entry ↔ MeansEntry data entry := by
  rw [useless.entryOf_eq, useless.meansEntry_iff, Except.ok.injEq, eq_comm]

end Useless

mutual

theorem bindingOf_ok_iff : ∀ data : Data, data.KeysDistinct → ∀ binding : Binding ν,
    bindingOf data = .ok binding ↔ MeansBinding data binding
  | .text source, _, binding => by
      rw [bindingOf, Except.ok.injEq]
      constructor
      · rintro rfl
        exact .text source
      · intro means
        cases means with
        | text => rfl
        | other useless => cases useless
  | .sequence items, distinct, binding => by
      rw [bindingOf, ok_of_map_iff]
      constructor
      · rintro ⟨entries, read, rfl⟩
        exact .sequence ((entriesOf_ok_iff items distinct entries).mp read)
      · intro means
        cases means with
        | sequence inner => exact ⟨_, (entriesOf_ok_iff items distinct _).mpr inner, rfl⟩
        | other useless => cases useless
  | .mapping members, distinct, binding => by
      rw [bindingOf, ok_of_map_iff]
      constructor
      · rintro ⟨rows, read, rfl⟩
        have inner := (rowsOf_ok_iff members distinct.2 rows).mp read
        rw [inner.ofList_eq distinct]
        exact .mapping inner
      · intro means
        cases means with
        | mapping inner =>
            refine ⟨_, (rowsOf_ok_iff members distinct.2 _).mpr inner, ?_⟩
            rw [inner.ofList_eq distinct]
        | other useless => cases useless
  | .tagged tag content, _, binding => by
      rw [bindingOf_tagged, ok_of_map_iff]
      constructor
      · rintro ⟨found, read, rfl⟩
        cases found with
        | none => exact .other (.tagged (taggedCallable?_none_iff.mp read) content)
        | some callable =>
            obtain ⟨source, role, rfl, marks, rfl⟩ := taggedCallable?_some_iff.mp read
            exact .marked marks
      · intro means
        cases means with
        | marked marks =>
            exact ⟨some _, taggedCallable?_some_iff.mpr ⟨_, _, rfl, marks, rfl⟩, rfl⟩
        | other useless =>
            cases useless with
            | tagged foreign => exact ⟨none, taggedCallable?_none_iff.mpr foreign, rfl⟩
  | .null, _, binding => Useless.null.bindingOf_ok_iff binding
  | .boolean value, _, binding => (Useless.boolean value).bindingOf_ok_iff binding
  | .number value, _, binding => (Useless.number value).bindingOf_ok_iff binding

theorem rowsOf_ok_iff : ∀ members : List (Data × Data),
    Document.membersKeysDistinct members → ∀ rows : List (String × Binding ν),
      rowsOf members = .ok rows ↔ MeansRows members rows
  | [], _, rows => by
      rw [rowsOf, Except.ok.injEq]
      constructor
      · rintro rfl
        exact .nil
      · intro means
        cases means
        rfl
  | (key, value) :: rest, distinct, rows => by
      cases key with
      | text label =>
          rw [rowsOf, ok_of_both_iff]
          constructor
          · rintro ⟨binding, others, read, readToo, rfl⟩
            exact .cons ((bindingOf_ok_iff value distinct.2.1 binding).mp read)
              ((rowsOf_ok_iff rest distinct.2.2 others).mp readToo)
          · intro means
            cases means with
            | cons first more =>
                exact ⟨_, _, (bindingOf_ok_iff value distinct.2.1 _).mpr first,
                  (rowsOf_ok_iff rest distinct.2.2 _).mpr more, rfl⟩
      | _ =>
          constructor
          · intro read
            cases read
          · intro means
            cases means

theorem entriesOf_ok_iff : ∀ items : List Data, Document.itemsKeysDistinct items →
    ∀ entries : List (Entry ν),
    entriesOf items = .ok entries ↔ MeansEntries items entries
  | [], _, entries => by
      rw [entriesOf, Except.ok.injEq]
      constructor
      · rintro rfl
        exact .nil
      · intro means
        cases means
        rfl
  | item :: rest, distinct, entries => by
      rw [entriesOf, ok_of_both_iff]
      constructor
      · rintro ⟨entry, others, read, readToo, rfl⟩
        exact .cons ((entryOf_ok_iff item distinct.1 entry).mp read)
          ((entriesOf_ok_iff rest distinct.2 others).mp readToo)
      · intro means
        cases means with
        | cons first more =>
            exact ⟨_, _, (entryOf_ok_iff item distinct.1 _).mpr first,
              (entriesOf_ok_iff rest distinct.2 _).mpr more, rfl⟩

theorem entryOf_ok_iff : ∀ data : Data, data.KeysDistinct → ∀ entry : Entry ν,
    entryOf data = .ok entry ↔ MeansEntry data entry
  | .text raw, _, entry => by
      rw [entryOf, Except.ok.injEq]
      constructor
      · rintro rfl
        exact .text raw
      · intro means
        cases means with
        | text => rfl
        | other useless => cases useless
  | .sequence items, _, entry => by
      rw [entryOf, Except.ok.injEq]
      constructor
      · rintro rfl
        exact .sequence items
      · intro means
        cases means with
        | sequence => rfl
        | other useless => cases useless
  | .mapping members, distinct, entry => by
      rw [entryOf, ok_of_map_iff]
      constructor
      · rintro ⟨rows, read, rfl⟩
        have inner := (rowsOf_ok_iff members distinct.2 rows).mp read
        rw [inner.ofList_eq distinct]
        exact .mapping inner
      · intro means
        cases means with
        | mapping inner =>
            refine ⟨_, (rowsOf_ok_iff members distinct.2 _).mpr inner, ?_⟩
            rw [inner.ofList_eq distinct]
        | other useless => cases useless
  | .tagged tag content, _, entry => by
      rw [entryOf_tagged, ok_of_map_iff]
      constructor
      · rintro ⟨found, read, rfl⟩
        cases found with
        | none => exact .other (.tagged (taggedCallable?_none_iff.mp read) content)
        | some callable =>
            obtain ⟨source, role, rfl, marks, rfl⟩ := taggedCallable?_some_iff.mp read
            exact .marked marks
      · intro means
        cases means with
        | marked marks =>
            exact ⟨some _, taggedCallable?_some_iff.mpr ⟨_, _, rfl, marks, rfl⟩, rfl⟩
        | other useless =>
            cases useless with
            | tagged foreign => exact ⟨none, taggedCallable?_none_iff.mpr foreign, rfl⟩
  | .null, _, entry => Useless.null.entryOf_ok_iff entry
  | .boolean value, _, entry => (Useless.boolean value).entryOf_ok_iff entry
  | .number value, _, entry => (Useless.number value).entryOf_ok_iff entry

end

theorem Spec.ofData_ok_iff_means {data : Data} (distinct : data.KeysDistinct) (spec : Spec ν) :
    ofData data = .ok spec ↔ MeansSpec data spec := by
  cases data with
  | null =>
      rw [ofData, Except.ok.injEq]
      constructor
      · rintro rfl
        exact .null
      · intro means
        cases means
        rfl
  | mapping members =>
      rw [ofData, ok_of_map_iff]
      constructor
      · rintro ⟨rows, read, rfl⟩
        have inner := (rowsOf_ok_iff members distinct.2 rows).mp read
        rw [inner.ofList_eq distinct]
        exact .mapping inner
      · intro means
        cases means with
        | mapping inner =>
            exact ⟨_, (rowsOf_ok_iff members distinct.2 _).mpr inner, inner.ofList_eq distinct⟩
  | _ =>
      constructor
      · intro read
        cases read
      · intro means
        cases means

end SuiteOutline
