import Mathlib.Data.List.Perm.Basic
import SuiteOutline.Proofs.JsonText
import SuiteOutline.Proofs.Sameness
import SuiteOutline.Serialised

/-!
# What serialised forms keep

The serialised form of a list of blocks says everything that equality of blocks looks at, and
nothing more.  That of a spec also says in which order each node lists its labels, so equal specs
may be written differently, but only in that.
-/

namespace SuiteOutline

variable {ν : Type}

theorem HookTag.name_inj {first second : HookTag} : first.name = second.name ↔ first = second := by
  cases first <;> cases second <;> decide

theorem LabelKind.name_inj {first second : LabelKind} :
    first.name = second.name ↔ first = second := by
  cases first <;> cases second <;> decide

theorem Callable.toJson_inj {first second : Callable ν} :
    first.toJson = second.toJson ↔ first.same second = true := by
  simp only [toJson, same, Json.object.injEq, List.cons.injEq, Prod.mk.injEq, Json.string.injEq,
    true_and, and_true, HookTag.name_inj, Bool.and_eq_true, beq_iff_eq]

theorem Json.strings_inj {first second : List String} :
    Json.strings first = Json.strings second ↔ first = second := by
  have injective : Function.Injective Json.string := fun _ _ same => Json.string.inj same
  rw [Json.strings, Json.strings, Json.array.injEq, (List.map_injective_iff.mpr injective).eq_iff]

/-! ## Blocks -/

mutual

theorem Block.toJson_inj :
    ∀ first second : Block ν, first.toJson = second.toJson ↔ first.same second = true
  | .mk kind label body, .mk otherKind otherLabel other => by
      simp only [Block.toJson, Block.same, Json.object.injEq, List.cons.injEq, Prod.mk.injEq,
        Json.string.injEq, true_and, and_true, LabelKind.name_inj, BlockBody.toJson_inj body other,
        Bool.and_eq_true, beq_iff_eq, and_assoc]

theorem BlockBody.toJson_inj :
    ∀ first second : BlockBody ν, first.toJson = second.toJson ↔ first.same second = true
  | .callable callable, .callable other => by
      simp only [BlockBody.toJson, BlockBody.same, Json.object.injEq, List.cons.injEq,
        Prod.mk.injEq, true_and, and_true, Callable.toJson_inj]
  | .items items, .items others => by
      simp only [BlockBody.toJson, BlockBody.same, Json.object.injEq, List.cons.injEq,
        Prod.mk.injEq, true_and, and_true, Json.array.injEq,
        itemsToJson_inj items others]
  | .callable _, .items _ | .items _, .callable _ => by
      simp [BlockBody.toJson, BlockBody.same]

theorem itemsToJson_inj :
    ∀ items others : List (Item ν), itemsToJson items = itemsToJson others ↔
      sameItems items others = true
  | [], [] => by simp [itemsToJson, sameItems]
  | item :: rest, other :: others => by
      rw [itemsToJson, itemsToJson, sameItems, List.cons.injEq, Bool.and_eq_true,
        Item.toJson_inj item other, itemsToJson_inj rest others]
  | [], _ :: _ | _ :: _, [] => by simp [itemsToJson, sameItems]

theorem Item.toJson_inj :
    ∀ first second : Item ν, first.toJson = second.toJson ↔ first.same second = true
  | .modules names, second => by
      cases second with
      | modules others => simp [Item.toJson, Item.same, Json.strings_inj]
      | _ => simp [Item.toJson, Item.same]
  | .inject names, second => by
      cases second with
      | inject others => simp [Item.toJson, Item.same, Json.strings_inj]
      | _ => simp [Item.toJson, Item.same]
  | .before hook, second => by
      cases second with
      | before other => simp [Item.toJson, Item.same, Callable.toJson_inj]
      | _ => simp [Item.toJson, Item.same]
  | .after hook, second => by
      cases second with
      | after other => simp [Item.toJson, Item.same, Callable.toJson_inj]
      | _ => simp [Item.toJson, Item.same]
  | .nested block, second => by
      cases second with
      | nested other => simp [Item.toJson, Item.same, Block.toJson_inj block other]
      | _ => simp [Item.toJson, Item.same]

end

theorem blocksToJson_inj {first second : List (Block ν)} :
    blocksToJson first = blocksToJson second ↔ sameBlocks first second = true := by
  rw [blocksToJson, blocksToJson, Json.array.injEq]
  induction first generalizing second with
  | nil => cases second <;> simp [sameBlocks]
  | cons block rest ih =>
      cases second with
      | nil => simp [sameBlocks]
      | cons other others =>
          rw [List.map_cons, List.map_cons, List.cons.injEq, Block.toJson_inj, ih, sameBlocks,
            sameBlocks, List.isEqv_cons_cons, Bool.and_eq_true]

/-! ## Objects with their members in another order -/

mutual

/-- Two values that differ only in the order of the members of objects. -/
inductive Json.Reordered : Json → Json → Prop where
  | null : Json.Reordered .null .null
  | boolean {value : Bool} : Json.Reordered (.boolean value) (.boolean value)
  | integer {value : Int} : Json.Reordered (.integer value) (.integer value)
  | string {text : String} : Json.Reordered (.string text) (.string text)
  | array {items others : List Json} (inner : ItemsReordered items others) :
      Json.Reordered (.array items) (.array others)
  | object {members middle others : List (String × Json)} (pairs : MembersReordered members middle)
      (perm : middle.Perm others) : Json.Reordered (.object members) (.object others)

inductive ItemsReordered : List Json → List Json → Prop where
  | nil : ItemsReordered [] []
  | cons {item other : Json} {rest others : List Json} (first : Json.Reordered item other)
      (more : ItemsReordered rest others) : ItemsReordered (item :: rest) (other :: others)

inductive MembersReordered : List (String × Json) → List (String × Json) → Prop where
  | nil : MembersReordered [] []
  | cons {name : String} {value other : Json} {rest others : List (String × Json)}
      (first : Json.Reordered value other) (more : MembersReordered rest others) :
      MembersReordered ((name, value) :: rest) ((name, other) :: others)

end

namespace Json.Reordered

/-- The form of a value with alternatives has one member, which stays the one. -/
theorem single_iff {name other : String} {value counterpart : Json} :
    (Json.object [(name, value)]).Reordered (.object [(other, counterpart)]) ↔
      name = other ∧ value.Reordered counterpart := by
  constructor
  · intro reordered
    cases reordered with
    | object pairs perm =>
        cases pairs with
        | cons first more =>
            cases more
            cases List.perm_singleton.mp perm
            exact ⟨rfl, first⟩
  · rintro ⟨rfl, inner⟩
    exact .object (.cons inner .nil) (List.Perm.refl _)

theorem string_iff {text other : String} :
    (Json.string text).Reordered (.string other) ↔ text = other := by
  constructor
  · intro reordered
    cases reordered
    rfl
  · rintro rfl
    exact .string

theorem array_iff {items others : List Json} :
    (Json.array items).Reordered (.array others) ↔ ItemsReordered items others := by
  constructor
  · intro reordered
    cases reordered with
    | array inner => exact inner
  · exact .array

end Json.Reordered

/-- The source of a callable cannot take the place of its role. -/
theorem Callable.toJson_reordered_iff {first second : Callable ν} :
    first.toJson.Reordered second.toJson ↔ first.bodiless = second.bodiless := by
  constructor
  · intro reordered
    rw [toJson, toJson] at reordered
    cases reordered with
    | object pairs perm =>
        obtain _ | ⟨source, _ | ⟨tag, more⟩⟩ := pairs
        cases source
        cases tag
        cases more
        have isSource := perm.mem_iff.mp List.mem_cons_self
        have isTag := perm.mem_iff.mp (List.mem_cons_of_mem _ List.mem_cons_self)
        simp only [List.mem_cons, Prod.mk.injEq, Json.string.injEq, List.not_mem_nil, or_false,
          HookTag.name_inj, String.reduceEq, true_and, false_and, false_or] at isSource isTag
        rw [bodiless, bodiless, isSource, isTag]
  · intro same
    have source := congrArg Callable.source same
    have tag := congrArg Callable.tag same
    rw [bodiless] at source tag
    rw [toJson, toJson, source, tag]
    exact .object (.cons .string (.cons .string .nil)) (List.Perm.refl _)

def rowToJson (row : String × Binding ν) : String × Json :=
  (row.1, row.2.toJson)

theorem rowsToJson_eq_map (rows : List (String × Binding ν)) :
    rowsToJson rows = rows.map rowToJson := by
  induction rows with
  | nil => rfl
  | cons row rest ih =>
      rw [rowsToJson, ih]
      rfl

theorem exists_perm_of_rowsToJson {members : List (String × Json)}
    {rows : List (String × Binding ν)} (perm : members.Perm (rowsToJson rows)) :
    ∃ middle, members = rowsToJson middle ∧ middle.Perm rows := by
  obtain ⟨middle, isMap, permuted⟩ :=
    (congrFun₂ (List.eq_map_comp_perm rowToJson) members rows).mpr (rowsToJson_eq_map rows ▸ perm)
  refine ⟨middle, ?_, permuted⟩
  rw [rowsToJson_eq_map, isMap]

/-! ## Specs up to the order of labels -/

/-- The one member of the form of a binding: the name of its kind, and what it holds. -/
def Binding.member : Binding ν → String × Json
  | .callable held => ("callable", held.toJson)
  | .sequence entries => ("sequence", .array (entriesToJson entries))
  | .mapping spec => ("node", spec.toJson)
  | .other kind => ("other", .string kind)

theorem Binding.toJson_eq_member (binding : Binding ν) :
    binding.toJson = .object [binding.member] := by
  cases binding <;> rw [toJson] <;> rfl

theorem Binding.toJson_reordered_iff {binding other : Binding ν} :
    binding.toJson.Reordered other.toJson ↔
      binding.member.1 = other.member.1 ∧ binding.member.2.Reordered other.member.2 := by
  rw [toJson_eq_member, toJson_eq_member]
  exact Json.Reordered.single_iff

def Entry.member : Entry ν → String × Json
  | .reference raw => ("ref", .string raw)
  | .hook callable => ("hook", callable.toJson)
  | .suite spec => ("suite", spec.toJson)
  | .other kind => ("other", .string kind)

theorem Entry.toJson_eq_member (entry : Entry ν) : entry.toJson = .object [entry.member] := by
  cases entry <;> rw [toJson] <;> rfl

theorem Entry.toJson_reordered_iff {entry other : Entry ν} :
    entry.toJson.Reordered other.toJson ↔
      entry.member.1 = other.member.1 ∧ entry.member.2.Reordered other.member.2 := by
  rw [toJson_eq_member, toJson_eq_member]
  exact Json.Reordered.single_iff

mutual

theorem Spec.Reordered.toJson :
    ∀ {first second : Spec ν}, first.Reordered second → first.toJson.Reordered second.toJson
  | _, _, @Spec.Reordered.rows _ _ middle others pairs perm => by
      have permuted : (rowsToJson middle).Perm (rowsToJson others) := by
        rw [rowsToJson_eq_map, rowsToJson_eq_map]
        exact perm.map rowToJson
      rw [Spec.toJson, Spec.toJson]
      exact .object pairs.toJson permuted

theorem RowsReordered.toJson :
    ∀ {rows others : List (String × Binding ν)}, RowsReordered rows others →
      MembersReordered (rowsToJson rows) (rowsToJson others)
  | _, _, .nil => .nil
  | _, _, .cons first more => .cons first.toJson more.toJson

theorem Binding.Reordered.toJson :
    ∀ {binding other : Binding ν}, binding.Reordered other → binding.toJson.Reordered other.toJson
  | _, _, .callable same =>
      Binding.toJson_reordered_iff.mpr ⟨rfl, Callable.toJson_reordered_iff.mpr same⟩
  | _, _, .sequence inner => Binding.toJson_reordered_iff.mpr ⟨rfl, .array inner.toJson⟩
  | _, _, .mapping inner => Binding.toJson_reordered_iff.mpr ⟨rfl, inner.toJson⟩
  | _, _, .other => Binding.toJson_reordered_iff.mpr ⟨rfl, .string⟩

theorem EntriesReordered.toJson :
    ∀ {entries others : List (Entry ν)}, EntriesReordered entries others →
      ItemsReordered (entriesToJson entries) (entriesToJson others)
  | _, _, .nil => .nil
  | _, _, .cons first more => .cons first.toJson more.toJson

theorem Entry.Reordered.toJson :
    ∀ {entry other : Entry ν}, entry.Reordered other → entry.toJson.Reordered other.toJson
  | _, _, .reference => Entry.toJson_reordered_iff.mpr ⟨rfl, .string⟩
  | _, _, .hook same =>
      Entry.toJson_reordered_iff.mpr ⟨rfl, Callable.toJson_reordered_iff.mpr same⟩
  | _, _, .suite inner => Entry.toJson_reordered_iff.mpr ⟨rfl, inner.toJson⟩
  | _, _, .other => Entry.toJson_reordered_iff.mpr ⟨rfl, .string⟩

end

mutual

/-- Only reordered specs have such forms: what is of one kind is not written as what is of
another. -/
theorem Spec.reordered_of_toJson :
    ∀ first second : Spec ν, first.toJson.Reordered second.toJson → first.Reordered second
  | .mk rows, .mk others, reordered => by
      rw [Spec.toJson, Spec.toJson] at reordered
      cases reordered with
      | object pairs perm =>
          obtain ⟨middle, rfl, permuted⟩ := exists_perm_of_rowsToJson perm
          exact .rows (rowsReordered_of_toJson rows middle pairs) permuted

theorem rowsReordered_of_toJson :
    ∀ rows others : List (String × Binding ν),
      MembersReordered (rowsToJson rows) (rowsToJson others) → RowsReordered rows others
  | [], [], _ => .nil
  | (label, binding) :: rest, (_, other) :: others, pairs => by
      rw [rowsToJson, rowsToJson] at pairs
      cases pairs with
      | cons first more =>
          exact .cons (Binding.reordered_of_toJson binding other first)
            (rowsReordered_of_toJson rest others more)
  | [], _ :: _, pairs | _ :: _, [], pairs => by cases pairs

theorem Binding.reordered_of_toJson :
    ∀ binding other : Binding ν, binding.toJson.Reordered other.toJson → binding.Reordered other
  | .callable callable, other, reordered => by
      obtain ⟨kind, inner⟩ := Binding.toJson_reordered_iff.mp reordered
      cases other with
      | callable counterpart => exact .callable (Callable.toJson_reordered_iff.mp inner)
      | _ => simp [Binding.member] at kind
  | .sequence entries, other, reordered => by
      obtain ⟨kind, inner⟩ := Binding.toJson_reordered_iff.mp reordered
      cases other with
      | sequence counterparts =>
          exact .sequence (entriesReordered_of_toJson entries counterparts
            (Json.Reordered.array_iff.mp inner))
      | _ => simp [Binding.member] at kind
  | .mapping spec, other, reordered => by
      obtain ⟨kind, inner⟩ := Binding.toJson_reordered_iff.mp reordered
      cases other with
      | mapping counterpart => exact .mapping (Spec.reordered_of_toJson spec counterpart inner)
      | _ => simp [Binding.member] at kind
  | .other text, other, reordered => by
      obtain ⟨kind, inner⟩ := Binding.toJson_reordered_iff.mp reordered
      cases other with
      | other counterpart =>
          cases Json.Reordered.string_iff.mp inner
          exact .other
      | _ => simp [Binding.member] at kind

theorem entriesReordered_of_toJson :
    ∀ entries others : List (Entry ν),
      ItemsReordered (entriesToJson entries) (entriesToJson others) →
        EntriesReordered entries others
  | [], [], _ => .nil
  | entry :: rest, other :: others, pairs => by
      rw [entriesToJson, entriesToJson] at pairs
      cases pairs with
      | cons first more =>
          exact .cons (Entry.reordered_of_toJson entry other first)
            (entriesReordered_of_toJson rest others more)
  | [], _ :: _, pairs | _ :: _, [], pairs => by cases pairs

theorem Entry.reordered_of_toJson :
    ∀ entry other : Entry ν, entry.toJson.Reordered other.toJson → entry.Reordered other
  | .reference raw, other, reordered => by
      obtain ⟨kind, inner⟩ := Entry.toJson_reordered_iff.mp reordered
      cases other with
      | reference counterpart =>
          cases Json.Reordered.string_iff.mp inner
          exact .reference
      | _ => simp [Entry.member] at kind
  | .hook hook, other, reordered => by
      obtain ⟨kind, inner⟩ := Entry.toJson_reordered_iff.mp reordered
      cases other with
      | hook counterpart => exact .hook (Callable.toJson_reordered_iff.mp inner)
      | _ => simp [Entry.member] at kind
  | .suite spec, other, reordered => by
      obtain ⟨kind, inner⟩ := Entry.toJson_reordered_iff.mp reordered
      cases other with
      | suite counterpart => exact .suite (Spec.reordered_of_toJson spec counterpart inner)
      | _ => simp [Entry.member] at kind
  | .other text, other, reordered => by
      obtain ⟨kind, inner⟩ := Entry.toJson_reordered_iff.mp reordered
      cases other with
      | other counterpart =>
          cases Json.Reordered.string_iff.mp inner
          exact .other
      | _ => simp [Entry.member] at kind

end

theorem Spec.toJson_reordered_iff {first second : Spec ν} :
    first.toJson.Reordered second.toJson ↔ first.Reordered second :=
  ⟨Spec.reordered_of_toJson first second, Spec.Reordered.toJson⟩

/-! ## Specs with their labels in one order -/

theorem Callable.toJson_bodiless (callable : Callable ν) :
    callable.bodiless.toJson = callable.toJson :=
  rfl

mutual

theorem Spec.toJson_mapCallables_bodiless :
    ∀ spec : Spec ν, (spec.mapCallables Callable.bodiless).toJson = spec.toJson
  | .mk rows => by
      rw [Spec.mapCallables, Spec.toJson, Spec.toJson, rowsToJson_bodiless rows]

theorem rowsToJson_bodiless :
    ∀ rows : List (String × Binding ν),
      rowsToJson (mapRowCallables Callable.bodiless rows) = rowsToJson rows
  | [] => rfl
  | (label, binding) :: rest => by
      rw [mapRowCallables, rowsToJson, rowsToJson, Binding.toJson_bodiless binding,
        rowsToJson_bodiless rest]

theorem Binding.toJson_bodiless :
    ∀ binding : Binding ν, (binding.mapCallables Callable.bodiless).toJson = binding.toJson
  | .callable callable => by
      rw [Binding.mapCallables, Binding.toJson, Binding.toJson, Callable.toJson_bodiless]
  | .sequence entries => by
      rw [Binding.mapCallables, Binding.toJson, Binding.toJson, entriesToJson_bodiless entries]
  | .mapping spec => by
      rw [Binding.mapCallables, Binding.toJson, Binding.toJson,
        Spec.toJson_mapCallables_bodiless spec]
  | .other _ => by
      rw [Binding.mapCallables]

theorem entriesToJson_bodiless :
    ∀ entries : List (Entry ν),
      entriesToJson (mapEntryCallables Callable.bodiless entries) = entriesToJson entries
  | [] => rfl
  | entry :: rest => by
      rw [mapEntryCallables, entriesToJson, entriesToJson, Entry.toJson_bodiless entry,
        entriesToJson_bodiless rest]

theorem Entry.toJson_bodiless :
    ∀ entry : Entry ν, (entry.mapCallables Callable.bodiless).toJson = entry.toJson
  | .reference _ => by
      rw [Entry.mapCallables]
  | .hook callable => by
      rw [Entry.mapCallables, Entry.toJson, Entry.toJson, Callable.toJson_bodiless]
  | .suite spec => by
      rw [Entry.mapCallables, Entry.toJson, Entry.toJson, Spec.toJson_mapCallables_bodiless spec]
  | .other _ => by
      rw [Entry.mapCallables]

end

theorem keys_rowsToJson (rows : List (String × Binding ν)) :
    Rows.keys (rowsToJson rows) = Rows.keys rows := by
  rw [rowsToJson_eq_map, Rows.keys, List.map_map]
  rfl

mutual

/-- The form of a spec tells the order of the labels at every level. -/
theorem Spec.aligned_of_toJson_eq :
    ∀ first second : Spec ν, first.toJson = second.toJson → first.Aligned second
  | .mk rows, .mk others, same => by
      rw [Spec.toJson, Spec.toJson, Json.object.injEq] at same
      rw [Spec.Aligned, ← keys_rowsToJson, same, keys_rowsToJson]
      exact ⟨rfl, rowsAligned_of_toJson_eq rows others same⟩

theorem rowsAligned_of_toJson_eq :
    ∀ rows others : List (String × Binding ν), rowsToJson rows = rowsToJson others →
      rowsAligned rows others
  | (_, binding) :: rest, (_, other) :: others, same => by
      rw [rowsToJson, rowsToJson, List.cons.injEq, Prod.mk.injEq] at same
      rw [rowsAligned]
      exact ⟨Binding.aligned_of_toJson_eq binding other same.1.2,
        rowsAligned_of_toJson_eq rest others same.2⟩
  | [], _, _ => by simp [rowsAligned]
  | _ :: _, [], _ => by simp [rowsAligned]

theorem Binding.aligned_of_toJson_eq :
    ∀ binding other : Binding ν, binding.toJson = other.toJson → binding.Aligned other
  | .sequence entries, other, same => by
      cases other with
      | sequence others =>
          simp only [Binding.toJson, Json.object.injEq, List.cons.injEq, Prod.mk.injEq, true_and,
            and_true, Json.array.injEq] at same
          rw [Binding.Aligned]
          exact entriesAligned_of_toJson_eq entries others same
      | _ => simp [Binding.Aligned]
  | .mapping spec, other, same => by
      cases other with
      | mapping counterpart =>
          simp only [Binding.toJson, Json.object.injEq, List.cons.injEq, Prod.mk.injEq, true_and,
            and_true] at same
          rw [Binding.Aligned]
          exact Spec.aligned_of_toJson_eq spec counterpart same
      | _ => simp [Binding.Aligned]
  | .callable _, _, _ | .other _, _, _ => by simp [Binding.Aligned]

theorem entriesAligned_of_toJson_eq :
    ∀ entries others : List (Entry ν), entriesToJson entries = entriesToJson others →
      entriesAligned entries others
  | entry :: rest, other :: others, same => by
      rw [entriesToJson, entriesToJson, List.cons.injEq] at same
      rw [entriesAligned]
      exact ⟨Entry.aligned_of_toJson_eq entry other same.1,
        entriesAligned_of_toJson_eq rest others same.2⟩
  | [], _, _ => by simp [entriesAligned]
  | _ :: _, [], _ => by simp [entriesAligned]

theorem Entry.aligned_of_toJson_eq :
    ∀ entry other : Entry ν, entry.toJson = other.toJson → entry.Aligned other
  | .suite spec, other, same => by
      cases other with
      | suite counterpart =>
          simp only [Entry.toJson, Json.object.injEq, List.cons.injEq, Prod.mk.injEq, true_and,
            and_true] at same
          rw [Entry.Aligned]
          exact Spec.aligned_of_toJson_eq spec counterpart same
      | _ => simp [Entry.Aligned]
  | .reference _, _, _ | .hook _, _, _ | .other _, _, _ => by simp [Entry.Aligned]

end

theorem Spec.toJson_bodiless (spec : Spec ν) : spec.bodiless.toJson = spec.toJson :=
  Spec.toJson_mapCallables_bodiless spec

/-- Equal specs may be written differently, but not if their labels are in the same order. -/
theorem Spec.toJson_inj {first second : Spec ν} (distinct : first.Distinct) :
    first.toJson = second.toJson ↔ first.same second = true ∧ first.Aligned second := by
  rw [Spec.same_iff_reordered distinct]
  constructor
  · intro same
    refine ⟨Spec.toJson_reordered_iff.mp ?_, Spec.aligned_of_toJson_eq first second same⟩
    rw [← same]
    exact (Spec.reordered_refl first).toJson
  · rintro ⟨reordered, aligned⟩
    rw [← Spec.toJson_bodiless first, reordered.bodiless_eq distinct aligned, Spec.toJson_bodiless]

/-- A spec, and the same labels in another order. -/
def Spec.widgetOrders (ν : Type) : Spec ν × Spec ν :=
  (.mk [("Widget", .sequence [.reference "svc"]), ("should run", .other "number")],
    .mk [("should run", .other "number"), ("Widget", .sequence [.reference "svc"])])

theorem Spec.distinct_widgetOrders : (widgetOrders ν).1.Distinct := by
  simp [widgetOrders, Distinct, rowsDistinct, Binding.Distinct, entriesDistinct, Entry.Distinct,
    Rows.keys]

theorem Spec.same_widgetOrders : (widgetOrders ν).1.same (widgetOrders ν).2 = true := by
  simp [widgetOrders, same, sameRows, get?, rows, size, Rows.find?, Binding.same, sameEntries,
    Entry.same]

/-- Lists of blocks have the same form, as a value or written in either way, exactly if they are
equal. Specs have the same form exactly if they are equal and list their labels in the same order
at every level; they are equal exactly if their forms differ at most in the order of members, as
those of some do. -/
theorem serialised_forms_lose_only_bodies :
    (∀ first second : List (Block ν),
      (blocksToJson first = blocksToJson second ↔ sameBlocks first second = true) ∧
      ((blocksToJson first).compact = (blocksToJson second).compact ↔
        sameBlocks first second = true) ∧
      ((blocksToJson first).pretty = (blocksToJson second).pretty ↔
        sameBlocks first second = true)) ∧
    (∀ first second : Spec ν, first.Distinct →
      (first.toJson = second.toJson ↔ first.same second = true ∧ first.Aligned second) ∧
      (first.toJson.compact = second.toJson.compact ↔
        first.same second = true ∧ first.Aligned second) ∧
      (first.toJson.pretty = second.toJson.pretty ↔
        first.same second = true ∧ first.Aligned second) ∧
      (first.same second = true ↔ first.toJson.Reordered second.toJson)) ∧
    ∃ first second : Spec ν, first.Distinct ∧ first.same second = true ∧
      first.toJson.compact ≠ second.toJson.compact := by
  refine ⟨fun first second => ?_, fun first second distinct => ?_, ?_⟩
  · exact ⟨blocksToJson_inj, Json.compact_inj.trans blocksToJson_inj,
      Json.pretty_inj.trans blocksToJson_inj⟩
  · refine ⟨Spec.toJson_inj distinct, Json.compact_inj.trans (Spec.toJson_inj distinct),
      Json.pretty_inj.trans (Spec.toJson_inj distinct), ?_⟩
    rw [Spec.same_iff_reordered distinct, Spec.toJson_reordered_iff]
  · refine ⟨_, _, Spec.distinct_widgetOrders, Spec.same_widgetOrders, ?_⟩
    rw [ne_eq, Json.compact_inj]
    simp [Spec.widgetOrders, Spec.toJson, rowsToJson]

theorem serialised_forms_lose_only_bodies_widget :
    (Spec.widgetOrders Value).1.toJson.Reordered (Spec.widgetOrders Value).2.toJson ∧
      ¬(Spec.widgetOrders Value).1.Aligned (Spec.widgetOrders Value).2 ∧
      (Spec.widgetOrders Value).1.toJson.pretty ≠ (Spec.widgetOrders Value).2.toJson.pretty := by
  have turned : ¬(Spec.widgetOrders Value).1.Aligned (Spec.widgetOrders Value).2 := by
    simp [Spec.widgetOrders, Spec.Aligned, Rows.keys]
  obtain ⟨-, -, pretty, same⟩ :=
    serialised_forms_lose_only_bodies.2.1 _ _ Spec.distinct_widgetOrders
  exact ⟨same.mp Spec.same_widgetOrders, turned, fun written => turned (pretty.mp written).2⟩

end SuiteOutline
