import SuiteOutline.Proofs.DocumentMeaning

/-!
# Loading a spec

A document loads exactly if everything fits at the places that are read, and then it loads as the
spec that it means.  Otherwise it is refused for the first place where something does not fit.
What stands below a value without a use is never read, so it may be anything.
-/

namespace SuiteOutline

open Document (Data)

/-! ## What is never read -/

mutual

def boundOutline : Data → Data
  | .sequence items => .sequence (itemOutlines items)
  | .mapping members => .mapping (memberOutlines members)
  | .tagged tag content => .tagged tag (if tagName tag ∈ callableTags then content else .null)
  | other => other

def memberOutlines : List (Data × Data) → List (Data × Data)
  | [] => []
  | (key, value) :: rest => (key, boundOutline value) :: memberOutlines rest

def itemOutlines : List Data → List Data
  | [] => []
  | item :: rest => itemOutline item :: itemOutlines rest

def itemOutline : Data → Data
  | .sequence _ => .sequence []
  | .mapping members => .mapping (memberOutlines members)
  | .tagged tag content => .tagged tag (if tagName tag ∈ callableTags then content else .null)
  | other => other

end

/-- What is read of a document, with the rest left out. -/
def outline : Data → Data
  | .mapping members => .mapping (memberOutlines members)
  | .sequence _ => .sequence []
  | .tagged tag _ => .tagged tag .null
  | other => other

theorem taggedCallable?_outline (tag : String) (content : Data) :
    taggedCallable? (ν := ν) tag (if tagName tag ∈ callableTags then content else .null) =
      taggedCallable? tag content := by
  split
  · rfl
  · rename_i foreign
    rw [taggedCallable?_none_iff.mpr foreign, taggedCallable?_none_iff.mpr foreign]

mutual

theorem bindingOf_outline : ∀ data : Data,
    bindingOf (ν := ν) (boundOutline data) = bindingOf data
  | .text _ => rfl
  | .sequence items => by
      rw [boundOutline, bindingOf, bindingOf, entriesOf_outline items]
  | .mapping members => by
      rw [boundOutline, bindingOf, bindingOf, rowsOf_outline members]
  | .tagged tag content => by
      rw [boundOutline, bindingOf_tagged, bindingOf_tagged, taggedCallable?_outline]
      rfl
  | .null => rfl
  | .boolean _ => rfl
  | .number _ => rfl

theorem rowsOf_outline : ∀ members : List (Data × Data),
    rowsOf (ν := ν) (memberOutlines members) = rowsOf members
  | [] => rfl
  | (key, value) :: rest => by
      cases key with
      | text label =>
          rw [memberOutlines, rowsOf, rowsOf, bindingOf_outline value, rowsOf_outline rest]
      | _ => rfl

theorem entriesOf_outline : ∀ items : List Data,
    entriesOf (ν := ν) (itemOutlines items) = entriesOf items
  | [] => rfl
  | item :: rest => by
      rw [itemOutlines, entriesOf, entriesOf, entryOf_outline item, entriesOf_outline rest]

theorem entryOf_outline : ∀ data : Data,
    entryOf (ν := ν) (itemOutline data) = entryOf data
  | .text _ => rfl
  | .sequence _ => rfl
  | .mapping members => by
      rw [itemOutline, entryOf, entryOf, rowsOf_outline members]
  | .tagged tag content => by
      rw [itemOutline, entryOf_tagged, entryOf_tagged, taggedCallable?_outline]
      rfl
  | .null => rfl
  | .boolean _ => rfl
  | .number _ => rfl

end

theorem Spec.ofData_outline (data : Data) :
    ofData (ν := ν) (outline data) = ofData data := by
  cases data with
  | mapping members => rw [outline, ofData, ofData, rowsOf_outline]
  | _ => rfl

/-! ## Documents as texts -/

theorem Spec.load_of_ofText {text : String} {data : Data} (read : Data.ofText text = .ok data)
    (name : String) :
    load (ν := ν) name text =
      (ofData data).mapError fun misfit => misfit.report ⟨name, text⟩ := by
  have asText : ofText (ν := ν) text = (ofData data).mapError .misfit := by
    unfold ofText
    rw [read]
  rw [load, asText]
  cases ofData (ν := ν) data <;> rfl

theorem SpecMisfit.report_tells (misfit : SpecMisfit) (document : SourceText) :
    (misfit.report document).kind = .load ∧
      (misfit.report document).notice.message = misfit.text ∧
      (misfit.report document).notice.document = some document := by
  cases misfit <;> exact ⟨rfl, rfl, rfl⟩

/-- A document whose mappings have distinct keys loads exactly if everything fits at the places that
are read, and is otherwise refused for the first of them where something does not.  It loads as the
spec that it means, and as any document does that differs only in what is never read.  The value of
every text is such a document; the text loads as its value does, and a misfit is reported as a
failure to load. -/
theorem documents_load_as_they_mean {data : Data} (distinct : data.KeysDistinct) :
    ((∃ spec : Spec ν, Spec.ofData data = .ok spec) ↔ ∀ place ∈ readPlaces data, place.Fits) ∧
      (∀ misfit, Spec.ofData (ν := ν) data = .error misfit ↔
        ∃ front place rest, readPlaces data = front ++ place :: rest ∧
          (∀ innocent ∈ front, innocent.Fits) ∧ place.Violates misfit) ∧
      (∀ spec : Spec ν, Spec.ofData data = .ok spec ↔ MeansSpec data spec) ∧
      (∀ other, outline other = outline data →
        Spec.ofData (ν := ν) other = Spec.ofData data) ∧
      (∀ name text, Data.ofText text = .ok data → Spec.load (ν := ν) name text =
        (Spec.ofData data).mapError fun misfit => misfit.report ⟨name, text⟩) ∧
      (∀ text value, Data.ofText text = .ok value → value.KeysDistinct) ∧
      ∀ misfit document, (SpecMisfit.report document misfit).kind = .load ∧
        (SpecMisfit.report document misfit).notice.message = misfit.text ∧
        (SpecMisfit.report document misfit).notice.document = some document := by
  refine ⟨Spec.ofData_ok_iff data, Spec.ofData_error_iff data, Spec.ofData_ok_iff_means distinct,
    ?_, fun name _ read => Spec.load_of_ofText read name,
    fun _ _ read => Data.keysDistinct_of_ofText read, SpecMisfit.report_tells⟩
  intro other same
  rw [← Spec.ofData_outline other, same, Spec.ofData_outline]

/-- A suite of a module, a marked hook, a value and a sequence of no use with misfits inside, and a
nested spec, then a marked case and a number. -/
theorem documents_load_as_they_mean_widget :
    MeansSpec (ν := Value)
      (.mapping [(.text "Widget", .sequence [.text "app:", .tagged "before" (.text "f"),
          .tagged "other" (.mapping [(.number (.integer 3), .null)]),
          .sequence [.tagged "fn" .null],
          .mapping [(.text "should init", .text "function after () \x7b\x7d")]]),
        (.text "should add", .tagged "!fn" (.text "g")), (.text "Gadget", .number (.integer 4))])
      (.mk [("Widget", .sequence [.reference "app:", .hook ⟨"f", .before, none⟩,
          .other "!other value", .other "sequence",
          .suite (.mk [("should init", .callable ⟨"function after () \x7b\x7d", .after, none⟩)])]),
        ("should add", .callable ⟨"g", .unmarked, none⟩), ("Gadget", .other "number")]) := by
  refine ((documents_load_as_they_mean ?_).2.2.1 _).mp ?_
  · simp [Data.KeysDistinct, Document.membersKeysDistinct, Document.itemsKeysDistinct, Data.same]
  · rfl

end SuiteOutline
