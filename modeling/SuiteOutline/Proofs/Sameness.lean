import SuiteOutline.Proofs.EqualSpecs
import SuiteOutline.Proofs.TableHistory

/-!
# Equality as tables

Two specs are equal exactly if every label finds equal bindings in both, or none in either.  Specs
that differ only in bodies and in the order of labels are therefore equal, and every spec equals
itself.
-/

namespace SuiteOutline

variable {ν : Type}

/-! ## Equality by labels -/

theorem sameRows_iff {rows : List (String × Binding ν)} {other : Spec ν} :
    sameRows rows other = true ↔
      ∀ label binding, (label, binding) ∈ rows →
        ∃ counterpart, other.get? label = some counterpart ∧ binding.same counterpart = true := by
  induction rows with
  | nil => simp [sameRows]
  | cons row rest ih =>
      obtain ⟨label, binding⟩ := row
      rw [sameRows, Bool.and_eq_true, ih]
      constructor
      · rintro ⟨first, others⟩ sought bound isIn
        rcases List.mem_cons.mp isIn with isFirst | isLater
        · cases isFirst
          cases found : other.get? label with
          | none => simp [found] at first
          | some counterpart => exact ⟨counterpart, rfl, by simpa [found] using first⟩
        · exact others sought bound isLater
      · intro matched
        obtain ⟨counterpart, found, same⟩ := matched label binding List.mem_cons_self
        refine ⟨by simpa [found] using same, fun sought bound isIn => ?_⟩
        exact matched sought bound (List.mem_cons_of_mem _ isIn)

/-- Bindings that two specs have for one label: equal ones, or none in either. -/
def Spec.AgreeAt (first second : Spec ν) (label : String) : Prop :=
  Option.Rel (fun binding other => binding.same other = true) (first.get? label)
    (second.get? label)

theorem Spec.mem_labels_iff {spec : Spec ν} {label : String} :
    label ∈ spec.labels ↔ ∃ binding, spec.get? label = some binding := by
  rw [labels, get?, ← Option.isSome_iff_exists, ← Rows.contains_iff]
  rfl

theorem Spec.get?_eq_none_iff {spec : Spec ν} {label : String} :
    spec.get? label = none ↔ label ∉ spec.labels :=
  Rows.find?_eq_none_iff

theorem Spec.AgreeAt.mem_labels_iff {first second : Spec ν} {label : String}
    (agree : first.AgreeAt second label) : label ∈ first.labels ↔ label ∈ second.labels := by
  rw [Spec.mem_labels_iff, Spec.mem_labels_iff]
  rw [AgreeAt] at agree
  cases bound : first.get? label <;> cases boundToo : second.get? label <;>
    simp [bound, boundToo] at agree ⊢

theorem Spec.same_iff_agreeAt {first second : Spec ν} (distinct : first.labels.Nodup)
    (distinctToo : second.labels.Nodup) :
    first.same second = true ↔ ∀ label, first.AgreeAt second label := by
  obtain ⟨rows⟩ := first
  have length (spec : Spec ν) : spec.labels.length = spec.size := List.length_map _
  rw [Spec.same, Bool.and_eq_true, beq_iff_eq, sameRows_iff]
  constructor
  · rintro ⟨sizes, matched⟩ label
    have subset : (Spec.mk rows).labels ⊆ second.labels := by
      intro known isIn
      obtain ⟨⟨_, binding⟩, isRow, rfl⟩ := List.mem_map.mp isIn
      obtain ⟨counterpart, found, -⟩ := matched _ binding isRow
      exact Spec.mem_labels_iff.mpr ⟨counterpart, found⟩
    have perm : (Spec.mk rows).labels.Perm second.labels := by
      refine (distinct.subperm subset).perm_of_length_le ?_
      rw [length, length]
      exact Nat.le_of_eq sizes.symm
    rw [Spec.AgreeAt]
    cases bound : (Spec.mk rows).get? label with
    | none =>
        rw [Spec.get?_eq_none_iff, perm.mem_iff, ← Spec.get?_eq_none_iff] at bound
        rw [bound]
        exact .none
    | some binding =>
        obtain ⟨counterpart, found, same⟩ := matched label binding (Rows.mem_of_find? bound)
        rw [found]
        exact .some same
  · intro agree
    have perm : (Spec.mk rows).labels.Perm second.labels :=
      (List.perm_ext_iff_of_nodup distinct distinctToo).mpr fun label =>
        (agree label).mem_labels_iff
    refine ⟨?_, fun label binding isIn => ?_⟩
    · have sizes := perm.length_eq
      rw [length, length] at sizes
      exact sizes
    · have bound : (Spec.mk rows).get? label = some binding := Rows.find?_of_mem distinct isIn
      have agreeHere := agree label
      rw [Spec.AgreeAt, bound] at agreeHere
      cases found : second.get? label with
      | none =>
          rw [found] at agreeHere
          cases agreeHere
      | some counterpart =>
          rw [found] at agreeHere
          cases agreeHere with
          | some same => exact ⟨counterpart, rfl, same⟩

/-! ## Reordered specs are equal -/

theorem Callable.same_of_bodiless_eq {first second : Callable ν}
    (equal : first.bodiless = second.bodiless) : first.same second = true := by
  have source := congrArg Callable.source equal
  have tag := congrArg Callable.tag equal
  rw [Callable.same, Bool.and_eq_true, beq_iff_eq, beq_iff_eq]
  exact ⟨source, tag⟩

mutual

theorem Spec.Reordered.same :
    ∀ {first second : Spec ν}, first.Reordered second → first.Distinct → first.same second = true
  | .mk rows, .mk others, @Spec.Reordered.rows _ _ middle _ pairs perm, distinct => by
      rw [Spec.Distinct] at distinct
      have keys := pairs.keys_eq
      have distinctToo : (Rows.keys others).Nodup := by
        rw [keys] at distinct
        exact (perm.map Prod.fst).nodup_iff.mp distinct.1
      rw [Spec.same, Bool.and_eq_true, beq_iff_eq]
      constructor
      · have lengths := congrArg List.length keys
        rw [Rows.keys, Rows.keys, List.length_map, List.length_map] at lengths
        rw [lengths, perm.length_eq]
        rfl
      · refine pairs.same distinct.2 fun label binding isIn => ?_
        exact Rows.find?_of_mem distinctToo (perm.mem_iff.mp isIn)

theorem RowsReordered.same :
    ∀ {rows middle : List (String × Binding ν)}, RowsReordered rows middle → rowsDistinct rows →
      ∀ {other : Spec ν},
        (∀ label binding, (label, binding) ∈ middle → other.get? label = some binding) →
          sameRows rows other = true
  | _, _, .nil, _, _, _ => by rw [sameRows]
  | _, _, @RowsReordered.cons _ label _ counterpart _ _ first more, distinct, other, found => by
      rw [rowsDistinct] at distinct
      rw [sameRows, found label counterpart List.mem_cons_self, Bool.and_eq_true]
      refine ⟨first.same distinct.1, more.same distinct.2 fun sought binding isIn => ?_⟩
      exact found sought binding (List.mem_cons_of_mem _ isIn)

theorem Binding.Reordered.same :
    ∀ {binding other : Binding ν}, binding.Reordered other → binding.Distinct →
      binding.same other = true
  | _, _, .callable same, _ => by
      rw [Binding.same]
      exact Callable.same_of_bodiless_eq same
  | _, _, .sequence inner, distinct => by
      rw [Binding.Distinct] at distinct
      rw [Binding.same]
      exact inner.same distinct
  | _, _, .mapping inner, distinct => by
      rw [Binding.Distinct] at distinct
      rw [Binding.same]
      exact inner.same distinct
  | _, _, .other, _ => by
      rw [Binding.same, beq_self_eq_true]

theorem EntriesReordered.same :
    ∀ {entries others : List (Entry ν)}, EntriesReordered entries others → entriesDistinct entries →
      sameEntries entries others = true
  | _, _, .nil, _ => by rw [sameEntries]
  | _, _, .cons first more, distinct => by
      rw [entriesDistinct] at distinct
      rw [sameEntries, first.same distinct.1, more.same distinct.2]
      rfl

theorem Entry.Reordered.same :
    ∀ {entry other : Entry ν}, entry.Reordered other → entry.Distinct → entry.same other = true
  | _, _, .reference, _ => by
      rw [Entry.same, beq_self_eq_true]
  | _, _, .hook same, _ => by
      rw [Entry.same]
      exact Callable.same_of_bodiless_eq same
  | _, _, .suite inner, distinct => by
      rw [Entry.Distinct] at distinct
      rw [Entry.same]
      exact inner.same distinct
  | _, _, .other, _ => by
      rw [Entry.same, beq_self_eq_true]

end

/-- Equal specs are those that differ only in bodies and in the order of labels. -/
theorem Spec.same_iff_reordered {first second : Spec ν} (distinct : first.Distinct) :
    first.same second = true ↔ first.Reordered second :=
  ⟨Spec.reordered_of_same first distinct second, fun reordered => reordered.same distinct⟩

mutual

theorem Spec.reordered_refl : ∀ spec : Spec ν, spec.Reordered spec
  | .mk rows => .rows (rowsReordered_refl rows) (List.Perm.refl rows)

theorem rowsReordered_refl : ∀ rows : List (String × Binding ν), RowsReordered rows rows
  | [] => .nil
  | (_, binding) :: rest => .cons (Binding.reordered_refl binding) (rowsReordered_refl rest)

theorem Binding.reordered_refl : ∀ binding : Binding ν, binding.Reordered binding
  | .callable _ => .callable rfl
  | .sequence entries => .sequence (entriesReordered_refl entries)
  | .mapping spec => .mapping (Spec.reordered_refl spec)
  | .other _ => .other

theorem entriesReordered_refl : ∀ entries : List (Entry ν), EntriesReordered entries entries
  | [] => .nil
  | entry :: rest => .cons (Entry.reordered_refl entry) (entriesReordered_refl rest)

theorem Entry.reordered_refl : ∀ entry : Entry ν, entry.Reordered entry
  | .reference _ => .reference
  | .hook _ => .hook rfl
  | .suite spec => .suite (Spec.reordered_refl spec)
  | .other _ => .other

end

theorem Binding.same_self {binding : Binding ν} (distinct : binding.Distinct) :
    binding.same binding = true :=
  (Binding.reordered_refl binding).same distinct

end SuiteOutline
