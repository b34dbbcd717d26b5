import Mathlib.Data.List.Chain
import SuiteOutline.Proofs.Acceptance
import SuiteOutline.Proofs.InjectionText

/-!
# The grammar of references

A reference is a name with the sign of its role behind it.  Reading one takes off a single sign and
nothing else, so what was written can be told from what was read; only a dependency whose name ends
in a sign cannot be written.  Where names are checked, exactly the texts of one grammar pass: any
text that ends in a colon, and a variable's name, alone or with one plus sign behind it.
-/

namespace SuiteOutline

/-! ## Names of variables -/

namespace Text

def InClass (ranges : List (Nat × Nat)) (character : Char) : Prop :=
  ∃ range ∈ ranges, range.1 ≤ character.toNat ∧ character.toNat ≤ range.2

/-- A name begins with a letter, a letter-like number, the low line or the dollar sign.  It goes on
with such characters, marks, decimal digits and connecting punctuation, and has no other ones. -/
def Identifier (name : String) : Prop :=
  ∃ first rest, name.toList = first :: rest ∧ InClass nameStartRanges first ∧
    ∀ character ∈ rest, InClass nameStartRanges character ∨ InClass namePartRanges character

/-- Stopping at the first range that begins above a code point misses no range. -/
theorem inRanges_iff {ranges : List (Nat × Nat)}
    (increasing : ranges.IsChain fun first second => first.1 < second.1) (code : Nat) :
    inRanges code ranges = true ↔ ∃ range ∈ ranges, range.1 ≤ code ∧ code ≤ range.2 := by
  refine ⟨exists_of_inRanges, ?_⟩
  rintro ⟨found, isIn, bounds⟩
  induction ranges with
  | nil => cases isIn
  | cons range rest ih =>
      obtain ⟨first, last⟩ := range
      rw [inRanges]
      rcases List.mem_cons.mp isIn with rfl | inRest
      · rw [if_neg (Nat.not_lt.mpr bounds.1), if_pos bounds.2]
      · have later : first < found.1 :=
          List.rel_of_pairwise_cons (List.isChain_iff_pairwise.mp increasing) inRest
        have notBelow : ¬ code < first := by omega
        rw [if_neg notBelow, ih increasing.tail inRest]
        split <;> rfl

theorem nameStartRanges_increasing :
    nameStartRanges.IsChain fun first second => first.1 < second.1 := by
  decide +kernel

theorem namePartRanges_increasing :
    namePartRanges.IsChain fun first second => first.1 < second.1 := by
  decide +kernel

theorem isNameStart_iff (character : Char) :
    isNameStart character = true ↔ InClass nameStartRanges character :=
  inRanges_iff nameStartRanges_increasing character.toNat

theorem isNamePart_iff (character : Char) : isNamePart character = true ↔
    InClass nameStartRanges character ∨ InClass namePartRanges character := by
  rw [isNamePart, Bool.or_eq_true, isNameStart_iff]
  exact or_congr_right (inRanges_iff namePartRanges_increasing character.toNat)

theorem isName_iff (name : String) : isName name = true ↔ Identifier name := by
  rw [isName, Identifier]
  cases name.toList with
  | nil => simp [isNameList]
  | cons first rest =>
      rw [isNameList, Bool.and_eq_true, isNameStart_iff, List.all_eq_true]
      constructor
      · rintro ⟨start, others⟩
        exact ⟨first, rest, rfl, start, fun character isIn =>
          (isNamePart_iff character).mp (others character isIn)⟩
      · rintro ⟨_, _, split, start, others⟩
        cases split
        exact ⟨start, fun character isIn => (isNamePart_iff character).mpr (others character isIn)⟩

theorem Identifier.ne_empty {name : String} (named : Identifier name) : name ≠ "" := by
  obtain ⟨first, rest, split, -⟩ := named
  rintro rfl
  cases split

theorem not_identifier_plus (name : String) : ¬ Identifier (name ++ "+") := by
  rw [← isName_iff]
  intro named
  have outside : isNamePart '+' = false := rfl
  refine not_mem_of_isName named outside ?_
  rw [String.toList_append]
  exact List.mem_append_right _ List.mem_cons_self

theorem Identifier.noLineFeed {name : String} (named : Identifier name) : '\n' ∉ name.toList := by
  have outside : isNamePart '\n' = false := rfl
  exact not_mem_of_isName ((isName_iff name).mpr named) outside

end Text

/-! ## Reading a reference -/

namespace Reference

/-- How a text is read as a reference: by its last character. -/
inductive Reads : String → Reference → Prop where
  | both (name : String) : Reads (name ++ "+") ⟨name, .moduleAndDependency⟩
  | module (name : String) : Reads (name ++ ":") ⟨name, .module⟩
  | dependency {name : String} (noPlus : name.toList.getLast? ≠ some '+')
      (noColon : name.toList.getLast? ≠ some ':') : Reads name ⟨name, .dependency⟩

theorem reads_decodeReversed (characters : List Char) :
    Reads (String.ofList characters.reverse) (decodeReversed characters) := by
  have signed (sign : Char) (rest : List Char) : String.ofList (sign :: rest).reverse =
      String.ofList rest.reverse ++ String.ofList [sign] := by
    rw [List.reverse_cons, String.ofList_append]
  rw [decodeReversed.eq_def]
  split
  · rename_i rest
    rw [signed]
    exact .both _
  · rename_i rest
    rw [signed]
    exact .module _
  · rename_i noPlus noColon
    have last (sign : Char)
        (isLast : (String.ofList characters.reverse).toList.getLast? = some sign) :
          ∃ rest, characters = sign :: rest := by
      rw [String.toList_ofList, List.getLast?_reverse] at isLast
      exact List.head?_eq_some_iff.mp isLast
    refine .dependency ?_ ?_
    · intro isLast
      obtain ⟨rest, split⟩ := last '+' isLast
      exact noPlus rest split
    · intro isLast
      obtain ⟨rest, split⟩ := last ':' isLast
      exact noColon rest split

theorem reads_decode (raw : String) : Reads raw (decode raw) := by
  have reads := reads_decodeReversed raw.toList.reverse
  rwa [List.reverse_reverse, String.ofList_toList] at reads

theorem Reads.eq_decode {raw : String} {reference : Reference} (reads : Reads raw reference) :
    decode raw = reference := by
  have signed (name : String) (sign : Char) : decode (name ++ String.ofList [sign]) =
      decodeReversed (sign :: name.toList.reverse) := by
    rw [decode, String.toList_append, String.toList_ofList, List.reverse_append]
    rfl
  cases reads with
  | both name =>
      refine (signed name '+').trans ?_
      rw [decodeReversed, List.reverse_reverse, String.ofList_toList]
  | module name =>
      refine (signed name ':').trans ?_
      rw [decodeReversed, List.reverse_reverse, String.ofList_toList]
  | dependency noPlus noColon =>
      rw [← List.head?_reverse] at noPlus noColon
      rw [decode, decodeReversed]
      · rw [List.reverse_reverse, String.ofList_toList]
      · intro rest split
        exact noPlus (congrArg List.head? split)
      · intro rest split
        exact noColon (congrArg List.head? split)

theorem Reads.encode_eq {raw : String} {reference : Reference} (reads : Reads raw reference) :
    reference.encode = raw := by
  cases reads with
  | both name => rw [encode, Role.suffix, String.ofList_append, String.ofList_toList]
  | module name => rw [encode, Role.suffix, String.ofList_append, String.ofList_toList]
  | dependency noPlus noColon => rw [encode, Role.suffix, List.append_nil, String.ofList_toList]

theorem Reads.noSign {raw : String} {reference : Reference} (reads : Reads raw reference)
    (bare : reference.role = .dependency) :
    raw.toList.getLast? ≠ some '+' ∧ raw.toList.getLast? ≠ some ':' := by
  cases reads with
  | both name => cases bare
  | module name => cases bare
  | dependency noPlus noColon => exact ⟨noPlus, noColon⟩

theorem encode_decode (raw : String) : (decode raw).encode = raw :=
  (reads_decode raw).encode_eq

/-- Every reference is read back as it was written, unless it is a dependency whose name ends in a
sign. -/
theorem decode_encode_iff (reference : Reference) :
    decode reference.encode = reference ↔
      ¬ (reference.role = .dependency ∧ (reference.name.toList.getLast? = some '+' ∨
        reference.name.toList.getLast? = some ':')) := by
  obtain ⟨name, role⟩ := reference
  cases role with
  | module =>
      have reads := Reads.module name
      rw [reads.encode_eq, reads.eq_decode]
      simp
  | moduleAndDependency =>
      have reads := Reads.both name
      rw [reads.encode_eq, reads.eq_decode]
      simp
  | dependency =>
      have bare : encode ⟨name, .dependency⟩ = name := by
        rw [encode, Role.suffix, List.append_nil, String.ofList_toList]
      rw [bare]
      constructor
      · rintro read ⟨-, isSign⟩
        have reads := reads_decode name
        rw [read] at reads
        exact isSign.elim (reads.noSign rfl).1 (reads.noSign rfl).2
      · intro noSign
        have reads : Reads name ⟨name, .dependency⟩ :=
          .dependency (fun plus => noSign ⟨rfl, .inl plus⟩) (fun colon => noSign ⟨rfl, .inr colon⟩)
        exact reads.eq_decode

/-! ## Checking a reference -/

theorem validate_ok_iff_identifier (reference : Reference) (checkNames : Bool) :
    reference.validate checkNames = .ok () ↔ (reference.role.injects = true →
      reference.name ≠ "" ∧ (checkNames = true → Text.Identifier reference.name)) := by
  rw [← Text.isName_iff]
  exact validate_ok_iff ({ validateIdentifiers := checkNames } : Options) reference

theorem getLast?_plus (name : String) : (name ++ "+").toList.getLast? = some '+' := by
  rw [String.toList_append]
  exact List.getLast?_concat

theorem getLast?_colon (name : String) : (name ++ ":").toList.getLast? = some ':' := by
  rw [String.toList_append]
  exact List.getLast?_concat

theorem Reads.validate_strict_iff {raw : String} {reference : Reference}
    (reads : Reads raw reference) : reference.validate true = .ok () ↔
      raw.toList.getLast? = some ':' ∨ Text.Identifier raw ∨
        ∃ name, Text.Identifier name ∧ raw = name ++ "+" := by
  rw [validate_ok_iff_identifier]
  cases reads with
  | both name =>
      constructor
      · intro valid
        exact .inr (.inr ⟨name, (valid rfl).2 rfl, rfl⟩)
      · rintro (colon | whole | ⟨other, named, same⟩) -
        · rw [getLast?_plus] at colon
          cases colon
        · exact absurd whole (Text.not_identifier_plus name)
        · rw [(String.append_left_inj _).mp same]
          exact ⟨named.ne_empty, fun _ => named⟩
  | module name =>
      constructor
      · intro _
        exact .inl (getLast?_colon name)
      · rintro - injects
        cases injects
  | dependency noPlus noColon =>
      constructor
      · intro valid
        exact .inr (.inl ((valid rfl).2 rfl))
      · rintro (colon | named | ⟨name, -, rfl⟩) -
        · exact absurd colon noColon
        · exact ⟨named.ne_empty, fun _ => named⟩
        · exact absurd (getLast?_plus name) noPlus

theorem Reads.validate_lenient_iff {raw : String} {reference : Reference}
    (reads : Reads raw reference) :
    reference.validate false = .ok () ↔ raw ≠ "" ∧ raw ≠ "+" := by
  rw [validate_ok_iff_identifier]
  cases reads with
  | both name =>
      constructor
      · intro valid
        refine ⟨?_, ?_⟩
        · intro empty
          have last := getLast?_plus name
          rw [empty] at last
          cases last
        · intro same
          have empty := (String.append_left_inj "+").mp (same.trans String.empty_append.symm)
          exact (valid rfl).1 empty
      · rintro ⟨-, notPlus⟩ -
        refine ⟨?_, fun checked => absurd checked Bool.false_ne_true⟩
        rintro rfl
        exact notPlus String.empty_append
  | module name =>
      constructor
      · intro _
        have last := getLast?_colon name
        refine ⟨?_, ?_⟩
        · intro empty
          rw [empty] at last
          cases last
        · intro same
          rw [same] at last
          cases last
      · rintro - injects
        cases injects
  | dependency noPlus noColon =>
      constructor
      · intro valid
        refine ⟨(valid rfl).1, ?_⟩
        rintro rfl
        exact noPlus rfl
      · rintro ⟨notEmpty, -⟩ -
        exact ⟨notEmpty, fun checked => absurd checked Bool.false_ne_true⟩

theorem validate_false_of_true {reference : Reference}
    (valid : reference.validate true = .ok ()) : reference.validate false = .ok () := by
  rw [validate_ok_iff_identifier] at valid ⊢
  intro injects
  exact ⟨(valid injects).1, fun checked => absurd checked Bool.false_ne_true⟩

end Reference

/-- Reading a reference loses nothing: its name and the sign of its role give the text back.  Every
reference is read as it was written, but for a dependency whose name ends in a sign.  Where names
are checked, exactly the texts pass that end in a colon, or are a variable's name, which stands on
one line, alone or with one plus sign behind it; where they are not, only the empty text and a lone
plus sign are refused, so nothing passes the stricter check alone. -/
theorem references_lossless_and_checked :
    (∀ raw, (Reference.decode raw).encode = raw) ∧ Function.Injective Reference.decode ∧
      (∀ reference : Reference, Reference.decode reference.encode = reference ↔
        ¬ (reference.role = .dependency ∧ (reference.name.toList.getLast? = some '+' ∨
          reference.name.toList.getLast? = some ':'))) ∧
      (∀ raw, (Reference.decode raw).validate true = .ok () ↔
        raw.toList.getLast? = some ':' ∨ Text.Identifier raw ∨
          ∃ name, Text.Identifier name ∧ raw = name ++ "+") ∧
      (∀ name, Text.Identifier name → '\n' ∉ name.toList) ∧
      (∀ raw, (Reference.decode raw).validate false = .ok () ↔ raw ≠ "" ∧ raw ≠ "+") ∧
      ∀ raw, (Reference.decode raw).validate true = .ok () →
        (Reference.decode raw).validate false = .ok () := by
  refine ⟨Reference.encode_decode, ?_, Reference.decode_encode_iff, ?_,
    fun _ named => named.noLineFeed, ?_, fun _ => Reference.validate_false_of_true⟩
  · intro first second same
    rw [← Reference.encode_decode first, same, Reference.encode_decode second]
  · intro raw
    exact (Reference.reads_decode raw).validate_strict_iff
  · intro raw
    exact (Reference.reads_decode raw).validate_lenient_iff

end SuiteOutline
