import SuiteOutline.Script

/-!
# Literals read back

A literal ends at its first apostrophe that no backslash escapes.  The grammar here says what may
stand between the apostrophes and which text it spells, without a word about writing; the reader
reads exactly this.  What is written for a text is such a literal, on one line, and no front of it
is one.  So a label or the name of a module can be told from any text that begins with its literal,
and none can end its literal early.
-/

namespace SuiteOutline

variable {ν : Type}

namespace Text.Literal

/-- Characters that may stand between the apostrophes of a literal, and the text that they spell. -/
inductive Spells : List Char → List Char → Prop where
  | nil : Spells [] []
  /-- A backslash takes the character behind it along, whichever it is. -/
  | escaped {written text : List Char} (character : Char) (rest : Spells written text) :
      Spells ('\\' :: character :: written) (unescape character :: text)
  | plain {written text : List Char} {character : Char} (notBackslash : character ≠ '\\')
      (notApostrophe : character ≠ '\'') (rest : Spells written text) :
      Spells (character :: written) (character :: text)

theorem Spells.readBody {written text : List Char} (spells : Spells written text)
    (after : List Char) : readBody (written ++ '\'' :: after) = some (text, after) := by
  induction spells with
  | nil => rfl
  | escaped character rest ih =>
      rw [List.cons_append, List.cons_append, Literal.readBody, ih]
      rfl
  | plain notBackslash notApostrophe rest ih =>
      rw [List.cons_append, Literal.readBody, ih]
      · rfl
      · exact notApostrophe
      · intro _ _ isBackslash
        exact absurd isBackslash notBackslash
      · intro isBackslash
        exact absurd isBackslash notBackslash

theorem exists_spells_of_readBody {input text after : List Char}
    (found : readBody input = some (text, after)) :
    ∃ written, Spells written text ∧ input = written ++ '\'' :: after := by
  fun_induction readBody input generalizing text with
  | case1 => cases found
  | case2 rest =>
      cases found
      exact ⟨[], .nil, rfl⟩
  | case3 character rest ih =>
      obtain ⟨⟨inner, behind⟩, isInner, same⟩ := Option.map_eq_some_iff.mp found
      cases same
      obtain ⟨written, spells, rfl⟩ := ih isInner
      exact ⟨'\\' :: character :: written, .escaped character spells, rfl⟩
  | case4 => cases found
  | case5 character rest notApostrophe notEscape notBackslash ih =>
      obtain ⟨⟨inner, behind⟩, isInner, same⟩ := Option.map_eq_some_iff.mp found
      cases same
      have plain : character ≠ '\\' := by
        intro isBackslash
        cases rest with
        | nil => exact notBackslash isBackslash rfl
        | cons escaped others => exact notEscape escaped others isBackslash rfl
      obtain ⟨written, spells, rfl⟩ := ih isInner
      exact ⟨character :: written, .plain plain notApostrophe spells, rfl⟩

theorem read_eq_some_iff {input text after : List Char} :
    read input = some (text, after) ↔
      ∃ written, Spells written text ∧ input = '\'' :: (written ++ '\'' :: after) := by
  constructor
  · intro found
    cases input with
    | nil => cases found
    | cons first rest =>
        rw [read.eq_def] at found
        split at found
        · rename_i opening
          cases opening
          obtain ⟨written, spells, rfl⟩ := exists_spells_of_readBody found
          exact ⟨written, spells, rfl⟩
        · cases found
  · rintro ⟨written, spells, rfl⟩
    exact spells.readBody after

/-- Whether a literal is read, and what it says, is up to the characters that it takes. -/
theorem read_append {input text after : List Char} (found : read input = some (text, after))
    (more : List Char) : read (input ++ more) = some (text, after ++ more) := by
  obtain ⟨written, spells, rfl⟩ := read_eq_some_iff.mp found
  refine read_eq_some_iff.mpr ⟨written, spells, ?_⟩
  rw [List.cons_append, List.append_assoc, List.cons_append]

/-! ## Written literals -/

theorem toList_quote (text : String) : (quote text).toList = write text.toList := by
  rw [quote, String.toList_ofList]

theorem read_quote (text : String) (after : List Char) :
    read ((quote text).toList ++ after) = some (text.toList, after) := by
  rw [toList_quote, read_write]

/-- A text that begins with a literal begins with no other one. -/
theorem quote_append_inj {first second : String} {after others : List Char}
    (same : (quote first).toList ++ after = (quote second).toList ++ others) :
    first = second ∧ after = others := by
  have read := read_quote first after
  rw [same, read_quote, Option.some.injEq, Prod.mk.injEq] at read
  exact ⟨(String.toList_inj.mp read.1).symm, read.2.symm⟩

/-- A literal that is cut off is none. -/
theorem read_of_cut {text : String} {front rest : List Char}
    (split : (quote text).toList = front ++ rest) (cut : rest ≠ []) : read front = none := by
  cases found : read front with
  | none => rfl
  | some result =>
      obtain ⟨other, after⟩ := result
      have whole := read_quote text []
      rw [List.append_nil, split, read_append found, Option.some.injEq, Prod.mk.injEq] at whole
      exact absurd (List.append_eq_nil_iff.mp whole.2).2 cut

theorem not_mem_writeChar {lineEnd : Char} (isLineEnd : lineEnd = '\n' ∨ lineEnd = '\r')
    (character : Char) : lineEnd ∉ writeChar character := by
  unfold writeChar
  split
  · rcases isLineEnd with rfl | rfl <;> decide
  · rcases isLineEnd with rfl | rfl <;> decide
  · rcases isLineEnd with rfl | rfl <;> decide
  · rcases isLineEnd with rfl | rfl <;> decide
  · rename_i notLineFeed notReturn
    rw [List.mem_singleton]
    rintro rfl
    exact isLineEnd.elim notLineFeed notReturn

theorem not_mem_quote {lineEnd : Char} (isLineEnd : lineEnd = '\n' ∨ lineEnd = '\r')
    (text : String) : lineEnd ∉ (quote text).toList := by
  have notApostrophe : lineEnd ≠ '\'' := by
    rcases isLineEnd with rfl | rfl <;> decide
  have notInside : lineEnd ∉ body text.toList := by
    rw [body, List.mem_flatMap]
    rintro ⟨character, -, isIn⟩
    exact not_mem_writeChar isLineEnd character isIn
  rw [toList_quote, write, List.mem_cons, List.mem_append, List.mem_singleton]
  exact not_or.mpr ⟨notApostrophe, not_or.mpr ⟨notInside, notApostrophe⟩⟩

end Text.Literal

/-! ## Literals in a program -/

namespace Script

open Text

/-- Two texts that agree up to a literal and go on from there agree in what the literal quotes. -/
theorem quoted_inj {opening first second behind others : String}
    (same : opening ++ (Literal.quote first ++ behind) =
      opening ++ (Literal.quote second ++ others)) :
    first = second ∧ behind = others := by
  have characters := congrArg String.toList same
  simp only [String.toList_append, List.append_cancel_left_eq] at characters
  obtain ⟨label, rest⟩ := Literal.quote_append_inj characters
  exact ⟨label, String.toList_inj.mp rest⟩

variable (dialect : Dialect)

theorem registerCallable_append (kind : LabelKind) (label : String) (callable : Callable ν)
    (after : String) : registerCallable dialect kind label callable ++ after =
      kindName dialect kind ++ "(" ++
        (Literal.quote label ++ (", " ++ callable.source ++ ");" ++ after)) := by
  simp only [registerCallable, String.append_assoc]

theorem openSuite_append (label after : String) : openSuite dialect label ++ after =
    dialect.describe ++ "(" ++ (Literal.quote label ++ (", function() \x7b" ++ after)) := by
  simp only [openSuite, String.append_assoc]

theorem loadModule_append (name after : String) : loadModule dialect name ++ after =
    dialect.module ++ "(" ++ (Literal.quote name ++ (");" ++ after)) := by
  simp only [loadModule, String.append_assoc]

end Script

open Text in
/-- The literal of a text is read back as exactly that text, whatever follows it, and no front of
it is a literal.  It stands on one line, and no other text has it.  So two calls of a program
whose texts go on alike have the same label, or load the same module. -/
theorem quote_reads_back_exactly (text : String) :
    (∀ after, Literal.read ((Literal.quote text).toList ++ after) = some (text.toList, after)) ∧
      (∀ front rest, (Literal.quote text).toList = front ++ rest → rest ≠ [] →
        Literal.read front = none) ∧
      '\n' ∉ (Literal.quote text).toList ∧ '\r' ∉ (Literal.quote text).toList ∧
      (∀ other, Literal.quote text = Literal.quote other → text = other) ∧
      ∀ (dialect : Dialect) (other after others : String),
        (∀ kind (callable counterpart : Callable ν),
          Script.registerCallable dialect kind text callable ++ after =
            Script.registerCallable dialect kind other counterpart ++ others → text = other) ∧
        (Script.openSuite dialect text ++ after = Script.openSuite dialect other ++ others →
          text = other ∧ after = others) ∧
        (Script.loadModule dialect text ++ after = Script.loadModule dialect other ++ others →
          text = other ∧ after = others) := by
  refine ⟨Literal.read_quote text, fun _ _ => Literal.read_of_cut,
    Literal.not_mem_quote (.inl rfl) text, Literal.not_mem_quote (.inr rfl) text, ?_, ?_⟩
  · intro other same
    have characters : (Literal.quote text).toList ++ [] = (Literal.quote other).toList ++ [] := by
      rw [same]
    exact (Literal.quote_append_inj characters).1
  · intro dialect other after others
    refine ⟨?_, ?_, ?_⟩
    · intro kind callable counterpart same
      rw [Script.registerCallable_append, Script.registerCallable_append] at same
      exact (Script.quoted_inj same).1
    · intro same
      rw [Script.openSuite_append, Script.openSuite_append] at same
      obtain ⟨label, behind⟩ := Script.quoted_inj same
      exact ⟨label, (String.append_right_inj _).mp behind⟩
    · intro same
      rw [Script.loadModule_append, Script.loadModule_append] at same
      obtain ⟨name, behind⟩ := Script.quoted_inj same
      exact ⟨name, (String.append_right_inj _).mp behind⟩

end SuiteOutline
