import Mathlib.Data.List.TakeWhile
import SuiteOutline.Json

/-!
# Written data is unambiguous

A written value tells where it ends: two texts that begin with written values and agree go on alike
behind the same value.  Quotes end strings because every character inside a string has a spelling
that begins with no bare quote; commas and brackets end the elements of arrays and objects; and a
number ends at what is no digit, which is all that may stand behind one.  Both ways of writing are
of this kind, and differ only in the blanks between the parts.
-/

namespace SuiteOutline.Json

/-! ## Strings -/

def hexValue (digit : Char) : Nat :=
  if digit.isDigit then digit.toNat - 48 else digit.toNat - 87

def unescaped (letter : Char) : Char :=
  match letter with
  | 'n' => '\n'
  | 'r' => '\r'
  | 't' => '\t'
  | 'b' => '\x08'
  | 'f' => '\x0c'
  | other => other

def readChar : List Char → Option (Char × List Char)
  | [] => none
  | '"' :: _ => none
  | '\\' :: 'u' :: '0' :: '0' :: high :: low :: rest =>
      some (Char.ofNat (16 * hexValue high + hexValue low), rest)
  | '\\' :: letter :: rest => some (unescaped letter, rest)
  | character :: rest => some (character, rest)

theorem hexValue_hexPair : ∀ code < 32,
    16 * hexValue (Nat.digitChar (code / 16)) + hexValue (Nat.digitChar (code % 16)) = code := by
  decide

/-- The spelling of a character tells where it ends. -/
theorem readChar_escapedChar (character : Char) (rest : List Char) :
    readChar (escapedChar character ++ rest) = some (character, rest) := by
  unfold escapedChar
  split
  case h_8 other notQuote notBackslash _ _ _ _ _ =>
    split
    · rename_i control
      rw [hexPair]
      simp only [List.cons_append, List.nil_append, readChar, hexValue_hexPair _ control,
        Char.ofNat_toNat]
    · rw [List.cons_append, List.nil_append, readChar]
      · exact notQuote
      · intro _ _ _ isBackslash
        exact absurd isBackslash notBackslash
      · intro _ _ isBackslash
        exact absurd isBackslash notBackslash
  all_goals rfl

theorem flatMap_escapedChar_inj {first second after others : List Char}
    (same : first.flatMap escapedChar ++ '"' :: after =
      second.flatMap escapedChar ++ '"' :: others) : first = second ∧ after = others := by
  have read := congrArg readChar same
  induction first generalizing second with
  | nil =>
      cases second with
      | nil => exact ⟨rfl, (List.cons.inj same).2⟩
      | cons other rest =>
          rw [List.flatMap_cons, List.append_assoc, readChar_escapedChar] at read
          cases read
  | cons character rest ih =>
      rw [List.flatMap_cons, List.append_assoc, readChar_escapedChar] at read
      cases second with
      | nil => cases read
      | cons other more =>
          rw [List.flatMap_cons, List.append_assoc, readChar_escapedChar, Option.some.injEq,
            Prod.mk.injEq] at read
          obtain ⟨rfl, behind⟩ := read
          obtain ⟨rfl, rfl⟩ := ih behind (congrArg readChar behind)
          exact ⟨rfl, rfl⟩

theorem toList_writtenString (text : String) :
    (writtenString text).toList = '"' :: (text.toList.flatMap escapedChar ++ ['"']) := by
  rw [writtenString, String.toList_ofList, List.cons_append]

theorem writtenString_inj {first second : String} {after others : List Char}
    (same : (writtenString first).toList ++ after = (writtenString second).toList ++ others) :
    first = second ∧ after = others := by
  rw [toList_writtenString, toList_writtenString, List.cons_append, List.cons_append,
    List.append_assoc, List.append_assoc] at same
  obtain ⟨characters, behind⟩ := flatMap_escapedChar_inj (List.cons.inj same).2
  exact ⟨String.toList_inj.mp characters, behind⟩

/-! ## Numbers -/

def DigitFree (after : List Char) : Prop :=
  after.takeWhile Char.isDigit = []

theorem digitFree_nil : DigitFree [] :=
  rfl

theorem digitFree_cons {next : Char} (notDigit : next.isDigit = false) (rest : List Char) :
    DigitFree (next :: rest) := by
  rw [DigitFree, List.takeWhile_cons, notDigit]
  rfl

theorem digits_inj {first second : Nat} {after others : List Char} (ends : DigitFree after)
    (endsToo : DigitFree others)
    (same : Nat.toDigits 10 first ++ after = Nat.toDigits 10 second ++ others) :
    first = second ∧ after = others := by
  have digits (number : Nat) {behind : List Char} (free : DigitFree behind) :
      (Nat.toDigits 10 number ++ behind).takeWhile Char.isDigit = Nat.toDigits 10 number := by
    rw [List.takeWhile_append_of_pos, free, List.append_nil]
    exact fun digit isIn => Nat.isDigit_of_mem_toDigits (by decide) (by decide) isIn
  have written : Nat.toDigits 10 first = Nat.toDigits 10 second := by
    rw [← digits first ends, same, digits second endsToo]
  refine ⟨?_, List.append_cancel_left (written ▸ same)⟩
  rw [← @Nat.ofDigitChars_ten_toDigits first, written, Nat.ofDigitChars_ten_toDigits]

theorem exists_digit (number : Nat) :
    ∃ digit rest, Nat.toDigits 10 number = digit :: rest ∧ digit.isDigit = true := by
  cases digits : Nat.toDigits 10 number with
  | nil => exact absurd digits Nat.toDigits_ne_nil
  | cons digit rest =>
      have isIn : digit ∈ Nat.toDigits 10 number := by
        rw [digits]
        exact List.mem_cons_self
      exact ⟨digit, rest, rfl, Nat.isDigit_of_mem_toDigits (by decide) (by decide) isIn⟩

theorem toList_ofNat (number : Nat) :
    (toString (Int.ofNat number)).toList = Nat.toDigits 10 number :=
  Nat.toList_repr

theorem toList_negSucc (number : Nat) :
    (toString (Int.negSucc number)).toList = '-' :: Nat.toDigits 10 (number + 1) := by
  rw [Int.toString_eq_repr, Int.repr, String.toList_append, Nat.toList_repr]
  rfl

theorem digits_append_ne (number : Nat) (after rest : List Char) :
    Nat.toDigits 10 number ++ after ≠ '-' :: rest := by
  obtain ⟨digit, more, digits, isDigit⟩ := exists_digit number
  rw [digits, List.cons_append]
  intro same
  rw [(List.cons.inj same).1] at isDigit
  cases isDigit

theorem integer_inj {first second : Int} {after others : List Char} (ends : DigitFree after)
    (endsToo : DigitFree others)
    (same : (toString first).toList ++ after = (toString second).toList ++ others) :
    first = second ∧ after = others := by
  cases first with
  | ofNat number =>
      rw [toList_ofNat] at same
      cases second with
      | ofNat other =>
          rw [toList_ofNat] at same
          exact (digits_inj ends endsToo same).imp (congrArg Int.ofNat) id
      | negSucc other =>
          rw [toList_negSucc] at same
          exact absurd same (digits_append_ne number after _)
  | negSucc number =>
      rw [toList_negSucc] at same
      cases second with
      | ofNat other =>
          rw [toList_ofNat] at same
          exact absurd same.symm (digits_append_ne other others _)
      | negSucc other =>
          rw [toList_negSucc] at same
          obtain ⟨numbers, behind⟩ := digits_inj ends endsToo (List.cons.inj same).2
          exact ⟨congrArg Int.negSucc (Nat.succ.inj numbers), behind⟩

/-! ## Layouts -/

/-- The blanks of a way of writing: what stands between the name of a member and its value, and
what begins a line at a level. -/
structure Layout where
  colon : List Char
  line : Nat → List Char
  blank : ∀ level, ∀ character ∈ line level, character.isWhitespace = true

def Layout.compact : Layout where
  colon := [':']
  line _ := []
  blank := by simp

def Layout.pretty : Layout where
  colon := [':', ' ']
  line level := '\n' :: List.replicate (2 * level) ' '
  blank := by
    intro level character isIn
    rcases List.mem_cons.mp isIn with rfl | isSpace
    · rfl
    · rw [(List.mem_replicate.mp isSpace).2]
      rfl

namespace Layout

variable (layout : Layout)

def further (level : Nat) (closing : Char) (parts : List (List Char)) : List Char :=
  parts.flatMap (fun part => ',' :: (layout.line (level + 1) ++ part)) ++
    (layout.line level ++ [closing])

def enclosed (level : Nat) (opening closing : Char) : List (List Char) → List Char
  | [] => [opening, closing]
  | part :: rest =>
      opening :: (layout.line (level + 1) ++ part ++ layout.further level closing rest)

end Layout

mutual

def laid (layout : Layout) (level : Nat) : Json → List Char
  | .null => "null".toList
  | .boolean value => (if value then "true" else "false").toList
  | .integer value => (toString value).toList
  | .string value => (writtenString value).toList
  | .array items => layout.enclosed level '[' ']' (laidItems layout (level + 1) items)
  | .object members =>
      layout.enclosed level '\x7b' '\x7d' (laidMembers layout (level + 1) members)

def laidItems (layout : Layout) (level : Nat) : List Json → List (List Char)
  | [] => []
  | item :: rest => laid layout level item :: laidItems layout level rest

def laidMembers (layout : Layout) (level : Nat) : List (String × Json) → List (List Char)
  | [] => []
  | (name, value) :: rest =>
      ((writtenString name).toList ++ (layout.colon ++ laid layout level value)) ::
        laidMembers layout level rest

end

def laidMember (layout : Layout) (level : Nat) (member : String × Json) : List Char :=
  (writtenString member.1).toList ++ (layout.colon ++ laid layout level member.2)

theorem laidItems_eq_map (layout : Layout) (level : Nat) (items : List Json) :
    laidItems layout level items = items.map (laid layout level) := by
  induction items with
  | nil => rfl
  | cons item rest ih => rw [laidItems, ih, List.map_cons]

theorem laidMembers_eq_map (layout : Layout) (level : Nat) (members : List (String × Json)) :
    laidMembers layout level members = members.map (laidMember layout level) := by
  induction members with
  | nil => rfl
  | cons member rest ih =>
      rw [laidMembers, ih]
      rfl

/-! ## Both ways of writing have a layout -/

theorem intercalate_cons {α : Type} (separator part : List α) (rest : List (List α)) :
    separator.intercalate (part :: rest) = part ++ rest.flatMap (separator ++ ·) := by
  induction rest generalizing part with
  | nil => rw [List.intercalate_singleton, List.flatMap_nil, List.append_nil]
  | cons next rest ih =>
      rw [List.intercalate_cons_cons, ih, List.flatMap_cons, List.append_assoc, List.append_assoc]

theorem toList_lineStart (level : Nat) : (lineStart level).toList = Layout.pretty.line level := by
  rw [lineStart, String.toList_append]
  exact congrArg ("\n".toList ++ ·) String.toList_ofList

theorem toList_bracketed {opening closing : String} (first last : Char)
    (opens : opening.toList = [first]) (closes : closing.toList = [last]) (level : Nat)
    (lines : List String) :
    (bracketed opening closing level lines).toList =
      Layout.pretty.enclosed level first last (lines.map String.toList) := by
  cases lines with
  | nil =>
      rw [bracketed, List.isEmpty_nil, if_pos rfl, String.toList_append, opens, closes]
      rfl
  | cons line rest =>
      rw [bracketed, List.isEmpty_cons, if_neg (by decide)]
      simp only [String.toList_append, String.toList_intercalate, List.map_cons, intercalate_cons,
        toList_lineStart, opens, closes, Layout.enclosed, Layout.further]
      simp

theorem toList_brackets {opening closing : String} (first last : Char)
    (opens : opening.toList = [first]) (closes : closing.toList = [last]) (level : Nat)
    (parts : List String) :
    (opening ++ ",".intercalate parts ++ closing).toList =
      Layout.compact.enclosed level first last (parts.map String.toList) := by
  cases parts with
  | nil =>
      rw [String.intercalate_nil, String.toList_append, String.toList_append, opens, closes]
      rfl
  | cons part rest =>
      simp only [String.toList_append, String.toList_intercalate, List.map_cons, intercalate_cons,
        opens, closes, Layout.enclosed, Layout.further, Layout.compact]
      simp

mutual

theorem toList_compact : ∀ (value : Json) (level : Nat),
    value.compact.toList = laid .compact level value
  | .null, _ | .boolean _, _ | .integer _, _ | .string _, _ => by
      rw [Json.compact, laid]
  | .array items, level => by
      rw [Json.compact, laid, toList_brackets '[' ']' rfl rfl level,
        map_toList_compactItems items (level + 1)]
  | .object members, level => by
      rw [Json.compact, laid, toList_brackets '\x7b' '\x7d' rfl rfl level,
        map_toList_compactMembers members (level + 1)]

theorem map_toList_compactItems : ∀ (items : List Json) (level : Nat),
    (compactItems items).map String.toList = laidItems .compact level items
  | [], _ => rfl
  | item :: rest, level => by
      rw [compactItems, laidItems, List.map_cons, toList_compact item level,
        map_toList_compactItems rest level]

theorem map_toList_compactMembers : ∀ (members : List (String × Json)) (level : Nat),
    (compactMembers members).map String.toList = laidMembers .compact level members
  | [], _ => rfl
  | (name, value) :: rest, level => by
      rw [compactMembers, laidMembers, List.map_cons, String.toList_append, String.toList_append,
        toList_compact value level, map_toList_compactMembers rest level, List.append_assoc]
      rfl

end

mutual

theorem toList_prettyAt : ∀ (value : Json) (level : Nat),
    (prettyAt level value).toList = laid .pretty level value
  | .null, _ | .boolean _, _ | .integer _, _ | .string _, _ => by
      rw [prettyAt, laid]
  | .array items, level => by
      rw [prettyAt, laid, toList_bracketed '[' ']' rfl rfl, map_toList_prettyItems]
  | .object members, level => by
      rw [prettyAt, laid, toList_bracketed '\x7b' '\x7d' rfl rfl,
        map_toList_prettyMembers]

theorem map_toList_prettyItems : ∀ (items : List Json) (level : Nat),
    (prettyItems level items).map String.toList = laidItems .pretty level items
  | [], _ => rfl
  | item :: rest, level => by
      rw [prettyItems, laidItems, List.map_cons, toList_prettyAt item level,
        map_toList_prettyItems rest level]

theorem map_toList_prettyMembers : ∀ (members : List (String × Json)) (level : Nat),
    (prettyMembers level members).map String.toList = laidMembers .pretty level members
  | [], _ => rfl
  | (name, value) :: rest, level => by
      rw [prettyMembers, laidMembers, List.map_cons, String.toList_append, String.toList_append,
        toList_prettyAt value level, map_toList_prettyMembers rest level, List.append_assoc]
      rfl

end

/-! ## Where the parts of a value end -/

/-- Up to what is no digit, the text of an element is that of no other one. -/
structure Cuts {α : Type} (write : α → List Char) (element : α) : Prop where
  inj {other : α} {after others : List Char} (ends : DigitFree after) (endsToo : DigitFree others)
    (same : write element ++ after = write other ++ others) : element = other ∧ after = others

inductive Closing : Char → Prop where
  | array : Closing ']'
  | object : Closing '\x7d'

namespace Layout

variable (layout : Layout) {level : Nat} {closing : Char}

/-- Only blanks may stand before what the layout begins a line with. -/
theorem line_append_cons (level : Nat) (next : Char) (rest : List Char) :
    ∃ first more, layout.line level ++ next :: rest = first :: more ∧
      (first.isWhitespace = true ∨ first = next) := by
  cases blanks : layout.line level with
  | nil => exact ⟨next, rest, rfl, .inr rfl⟩
  | cons blank more =>
      refine ⟨blank, more ++ next :: rest, rfl, .inl (layout.blank level blank ?_)⟩
      rw [blanks]
      exact List.mem_cons_self

theorem further_cons (level : Nat) (closing : Char) (part : List Char) (rest : List (List Char))
    (after : List Char) :
    layout.further level closing (part :: rest) ++ after =
      ',' ::
        (layout.line (level + 1) ++ (part ++ (layout.further level closing rest ++ after))) := by
  simp [further]

theorem further_nil_append (level : Nat) (closing : Char) (after : List Char) :
    layout.further level closing [] ++ after = layout.line level ++ closing :: after := by
  simp [further]

theorem further_nil_ne (isClosing : Closing closing) (part : List Char) (rest : List (List Char))
    (after others : List Char) :
    layout.further level closing [] ++ after ≠
      layout.further level closing (part :: rest) ++ others := by
  rw [further_nil_append, further_cons]
  obtain ⟨first, more, split, starts⟩ := layout.line_append_cons level closing after
  rw [split]
  intro same
  rw [(List.cons.inj same).1] at starts
  cases isClosing <;> simp [Char.isWhitespace] at starts

theorem digitFree_further (isClosing : Closing closing) (parts : List (List Char))
    (after : List Char) : DigitFree (layout.further level closing parts ++ after) := by
  cases parts with
  | nil =>
      rw [further_nil_append]
      obtain ⟨first, more, split, isBlank | rfl⟩ := layout.line_append_cons level closing after
      · rw [split]
        refine digitFree_cons ?_ _
        simp only [Char.isWhitespace, Bool.or_eq_true, decide_eq_true_eq] at isBlank
        rcases isBlank with ((rfl | rfl) | rfl) | rfl <;> rfl
      · rw [split]
        exact digitFree_cons (by cases isClosing <;> rfl) _
  | cons part rest =>
      rw [further_cons]
      exact digitFree_cons rfl _

variable {α : Type} {write : α → List Char} {elements others : List α} {after behind : List Char}

theorem further_inj (isClosing : Closing closing)
    (cuts : ∀ element ∈ elements, Cuts write element)
    (same : layout.further level closing (elements.map write) ++ after =
      layout.further level closing (others.map write) ++ behind) :
    elements = others ∧ after = behind := by
  induction elements generalizing others with
  | nil =>
      cases others with
      | nil => exact ⟨rfl, List.append_cancel_left same⟩
      | cons other rest => exact absurd same (layout.further_nil_ne isClosing _ _ _ _)
  | cons element rest ih =>
      cases others with
      | nil => exact absurd same.symm (layout.further_nil_ne isClosing _ _ _ _)
      | cons other more =>
          rw [List.map_cons, List.map_cons, further_cons, further_cons] at same
          have part := List.append_cancel_left (List.cons.inj same).2
          obtain ⟨rfl, tail⟩ := (cuts element List.mem_cons_self).inj
            (layout.digitFree_further isClosing _ _) (layout.digitFree_further isClosing _ _) part
          obtain ⟨rfl, rfl⟩ := ih (fun later isIn => cuts later (List.mem_cons_of_mem _ isIn)) tail
          exact ⟨rfl, rfl⟩

theorem enclosed_nil_ne (isClosing : Closing closing) {opening first : Char}
    (starts : first ≠ closing) (part : List Char) (rest : List (List Char)) :
    layout.enclosed level opening closing [] ++ after ≠
      layout.enclosed level opening closing ((first :: part) :: rest) ++ behind := by
  simp only [enclosed, List.cons_append, List.append_assoc]
  obtain ⟨next, more, split, isBlank | isFirst⟩ := layout.line_append_cons (level + 1) first
    (part ++ (layout.further level closing rest ++ behind))
  · rw [split]
    intro same
    have isClosing' := (List.cons.inj (List.cons.inj same).2).1
    rw [← isClosing'] at isBlank
    cases isClosing <;> simp [Char.isWhitespace] at isBlank
  · rw [split]
    intro same
    exact starts (isFirst.symm.trans (List.cons.inj (List.cons.inj same).2).1.symm)

theorem enclosed_inj (isClosing : Closing closing) (opening : Char)
    (starts : ∀ element, ∃ first rest, write element = first :: rest ∧ first ≠ closing)
    (cuts : ∀ element ∈ elements, Cuts write element)
    (same : layout.enclosed level opening closing (elements.map write) ++ after =
      layout.enclosed level opening closing (others.map write) ++ behind) :
    elements = others ∧ after = behind := by
  cases elements with
  | nil =>
      cases others with
      | nil => exact ⟨rfl, List.append_cancel_left same⟩
      | cons other more =>
          obtain ⟨first, rest, written, notClosing⟩ := starts other
          rw [List.map_nil, List.map_cons, written] at same
          exact absurd same (layout.enclosed_nil_ne isClosing notClosing _ _)
  | cons element rest =>
      cases others with
      | nil =>
          obtain ⟨first, more, written, notClosing⟩ := starts element
          rw [List.map_nil, List.map_cons, written] at same
          exact absurd same.symm (layout.enclosed_nil_ne isClosing notClosing _ _)
      | cons other more =>
          simp only [List.map_cons, enclosed, List.cons_append, List.append_assoc] at same
          have part := List.append_cancel_left (List.cons.inj same).2
          obtain ⟨rfl, tail⟩ := (cuts element List.mem_cons_self).inj
            (layout.digitFree_further isClosing _ _) (layout.digitFree_further isClosing _ _) part
          obtain ⟨rfl, rfl⟩ := layout.further_inj isClosing
            (fun later isIn => cuts later (List.mem_cons_of_mem _ isIn)) tail
          exact ⟨rfl, rfl⟩

end Layout

/-! ## Values -/

/-- The kind of value that a first character announces, as one character of that kind. -/
def announced (first : Char) : Char :=
  if first.isDigit ∨ first = '-' then '0' else if first = 'f' then 't' else first

/-- The kind of a value, as one character with which such values begin. -/
def lead : Json → Char
  | .null => 'n'
  | .boolean _ => 't'
  | .integer _ => '0'
  | .string _ => '"'
  | .array _ => '['
  | .object _ => '\x7b'

theorem Layout.exists_cons_enclosed (layout : Layout) (level : Nat) (opening closing : Char)
    (parts : List (List Char)) :
    ∃ rest, layout.enclosed level opening closing parts = opening :: rest := by
  cases parts <;> exact ⟨_, rfl⟩

theorem exists_cons_laid (layout : Layout) (level : Nat) (value : Json) :
    ∃ first rest, laid layout level value = first :: rest ∧ announced first = value.lead := by
  cases value with
  | null => exact ⟨'n', _, rfl, rfl⟩
  | boolean value =>
      cases value with
      | false => exact ⟨'f', _, rfl, rfl⟩
      | true => exact ⟨'t', _, rfl, rfl⟩
  | integer value =>
      cases value with
      | ofNat number =>
          obtain ⟨digit, rest, digits, isDigit⟩ := exists_digit number
          refine ⟨digit, rest, ?_, if_pos (.inl isDigit)⟩
          rw [laid, toList_ofNat, digits]
      | negSucc number =>
          refine ⟨'-', Nat.toDigits 10 (number + 1), ?_, rfl⟩
          rw [laid, toList_negSucc]
  | string text =>
      rw [laid, toList_writtenString]
      exact ⟨'"', _, rfl, rfl⟩
  | array items =>
      obtain ⟨rest, written⟩ := layout.exists_cons_enclosed level '[' ']'
        (laidItems layout (level + 1) items)
      refine ⟨'[', rest, ?_, rfl⟩
      rw [laid, written]
  | object members =>
      obtain ⟨rest, written⟩ := layout.exists_cons_enclosed level '\x7b' '\x7d'
        (laidMembers layout (level + 1) members)
      refine ⟨'\x7b', rest, ?_, rfl⟩
      rw [laid, written]

theorem lead_eq {layout : Layout} {level : Nat} {value other : Json} {after others : List Char}
    (same : laid layout level value ++ after = laid layout level other ++ others) :
    value.lead = other.lead := by
  obtain ⟨first, rest, written, kind⟩ := exists_cons_laid layout level value
  obtain ⟨next, more, writtenToo, kindToo⟩ := exists_cons_laid layout level other
  rw [written, writtenToo] at same
  rw [← kind, ← kindToo, (List.cons.inj same).1]

theorem laid_starts (layout : Layout) (level : Nat) (value : Json) :
    ∃ first rest, laid layout level value = first :: rest ∧ first ≠ ']' := by
  obtain ⟨first, rest, written, kind⟩ := exists_cons_laid layout level value
  refine ⟨first, rest, written, ?_⟩
  rintro rfl
  cases value <;> cases kind

theorem laidMember_starts (layout : Layout) (level : Nat) (member : String × Json) :
    ∃ first rest, laidMember layout level member = first :: rest ∧ first ≠ '\x7d' := by
  obtain ⟨name, value⟩ := member
  rw [laidMember, toList_writtenString]
  exact ⟨'"', _, rfl, by decide⟩

theorem Cuts.member {layout : Layout} {level : Nat} {value : Json}
    (cuts : Cuts (laid layout level) value) {name : String} :
    Cuts (laidMember layout level) (name, value) := by
  refine ⟨fun {other} {after others} ends endsToo same => ?_⟩
  simp only [laidMember, List.append_assoc] at same
  obtain ⟨names, behind⟩ := writtenString_inj same
  obtain ⟨values, tail⟩ := cuts.inj ends endsToo (List.append_cancel_left behind)
  exact ⟨Prod.ext names values, tail⟩

mutual

theorem laid_cuts (layout : Layout) : ∀ (value : Json) (level : Nat),
    Cuts (laid layout level) value
  | .null, level => by
      refine ⟨fun {other} {after others} ends endsToo same => ?_⟩
      have kind := lead_eq same
      cases other with
      | null => exact ⟨rfl, List.append_cancel_left same⟩
      | _ => cases kind
  | .boolean value, level => by
      refine ⟨fun {other} {after others} ends endsToo same => ?_⟩
      have kind := lead_eq same
      cases other with
      | boolean counterpart =>
          rw [laid, laid] at same
          cases value <;> cases counterpart <;> simp at same <;> exact ⟨rfl, same⟩
      | _ => cases kind
  | .integer value, level => by
      refine ⟨fun {other} {after others} ends endsToo same => ?_⟩
      have kind := lead_eq same
      cases other with
      | integer counterpart =>
          rw [laid, laid] at same
          exact (integer_inj ends endsToo same).imp (congrArg _) id
      | _ => cases kind
  | .string text, level => by
      refine ⟨fun {other} {after others} ends endsToo same => ?_⟩
      have kind := lead_eq same
      cases other with
      | string counterpart =>
          rw [laid, laid] at same
          exact (writtenString_inj same).imp (congrArg _) id
      | _ => cases kind
  | .array items, level => by
      refine ⟨fun {other} {after others} ends endsToo same => ?_⟩
      have kind := lead_eq same
      cases other with
      | array counterparts =>
          rw [laid, laid, laidItems_eq_map, laidItems_eq_map] at same
          exact (layout.enclosed_inj .array '[' (laid_starts layout (level + 1))
            (laidItems_cuts layout items (level + 1)) same).imp (congrArg _) id
      | _ => cases kind
  | .object members, level => by
      refine ⟨fun {other} {after others} ends endsToo same => ?_⟩
      have kind := lead_eq same
      cases other with
      | object counterparts =>
          rw [laid, laid, laidMembers_eq_map, laidMembers_eq_map] at same
          exact (layout.enclosed_inj .object '\x7b' (laidMember_starts layout (level + 1))
            (laidMembers_cuts layout members (level + 1)) same).imp (congrArg _) id
      | _ => cases kind

theorem laidItems_cuts (layout : Layout) : ∀ (items : List Json) (level : Nat),
    ∀ item ∈ items, Cuts (laid layout level) item
  | [], _ => List.forall_mem_nil _
  | first :: rest, level =>
      List.forall_mem_cons.mpr ⟨laid_cuts layout first level, laidItems_cuts layout rest level⟩

theorem laidMembers_cuts (layout : Layout) : ∀ (members : List (String × Json)) (level : Nat),
    ∀ member ∈ members, Cuts (laidMember layout level) member
  | [], _ => List.forall_mem_nil _
  | (_, value) :: rest, level =>
      List.forall_mem_cons.mpr
        ⟨(laid_cuts layout value level).member, laidMembers_cuts layout rest level⟩

end

theorem laid_inj {layout : Layout} {level : Nat} {value other : Json}
    (same : laid layout level value = laid layout level other) : value = other := by
  have whole : laid layout level value ++ [] = laid layout level other ++ [] := by
    rw [same]
  exact ((laid_cuts layout value level).inj digitFree_nil digitFree_nil whole).1

theorem compact_inj {value other : Json} : value.compact = other.compact ↔ value = other := by
  refine ⟨fun same => ?_, congrArg compact⟩
  have texts := congrArg String.toList same
  rw [toList_compact value 0, toList_compact other 0] at texts
  exact laid_inj texts

theorem pretty_inj {value other : Json} : value.pretty = other.pretty ↔ value = other := by
  refine ⟨fun same => ?_, congrArg pretty⟩
  have texts := congrArg String.toList same
  rw [pretty, pretty, toList_prettyAt, toList_prettyAt] at texts
  exact laid_inj texts

end SuiteOutline.Json
