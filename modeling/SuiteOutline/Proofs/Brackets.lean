import SuiteOutline.Host
import SuiteOutline.Text.Literal

/-!
# Balanced texts

A balanced text takes a scan that is outside quotes back to where it was, whatever brackets are
open around it.  So balanced texts may stand one after another and inside brackets, and the literal
of any text is balanced: nothing that it quotes opens or closes anything.
-/

namespace SuiteOutline

namespace BracketScan

/-- Whether a character means nothing to a scan outside quotes. -/
def isPlain (character : Char) : Bool :=
  character != '\'' && !isOpening character && (opening? character).isNone

/-- What one character does to a scan. -/
inductive Takes : BracketScan → Char → BracketScan → Prop where
  | escaped {opened : List Char} {character : Char} :
      Takes ⟨opened, true, true⟩ character ⟨opened, true, false⟩
  | backslash {opened : List Char} : Takes ⟨opened, true, false⟩ '\\' ⟨opened, true, true⟩
  | closeQuote {opened : List Char} : Takes ⟨opened, true, false⟩ '\'' ⟨opened, false, false⟩
  | quoted {opened : List Char} {character : Char} (notBackslash : character ≠ '\\')
      (notQuote : character ≠ '\'') :
      Takes ⟨opened, true, false⟩ character ⟨opened, true, false⟩
  | openQuote {opened : List Char} {escaped : Bool} :
      Takes ⟨opened, false, escaped⟩ '\'' ⟨opened, true, escaped⟩
  | openBracket {opened : List Char} {escaped : Bool} {character : Char}
      (opens : isOpening character = true) :
      Takes ⟨opened, false, escaped⟩ character ⟨character :: opened, false, escaped⟩
  | closeBracket {opened : List Char} {escaped : Bool} {character wanted : Char}
      (closes : opening? character = some wanted) :
      Takes ⟨wanted :: opened, false, escaped⟩ character ⟨opened, false, escaped⟩
  | plain {opened : List Char} {escaped : Bool} {character : Char}
      (isPlain : isPlain character = true) :
      Takes ⟨opened, false, escaped⟩ character ⟨opened, false, escaped⟩

theorem ne_quote_of_isOpening {character : Char} (opens : isOpening character = true) :
    character ≠ '\'' := by
  rintro rfl
  cases opens

theorem closing_iff {character wanted : Char} :
    opening? character = some wanted ↔
      (character = ')' ∧ wanted = '(') ∨ (character = '\x7d' ∧ wanted = '\x7b') ∨
        (character = ']' ∧ wanted = '[') := by
  constructor
  · intro closes
    unfold opening? at closes
    split at closes <;> simp_all [eq_comm]
  · rintro (⟨rfl, rfl⟩ | ⟨rfl, rfl⟩ | ⟨rfl, rfl⟩) <;> rfl

theorem step_eq_some_iff {scan next : BracketScan} {character : Char} :
    scan.step character = some next ↔ Takes scan character next := by
  constructor
  · intro steps
    obtain ⟨opened, quoted, escaped⟩ := scan
    cases quoted with
    | true =>
        cases escaped with
        | true =>
            cases steps
            exact .escaped
        | false =>
            simp only [step, if_true, Bool.false_eq_true, if_false, beq_iff_eq] at steps
            split at steps
            · rename_i backslash
              subst backslash
              cases steps
              exact .backslash
            · rename_i notBackslash
              split at steps
              · rename_i quote
                subst quote
                cases steps
                exact .closeQuote
              · rename_i notQuote
                cases steps
                exact .quoted notBackslash notQuote
    | false =>
        simp only [step, Bool.false_eq_true, if_false, beq_iff_eq] at steps
        split at steps
        · rename_i quote
          subst quote
          cases steps
          exact .openQuote
        · rename_i notQuote
          split at steps
          · rename_i opens
            cases steps
            exact .openBracket opens
          · rename_i notOpening
            split at steps
            · rename_i notClosing
              cases steps
              refine .plain ?_
              simp [isPlain, notQuote, notOpening, notClosing]
            · rename_i wanted closes
              cases opened with
              | nil => cases steps
              | cons innermost others =>
                  simp only at steps
                  split at steps
                  · rename_i same
                    subst same
                    cases steps
                    exact .closeBracket closes
                  · cases steps
  · intro takes
    cases takes with
    | escaped => rfl
    | backslash => rfl
    | closeQuote => rfl
    | quoted notBackslash notQuote => simp [step, notBackslash, notQuote]
    | openQuote => rfl
    | openBracket opens => simp [step, ne_quote_of_isOpening opens, opens]
    | closeBracket closes =>
        rcases closing_iff.mp closes with ⟨rfl, rfl⟩ | ⟨rfl, rfl⟩ | ⟨rfl, rfl⟩ <;> rfl
    | plain isPlain =>
        simp only [BracketScan.isPlain, Bool.and_eq_true, bne_iff_ne, ne_eq, Bool.not_eq_true',
          Option.isNone_iff_eq_none] at isPlain
        simp [step, isPlain]

/-- What a text does to a scan, character by character. -/
inductive Reads : BracketScan → List Char → BracketScan → Prop where
  | nil {scan : BracketScan} : Reads scan [] scan
  | cons {scan next last : BracketScan} {character : Char} {rest : List Char}
      (takes : Takes scan character next) (more : Reads next rest last) :
      Reads scan (character :: rest) last

theorem steps_eq_some_iff {scan last : BracketScan} {text : List Char} :
    scan.steps text = some last ↔ Reads scan text last := by
  constructor
  · intro steps
    induction text generalizing scan with
    | nil =>
        cases steps
        exact .nil
    | cons character rest ih =>
        rw [BracketScan.steps] at steps
        cases stepped : scan.step character with
        | none =>
            rw [stepped] at steps
            cases steps
        | some next =>
            rw [stepped] at steps
            exact .cons (step_eq_some_iff.mp stepped) (ih steps)
  · intro reads
    induction reads with
    | nil => rfl
    | cons takes more ih =>
        rw [steps, step_eq_some_iff.mpr takes]
        exact ih

/-- The scan with further brackets open around those of its own. -/
def within (scan : BracketScan) (around : List Char) : BracketScan :=
  { scan with opened := scan.opened ++ around }

/-- Brackets around a scan change nothing of a step that the scan can take. -/
theorem Takes.within {scan next : BracketScan} {character : Char}
    (takes : Takes scan character next) (around : List Char) :
    Takes (scan.within around) character (next.within around) := by
  cases takes with
  | escaped => exact .escaped
  | backslash => exact .backslash
  | closeQuote => exact .closeQuote
  | quoted notBackslash notQuote => exact .quoted notBackslash notQuote
  | openQuote => exact .openQuote
  | openBracket opens => exact .openBracket opens
  | closeBracket closes => exact .closeBracket closes
  | plain isPlain => exact .plain isPlain

/-- A scan that was behind a backslash only inside quotes stays so. -/
theorem Takes.escaped_imp_quoted {scan next : BracketScan} {character : Char}
    (takes : Takes scan character next) (sound : scan.escaped = true → scan.quoted = true) :
    next.escaped = true → next.quoted = true := by
  cases takes <;> simp_all

namespace Reads

variable {scan next last : BracketScan} {first second text : List Char}

theorem append (front : Reads scan first next) (back : Reads next second last) :
    Reads scan (first ++ second) last := by
  induction front with
  | nil => exact back
  | cons takes more ih => exact .cons takes (ih back)

theorem within (reads : Reads scan text last) (around : List Char) :
    Reads (scan.within around) text (last.within around) := by
  induction reads with
  | nil => exact .nil
  | cons takes more ih => exact .cons (takes.within around) ih

theorem escaped_imp_quoted (reads : Reads scan text last)
    (sound : scan.escaped = true → scan.quoted = true) :
    last.escaped = true → last.quoted = true := by
  induction reads with
  | nil => exact sound
  | cons takes more ih => exact ih (takes.escaped_imp_quoted sound)

end Reads

/-! ## Neutral texts -/

/-- A text takes every scan outside quotes back to where it was. -/
def Neutral (text : List Char) : Prop :=
  ∀ opened, Reads ⟨opened, false, false⟩ text ⟨opened, false, false⟩

theorem isBalanced_iff_neutral (text : String) :
    isBalanced text = true ↔ Neutral text.toList := by
  rw [isBalanced]
  constructor
  · intro balanced opened
    cases steps : start.steps text.toList with
    | none => simp [steps] at balanced
    | some last =>
        have reads := steps_eq_some_iff.mp steps
        have sound := reads.escaped_imp_quoted (by simp [start])
        obtain ⟨left, quoted, escaped⟩ := last
        simp only [steps, Bool.and_eq_true, List.isEmpty_iff, Bool.not_eq_true'] at balanced
        obtain ⟨rfl, rfl⟩ := balanced
        cases escaped with
        | true => simp at sound
        | false => exact reads.within opened
  · intro neutral
    have steps : start.steps text.toList = some start := steps_eq_some_iff.mpr (neutral [])
    rw [steps]
    rfl

namespace Neutral

variable {first second text : List Char}

theorem nil : Neutral [] :=
  fun _ => .nil

theorem append (front : Neutral first) (back : Neutral second) : Neutral (first ++ second) :=
  fun opened => (front opened).append (back opened)

theorem plain (allPlain : text.all isPlain = true) : Neutral text := by
  induction text with
  | nil => exact nil
  | cons character rest ih =>
      rw [List.all_cons, Bool.and_eq_true] at allPlain
      intro opened
      exact .cons (.plain allPlain.1) (ih allPlain.2 opened)

theorem enclose (inner : Neutral text) {opening closing : Char}
    (closes : opening? closing = some opening) : Neutral (opening :: (text ++ [closing])) := by
  have opens : isOpening opening = true := by
    rcases closing_iff.mp closes with ⟨-, rfl⟩ | ⟨-, rfl⟩ | ⟨-, rfl⟩ <;> rfl
  intro opened
  have closed : Reads ⟨opening :: opened, false, false⟩ [closing] ⟨opened, false, false⟩ :=
    .cons (.closeBracket closes) .nil
  exact .cons (.openBracket opens) ((inner (opening :: opened)).append closed)

theorem flatten {texts : List (List Char)} (each : ∀ text ∈ texts, Neutral text) :
    Neutral texts.flatten := by
  induction texts with
  | nil => exact nil
  | cons first rest ih =>
      rw [List.flatten_cons]
      exact (each first List.mem_cons_self).append
        (ih fun text member => each text (List.mem_cons_of_mem _ member))

end Neutral

open Text

/-- One character of a literal leaves the scan inside the literal. -/
theorem reads_writeChar (opened : List Char) (character : Char) :
    Reads ⟨opened, true, false⟩ (Literal.writeChar character) ⟨opened, true, false⟩ := by
  unfold Literal.writeChar
  split
  · exact .cons .backslash (.cons .escaped .nil)
  · exact .cons .backslash (.cons .escaped .nil)
  · exact .cons .backslash (.cons .escaped .nil)
  · exact .cons .backslash (.cons .escaped .nil)
  · rename_i notBackslash notQuote _ _
    exact .cons (.quoted notBackslash notQuote) .nil

theorem neutral_write (text : List Char) : Neutral (Literal.write text) := by
  intro opened
  have inside : Reads ⟨opened, true, false⟩ (Literal.body text) ⟨opened, true, false⟩ := by
    induction text with
    | nil => exact .nil
    | cons character rest ih => exact (reads_writeChar opened character).append ih
  exact .cons .openQuote (inside.append (.cons .closeQuote .nil))

end BracketScan

end SuiteOutline
