import Mathlib.Data.List.Basic
import SuiteOutline.Script
import SuiteOutline.Text.Name

/-!
# Reading the text of an injection

The text that injects dependencies declares variables for them and installs one hook, a function
that copies its parameters into those variables.  The reader here knows nothing of dependencies: it
takes the declared variables, the parameters and the assignments from the text alone.  For names
that may stand as names of variables it recovers what the text was written from.
-/

namespace SuiteOutline

open Text

/-! ## Names in a text -/

namespace Text

theorem isNamePart_of_isNameStart {character : Char} (start : isNameStart character = true) :
    isNamePart character = true := by
  simp [isNamePart, start]

theorem isNamePart_of_mem {name : String} (named : isName name = true) {character : Char}
    (member : character ∈ name.toList) : isNamePart character = true := by
  rw [isName] at named
  cases characters : name.toList with
  | nil => simp [characters] at member
  | cons first rest =>
      rw [characters, isNameList, Bool.and_eq_true, List.all_eq_true] at named
      rw [characters, List.mem_cons] at member
      cases member with
      | inl isFirst =>
          rw [isFirst]
          exact isNamePart_of_isNameStart named.1
      | inr inRest => exact named.2 character inRest

theorem toList_ne_nil_of_isName {name : String} (named : isName name = true) :
    name.toList ≠ [] := by
  intro empty
  simp [isName, empty, isNameList] at named

theorem not_mem_of_isName {name : String} (named : isName name = true) {stop : Char}
    (outside : isNamePart stop = false) : stop ∉ name.toList := by
  intro member
  simp [isNamePart_of_mem named member] at outside

theorem isNamePart_separator {separator : Char}
    (member : separator ∈ [',', ';', ' ', ')', '\x7d']) : isNamePart separator = false := by
  simp only [List.mem_cons, List.not_mem_nil, or_false] at member
  rcases member with rfl | rfl | rfl | rfl | rfl <;> rfl

end Text

theorem Script.isName_parameter {dialect : Dialect} (marker : isNameStart dialect.marker = true)
    {name : String} (named : isName name = true) : isName (parameter dialect name) = true := by
  have inside : ∀ character ∈ name.toList, isNamePart character = true :=
    fun character member => isNamePart_of_mem named member
  simpa [isName, parameter, isNameList, marker, isNamePart_of_isNameStart marker] using inside

/-- What the text of an injection says: the variables that it declares, the parameters of its hook,
and the assignments that the hook makes, each a target and a source. -/
structure InjectionHook where
  declared : List String
  parameters : List String
  assignments : List (String × String)
  deriving DecidableEq

namespace InjectionHook

def ofNames (dialect : Dialect) (names : List String) : InjectionHook where
  declared := names
  parameters := names.map (Script.parameter dialect)
  assignments := names.map fun name => (name, Script.parameter dialect name)

/-! ## The reader -/

def upTo? (stop : Char) : List Char → Option (List Char × List Char)
  | [] => none
  | first :: rest =>
      if first = stop then some ([], rest)
      else (upTo? stop rest).map fun (inside, behind) => (first :: inside, behind)

def readNames (text : List Char) : List String :=
  if text.isEmpty then [] else (text.splitOn ',').map String.ofList

def readAssignment? (text : List Char) : Option (String × String) := do
  let (target, text) ← upTo? ' ' text
  let source ← text.dropPrefix? "= ".toList
  return (String.ofList target, String.ofList source)

def readAssignments? (text : List Char) : Option (List (String × String)) :=
  ((text.splitOn ';').filter (!·.isEmpty)).mapM readAssignment?

def read? (dialect : Dialect) (text : String) : Option InjectionHook := do
  let text ← text.toList.dropPrefix? "var ".toList
  let (declared, text) ← upTo? ';' text
  let text ← text.dropPrefix?
    (dialect.beforeEach ++ "(" ++ dialect.inject ++ "(function(").toList
  let (parameters, text) ← upTo? ')' text
  let text ← text.dropPrefix? " \x7b".toList
  let (body, text) ← upTo? '\x7d' text
  let assignments ← readAssignments? body
  if text = "));".toList then return ⟨readNames declared, readNames parameters, assignments⟩
  else none

theorem upTo?_append {stop : Char} {inside : List Char} (absent : stop ∉ inside)
    (behind : List Char) : upTo? stop (inside ++ stop :: behind) = some (inside, behind) := by
  induction inside with
  | nil => simp [upTo?]
  | cons first rest ih =>
      rw [List.mem_cons, not_or] at absent
      rw [List.cons_append, upTo?, if_neg (Ne.symm absent.1), ih absent.2]
      rfl

theorem dropPrefix?_append (beginning behind : List Char) :
    (beginning ++ behind).dropPrefix? beginning = some behind :=
  List.dropPrefix?_append_of_beq behind (by simp)

/-! ## The reader on a written text -/

variable {dialect : Dialect} {names : List String}

theorem not_mem_intercalate (named : ∀ name ∈ names, isName name = true) {stop : Char}
    (outside : isNamePart stop = false) (notComma : stop ≠ ',') :
    stop ∉ (",".intercalate names).toList := by
  induction names with
  | nil => simp
  | cons first rest ih =>
      have absentFirst : stop ∉ first.toList := not_mem_of_isName (named first (by simp)) outside
      have absentRest := ih fun name member => named name (List.mem_cons_of_mem _ member)
      cases rest with
      | nil => simpa using absentFirst
      | cons second others =>
          rw [String.intercalate_cons_cons]
          simp only [String.toList_append, List.mem_append, not_or]
          exact ⟨⟨absentFirst, by simpa using notComma⟩, absentRest⟩

theorem readNames_intercalate (named : ∀ name ∈ names, isName name = true) :
    readNames (",".intercalate names).toList = names := by
  cases names with
  | nil => rfl
  | cons first rest =>
      have split : (",".intercalate (first :: rest)).toList.splitOn ',' =
          (first :: rest).map String.toList := by
        rw [String.toList_intercalate]
        refine List.splitOn_intercalate ',' ?_ (by simp)
        intro text member
        obtain ⟨name, isIn, rfl⟩ := List.mem_map.mp member
        exact not_mem_of_isName (named name isIn) (isNamePart_separator (by simp))
      have notEmpty : (",".intercalate (first :: rest)).toList.isEmpty = false := by
        cases text : (",".intercalate (first :: rest)).toList with
        | nil =>
            rw [text] at split
            have empty : [] = first.toList := (List.cons.inj split).1
            exact absurd empty.symm (toList_ne_nil_of_isName (named first (by simp)))
        | cons _ _ => rfl
      rw [readNames, notEmpty, split, List.map_map]
      simp [Function.comp_def]

theorem readAssignment?_write {name source : String} (named : isName name = true) :
    readAssignment? (name ++ " = " ++ source).toList = some (name, source) := by
  have text : (name ++ " = " ++ source).toList =
      name.toList ++ ' ' :: ("= ".toList ++ source.toList) := by simp
  have absent : ' ' ∉ name.toList := not_mem_of_isName named (isNamePart_separator (by simp))
  rw [text, readAssignment?, upTo?_append absent]
  simp only [Option.bind_eq_bind, Option.bind_some]
  rw [dropPrefix?_append]
  simp

theorem readAssignments?_join (marker : isNameStart dialect.marker = true)
    (named : ∀ name ∈ names, isName name = true) :
    readAssignments? (String.join (names.map (Script.assignment dialect))).toList =
      some (names.map fun name => (name, Script.parameter dialect name)) := by
  induction names with
  | nil => rfl
  | cons name rest ih =>
      have nameNamed := named name (by simp)
      have restNamed : ∀ name ∈ rest, isName name = true :=
        fun name member => named name (List.mem_cons_of_mem _ member)
      have semicolon : isNamePart ';' = false := isNamePart_separator (by simp)
      have absent : ';' ∉ (name ++ " = " ++ Script.parameter dialect name).toList := by
        simp only [String.toList_append, List.mem_append, not_or]
        exact ⟨⟨not_mem_of_isName nameNamed semicolon, by simp⟩,
          not_mem_of_isName (Script.isName_parameter marker nameNamed) semicolon⟩
      have text : (String.join ((name :: rest).map (Script.assignment dialect))).toList =
          (name ++ " = " ++ Script.parameter dialect name).toList ++
            ';' :: (String.join (rest.map (Script.assignment dialect))).toList := by
        simp [Script.assignment]
      rw [text, readAssignments?, List.splitOn_append_cons_self_of_not_mem absent,
        List.filter_cons_of_pos (by simp), List.mapM_cons,
        readAssignment?_write nameNamed, ← readAssignments?, ih restNamed]
      rfl

theorem not_mem_assignments (marker : isNameStart dialect.marker = true)
    (named : ∀ name ∈ names, isName name = true) :
    '\x7d' ∉ (String.join (names.map (Script.assignment dialect))).toList := by
  have brace : isNamePart '\x7d' = false := isNamePart_separator (by simp)
  rw [String.toList_join]
  intro member
  obtain ⟨text, isIn, inside⟩ := List.mem_flatMap.mp member
  obtain ⟨name, nameIn, rfl⟩ := List.mem_map.mp isIn
  have absent := not_mem_of_isName (named name nameIn) brace
  have absentParameter :=
    not_mem_of_isName (Script.isName_parameter marker (named name nameIn)) brace
  simp [Script.assignment, absent, absentParameter] at inside

/-- The text of an injection reads as the injection. -/
theorem read?_injectAll (marker : isNameStart dialect.marker = true)
    (named : ∀ name ∈ names, isName name = true) :
    read? dialect (Script.injectAll dialect names) = some (ofNames dialect names) := by
  have parametersNamed : ∀ name ∈ names.map (Script.parameter dialect), isName name = true := by
    intro parameter member
    obtain ⟨name, isIn, rfl⟩ := List.mem_map.mp member
    exact Script.isName_parameter marker (named name isIn)
  have text : (Script.injectAll dialect names).toList =
      "var ".toList ++ ((",".intercalate names).toList ++ ';' ::
        ((dialect.beforeEach ++ "(" ++ dialect.inject ++ "(function(").toList ++
          ((",".intercalate (names.map (Script.parameter dialect))).toList ++ ')' ::
            (" \x7b".toList ++
              ((String.join (names.map (Script.assignment dialect))).toList ++ '\x7d' ::
                "));".toList))))) := by
    unfold Script.injectAll
    simp
  have noSemicolon : ';' ∉ (",".intercalate names).toList :=
    not_mem_intercalate named (isNamePart_separator (by simp)) (by decide)
  have noParenthesis : ')' ∉ (",".intercalate (names.map (Script.parameter dialect))).toList :=
    not_mem_intercalate parametersNamed (isNamePart_separator (by simp)) (by decide)
  have noBrace := not_mem_assignments marker named
  simp only [read?, text, dropPrefix?_append, upTo?_append noSemicolon,
    upTo?_append noParenthesis, upTo?_append noBrace, Option.bind_eq_bind, Option.bind_some,
    readAssignments?_join marker named, readNames_intercalate named,
    readNames_intercalate parametersNamed]
  rfl

end InjectionHook

end SuiteOutline
