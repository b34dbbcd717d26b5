/-!
# Single-quoted literals

A literal writes a text between apostrophes. Backslashes, apostrophes and line ends inside it are
written with a backslash, so a literal stays on one line and ends at its first bare apostrophe.
The reader of a literal undoes exactly this, whatever follows the literal.
-/

namespace SuiteOutline.Text.Literal

def writeChar (character : Char) : List Char :=
  match character with
  | '\\' => ['\\', '\\']
  | '\'' => ['\\', '\'']
  | '\n' => ['\\', 'n']
  | '\r' => ['\\', 'r']
  | other => [other]

def body (text : List Char) : List Char :=
  text.flatMap writeChar

def write (text : List Char) : List Char :=
  '\'' :: (body text ++ ['\''])

def quote (text : String) : String :=
  String.ofList (write text.toList)

def unescape (character : Char) : Char :=
  match character with
  | 'n' => '\n'
  | 'r' => '\r'
  | other => other

/-- Reads up to the closing apostrophe: the text, and the characters after the literal. -/
def readBody : List Char → Option (List Char × List Char)
  | [] => none
  | '\'' :: rest => some ([], rest)
  | '\\' :: escaped :: rest =>
      (readBody rest).map fun (text, after) => (unescape escaped :: text, after)
  | '\\' :: [] => none
  | character :: rest =>
      (readBody rest).map fun (text, after) => (character :: text, after)

def read : List Char → Option (List Char × List Char)
  | '\'' :: rest => readBody rest
  | _ => none

theorem readBody_body (text after : List Char) :
    readBody (body text ++ '\'' :: after) = some (text, after) := by
  induction text with
  | nil => simp [body, readBody]
  | cons character rest ih =>
      have step : body (character :: rest) = writeChar character ++ body rest := by
        simp [body]
      rw [step, List.append_assoc]
      unfold writeChar
      split
      · simp [readBody, unescape, ih]
      · simp [readBody, unescape, ih]
      · simp [readBody, unescape, ih]
      · simp [readBody, unescape, ih]
      · rename_i notBackslash notApostrophe _ _
        simp only [List.cons_append, List.nil_append]
        rw [readBody]
        · rw [ih]
          rfl
        · exact notApostrophe
        · intro escaped tail isBackslash _
          exact notBackslash isBackslash
        · intro isBackslash _
          exact notBackslash isBackslash

theorem read_write (text after : List Char) :
    read (write text ++ after) = some (text, after) := by
  simp [write, read, readBody_body]

end SuiteOutline.Text.Literal
