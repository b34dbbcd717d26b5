import SuiteOutline.Document.Cursor
import SuiteOutline.Document.Token

/-!
# Scalars

Readers for quoted, plain and block scalars. White space between the words of a quoted or plain
scalar is kept if it lies in one line. Over several lines it is folded: blanks go, the first line
end becomes a space unless further ones follow, and those are kept.

Each reader works line by line and takes at least one character for each step, so the number of
characters left bounds the number of steps.
-/

namespace SuiteOutline.Document

/-- White space met since the last word: blanks of one line, or the line ends of several. -/
structure Folding where
  blanks : List Char
  /-- The first line end; an escaped one leaves nothing to keep. -/
  first : Option (List Char)
  further : List Char

namespace Folding

def none : Folding :=
  ⟨[], Option.none, []⟩

def escapedLine : Folding :=
  ⟨[], some [], []⟩

def spansLines (folding : Folding) : Bool :=
  folding.first.isSome

def text (folding : Folding) : List Char :=
  match folding.first with
  | Option.none => folding.blanks
  | some ['\n'] => if folding.further.isEmpty then [' '] else folding.further
  | some first => first ++ folding.further

/-- Blanks are kept only while no line has ended. -/
def addBlank (folding : Folding) (blank : Char) : Folding :=
  if folding.spansLines then folding else { folding with blanks := folding.blanks ++ [blank] }

/-- The first line end makes the blanks before it vanish. -/
def addLineEnd (folding : Folding) (lineEnd : List Char) : Folding :=
  if folding.spansLines then { folding with further := folding.further ++ lineEnd }
  else ⟨[], some lineEnd, folding.further⟩

end Folding

/-- The fault of a document that has more steps than characters, which no document has. -/
def endless {α : Type} : Scan α :=
  Scan.fail "while scanning" Mark.start "no progress"

/-! ## Quoted scalars -/

def shortEscape? : Char → Option Char
  | '0' => some '\x00'
  | 'a' => some '\x07'
  | 'b' => some '\x08'
  | 't' => some '\t'
  | '\t' => some '\t'
  | 'n' => some '\n'
  | 'v' => some '\x0b'
  | 'f' => some '\x0c'
  | 'r' => some '\r'
  | 'e' => some '\x1b'
  | ' ' => some ' '
  | '"' => some '"'
  | '/' => some '/'
  | '\\' => some '\\'
  | 'N' => some '\x85'
  | '_' => some '\xa0'
  | 'L' => some '\u2028'
  | 'P' => some '\u2029'
  | _ => none

def escapeDigits? : Char → Option Nat
  | 'x' => some 2
  | 'u' => some 4
  | 'U' => some 8
  | _ => none

def hexNumber? (digits : Nat) (characters : List Char) : Option Nat :=
  if characters.length < digits then none
  else
    (characters.take digits).foldl (fun number character =>
      match number, hexDigit? character with
      | some number, some digit => some (16 * number + digit)
      | _, _ => none) (some 0)

def scanEscape (since : Mark) : Scan Char := do
  let words := "while parsing a quoted scalar"
  let cursor ← get
  match cursor.peekAt? 1 with
  | none => Scan.fail words since "found unknown escape character"
  | some letter =>
      match shortEscape? letter, escapeDigits? letter with
      | some character, _ =>
          Scan.skip 2
          pure character
      | none, none => Scan.fail words since "found unknown escape character"
      | none, some digits =>
          Scan.skip 2
          match hexNumber? digits (← get).rest with
          | none => Scan.fail words since "did not find expected hexadecimal number"
          | some code =>
              if Nat.isValidChar code then
                Scan.skip digits
                pure (Char.ofNat code)
              else Scan.fail words since "found invalid Unicode character escape code"

inductive QuotedStop where
  | pause
  | escapedLine

/-- Reads the characters of a quoted scalar up to white space or the closing quote, and adds them
in front of the ones read before, latest first. -/
def scanQuotedWord (quote : Char) (since : Mark) :
    Nat → List Char → Scan (List Char × QuotedStop)
  | 0, _ => endless
  | fuel + 1, taken => do
      let cursor ← get
      match cursor.peek? with
      | none => pure (taken, .pause)
      | some character =>
          if isBlank character || isBreak character then pure (taken, .pause)
          else if quote == '\'' && character == '\'' && cursor.peekAt? 1 == some '\'' then
            Scan.skip 2
            scanQuotedWord quote since fuel ('\'' :: taken)
          else if character == quote then pure (taken, .pause)
          else if quote == '"' && character == '\\' then
            if (cursor.peekAt? 1).any isBreak then
              set (cursor.skip 1).skipLineEnd
              pure (taken, .escapedLine)
            else
              let escaped ← scanEscape since
              scanQuotedWord quote since fuel (escaped :: taken)
          else
            Scan.skip 1
            scanQuotedWord quote since fuel (character :: taken)

def scanFolding : Nat → Folding → Scan Folding
  | 0, _ => endless
  | fuel + 1, folding => do
      let cursor ← get
      match cursor.peek? with
      | none => pure folding
      | some character =>
          if isBlank character then
            Scan.skip 1
            scanFolding fuel (folding.addBlank character)
          else if isBreak character then
            let lineEnd ← Scan.takeLineEnd
            scanFolding fuel (folding.addLineEnd lineEnd)
          else pure folding

def scanQuotedBody (quote : Char) (since : Mark) : Nat → List Char → Scan (List Char)
  | 0, _ => endless
  | fuel + 1, taken => do
      let words := "while scanning a quoted scalar"
      let cursor ← get
      if cursor.isAtDocumentBoundary then
        Scan.fail words since "found unexpected document indicator"
      else if cursor.rest.isEmpty then
        Scan.fail words since "found unexpected end of stream"
      else
        let (taken, stop) ← scanQuotedWord quote since (cursor.size + 1) taken
        let cursor ← get
        if cursor.isAt quote then pure taken
        else
          let initial := match stop with
            | .pause => Folding.none
            | .escapedLine => Folding.escapedLine
          let folding ← scanFolding (cursor.size + 1) initial
          scanQuotedBody quote since fuel (folding.text.reverse ++ taken)

def scanQuoted (quote : Char) : Scan Placed := do
  let cursor ← get
  Scan.skip 1
  let taken ← scanQuotedBody quote cursor.mark (2 * cursor.size + 2) []
  Scan.skip 1
  let style := if quote == '\'' then ScalarStyle.singleQuoted else ScalarStyle.doubleQuoted
  pure ⟨.scalar (String.ofList taken.reverse) style, cursor.mark, (← get).mark⟩

/-! ## Plain scalars -/

def isFlowSign (character : Char) : Bool :=
  character == ',' || character == '[' || character == ']' || character == '\x7b'
    || character == '\x7d'

/-- A plain scalar as far as it is read: its characters, latest first, the place after the last of
them, and the white space that followed. -/
structure PlainText where
  taken : List Char
  stop : Mark
  pending : Folding

def scanPlainWord (inFlow : Bool) (since : Mark) : Nat → PlainText → Scan PlainText
  | 0, _ => endless
  | fuel + 1, text => do
      let cursor ← get
      match cursor.peek? with
      | none => pure text
      | some character =>
          if isBlank character || isBreak character then pure text
          else if inFlow && character == ':'
              && (cursor.peekAt? 1).any (fun next => next == '?' || isFlowSign next) then
            Scan.fail "while scanning a plain scalar" since "found unexpected ':'"
          else if character == ':' && cursor.isSpaceAt 1 then pure text
          else if inFlow && isFlowSign character then pure text
          else
            Scan.skip 1
            scanPlainWord inFlow since fuel
              ⟨character :: (text.pending.text.reverse ++ text.taken), (← get).mark, .none⟩

/-- Reads white space after a word of a plain scalar; a tab may not stand in for indentation. -/
def scanPlainFolding (indent : Int) (since : Mark) : Nat → Folding → Scan Folding
  | 0, _ => endless
  | fuel + 1, folding => do
      let cursor ← get
      match cursor.peek? with
      | none => pure folding
      | some character =>
          if isBlank character then
            if folding.spansLines && (cursor.mark.column : Int) < indent && character == '\t' then
              Scan.fail "while scanning a plain scalar" since
                "found a tab character that violates indentation"
            else
              Scan.skip 1
              scanPlainFolding indent since fuel (folding.addBlank character)
          else if isBreak character then
            let lineEnd ← Scan.takeLineEnd
            scanPlainFolding indent since fuel (folding.addLineEnd lineEnd)
          else pure folding

/-- Reads the words of a plain scalar. Outside brackets a word has to stand in a column that is
not before the indentation. -/
def scanPlainBody (inFlow : Bool) (indent : Int) (since : Mark) :
    Nat → PlainText → Scan PlainText
  | 0, _ => endless
  | fuel + 1, text => do
      let cursor ← get
      if cursor.isAtDocumentBoundary || cursor.isAt '#' then pure text
      else
        let text ← scanPlainWord inFlow since (cursor.size + 1) text
        let cursor ← get
        if cursor.isAtAny (fun character => isBlank character || isBreak character) then
          let pending ← scanPlainFolding indent since (cursor.size + 1) text.pending
          let text := { text with pending := pending }
          if !inFlow && ((← get).mark.column : Int) < indent then pure text
          else scanPlainBody inFlow indent since fuel text
        else pure text

/-- Reads a plain scalar inside a collection of the given indentation. The result says also
whether the scalar was followed by a line end. -/
def scanPlain (inFlow : Bool) (indent : Int) : Scan (Placed × Bool) := do
  let cursor ← get
  let text ← scanPlainBody inFlow (indent + 1) cursor.mark (cursor.size + 2)
    ⟨[], cursor.mark, .none⟩
  pure (⟨.scalar (String.ofList text.taken.reverse) .plain, cursor.mark, text.stop⟩,
    text.pending.spansLines)

/-! ## Block scalars -/

/-- What happens to the line ends after the last line of a block scalar. -/
inductive Chomping where
  | strip
  | clip
  | keep

def blockWords : String :=
  "while scanning a block scalar"

def scanChomping? : Scan (Option Chomping) := do
  let cursor ← get
  if cursor.isAt '+' then
    Scan.skip 1
    pure (some .keep)
  else if cursor.isAt '-' then
    Scan.skip 1
    pure (some .strip)
  else pure none

def scanIncrement? (since : Mark) : Scan (Option Nat) := do
  let cursor ← get
  match cursor.peek? with
  | none => pure none
  | some character =>
      if character == '0' then
        Scan.fail blockWords since "found an indentation indicator equal to 0"
      else if character.isDigit then
        Scan.skip 1
        pure (some (character.toNat - '0'.toNat))
      else pure none

def scanBlockHeader (since : Mark) : Scan (Chomping × Option Nat) := do
  match ← scanChomping? with
  | some chomping => pure (chomping, ← scanIncrement? since)
  | none =>
      let increment ← scanIncrement? since
      if increment.isSome then
        let chomping ← scanChomping?
        pure (chomping.getD .clip, increment)
      else pure (.clip, none)

/-- The indentation between two lines of a block scalar: the line ends passed, the deepest column
reached, and the place after the last of the line ends. -/
structure BlockGap where
  lineEnds : List Char
  deepest : Nat
  stop : Mark

/-- Reads indentation and empty lines. Without an indentation to keep to, all spaces count as
indentation. -/
def scanBlockGap (indent : Option Nat) (since : Mark) : Nat → BlockGap → Scan BlockGap
  | 0, _ => endless
  | fuel + 1, gap => do
      let cursor ← get
      let spaces := (cursor.run (· == ' ')).1.length
      let taken := match indent with
        | none => spaces
        | some column => min spaces (column - cursor.mark.column)
      Scan.skip taken
      let cursor ← get
      let gap := { gap with deepest := max gap.deepest cursor.mark.column }
      let mayIndent := match indent with
        | none => true
        | some column => cursor.mark.column < column
      if mayIndent && cursor.isAt '\t' then
        Scan.fail blockWords since
          "found a tab character where an indentation space is expected"
      else if cursor.isAtAny isBreak then
        let lineEnd ← Scan.takeLineEnd
        scanBlockGap indent since fuel
          { gap with lineEnds := gap.lineEnds ++ lineEnd, stop := (← get).mark }
      else pure gap

/-- A block scalar as far as it is read: its characters, latest first, the line end after its last
line and the empty lines after that, and whether that line began with a blank. -/
structure BlockText where
  taken : List Char
  lineEnd : List Char
  emptyLines : List Char
  afterBlank : Bool
  stop : Mark

/-- The characters between the last line and the next one. A folded scalar joins two lines by a
space, unless one of them begins with a blank or empty lines lie between them. -/
def BlockText.joint (text : BlockText) (folded beforeBlank : Bool) : List Char :=
  if folded && text.lineEnd.head? == some '\n' && !text.afterBlank && !beforeBlank then
    if text.emptyLines.isEmpty then [' '] else text.emptyLines
  else text.lineEnd ++ text.emptyLines

def scanBlockLines (folded : Bool) (indent : Nat) (since : Mark) :
    Nat → BlockText → Scan BlockText
  | 0, _ => endless
  | fuel + 1, text => do
      let cursor ← get
      if cursor.mark.column != indent || cursor.rest.isEmpty then pure text
      else
        let startsBlank := cursor.isAtAny isBlank
        let joint := text.joint folded startsBlank
        let line ← Scan.takeRun fun character => !isBreak character
        let lineEnd ← Scan.takeLineEnd
        let cursor ← get
        let gap ← scanBlockGap (some indent) since (cursor.size + 1) ⟨[], 0, cursor.mark⟩
        scanBlockLines folded indent since fuel
          ⟨line.reverse ++ (joint.reverse ++ text.taken), lineEnd, gap.lineEnds, startsBlank,
            gap.stop⟩

/-- The column in which the lines of a block scalar stand, if its sign does not say: the deepest of
the indentations before its first line, but further in than the collection around it. -/
def blockColumn (indent : Int) (deepest : Nat) : Nat :=
  max (max deepest (indent + 1).toNat) 1

def scanBlock (folded : Bool) (indent : Int) : Scan Placed := do
  let start := (← get).mark
  Scan.skip 1
  let (chomping, increment) ← scanBlockHeader start
  modify Cursor.skipComment
  if !(← get).isAtLineEnd then
    Scan.fail blockWords start "did not find expected comment or line break"
  modify Cursor.skipLineEnd
  let cursor ← get
  let given := increment.map fun increment => indent.toNat + increment
  let gap ← scanBlockGap given start (cursor.size + 1) ⟨[], 0, cursor.mark⟩
  let column := given.getD (blockColumn indent gap.deepest)
  let text ← scanBlockLines folded column start (cursor.size + 2)
    ⟨[], [], gap.lineEnds, false, gap.stop⟩
  let tail := match chomping with
    | .strip => []
    | .clip => text.lineEnd
    | .keep => text.lineEnd ++ text.emptyLines
  let style := if folded then ScalarStyle.folded else ScalarStyle.literal
  pure ⟨.scalar (String.ofList (text.taken.reverse ++ tail)) style, start, text.stop⟩

end SuiteOutline.Document
