import SuiteOutline.Document.Property
import SuiteOutline.Document.Scalar

/-!
# The stream of tokens

Tokens are read one after the other, and only as far as they are needed. A value sign may turn what
was read before it into a key, so a token is handed out only when it can no longer become the key
of a mapping: such candidates are remembered, one for each level of brackets, and a key token is
put in front of a candidate once its value sign is met. A candidate lies on one line and takes at
most 1024 bytes.

Outside brackets the column of a token opens and closes block collections.
-/

namespace SuiteOutline.Document

/-- A token that may turn out to be a key: its number in the stream, and its place. -/
structure KeyCandidate where
  /-- Whether nothing but a key can stand there. -/
  required : Bool
  number : Nat
  mark : Mark

structure TokenStream where
  cursor : Cursor
  /-- Tokens that have been read and not handed out. -/
  queue : List Placed
  /-- How many tokens have been handed out. -/
  handedOut : Nat
  started : Bool
  /-- The column of the innermost block collection, and -1 outside of all. -/
  indent : Int
  /-- The columns of the block collections around it, innermost first. -/
  outerIndents : List Int
  /-- Whether the next token may turn out to be a key. -/
  keyAllowed : Bool
  /-- The candidates: the first for the innermost brackets, the last for what is outside of all. -/
  candidates : List (Option KeyCandidate)

namespace TokenStream

def ofText (text : String) : TokenStream :=
  ⟨Cursor.ofText text, [], 0, false, -1, [], true, [none]⟩

def inFlow (stream : TokenStream) : Bool :=
  decide (1 < stream.candidates.length)

def candidate? (stream : TokenStream) : Option KeyCandidate :=
  match stream.candidates with
  | [] => none
  | innermost :: _ => innermost

def withCandidate (stream : TokenStream) (candidate : Option KeyCandidate) : TokenStream :=
  { stream with candidates := candidate :: stream.candidates.drop 1 }

def push (stream : TokenStream) (placed : Placed) : TokenStream :=
  { stream with queue := stream.queue ++ [placed] }

def insertAt (stream : TokenStream) (number : Nat) (placed : Placed) : TokenStream :=
  { stream with queue := stream.queue.insertIdx (number - stream.handedOut) placed }

def nextNumber (stream : TokenStream) : Nat :=
  stream.handedOut + stream.queue.length

/-- Opens a block collection in a column further in than the innermost one. Its token goes to the
end of the queue, or in front of the token with the given number. -/
def openBlock (stream : TokenStream) (column : Nat) (number : Option Nat) (token : Token)
    (mark : Mark) : TokenStream :=
  if stream.inFlow || decide ((column : Int) ≤ stream.indent) then stream
  else
    let opened := { stream with
      indent := column
      outerIndents := stream.indent :: stream.outerIndents }
    match number with
    | none => opened.push ⟨token, mark, mark⟩
    | some number => opened.insertAt number ⟨token, mark, mark⟩

def closeBlocks (column : Int) (mark : Mark) : List Int → TokenStream → TokenStream
  | [], stream => stream
  | outer :: others, stream =>
      if stream.indent ≤ column then stream
      else
        closeBlocks column mark others
          { stream with
            queue := stream.queue ++ [⟨.blockEnd, mark, mark⟩]
            indent := outer
            outerIndents := others }

/-- Closes the block collections that stand further in than a column; inside brackets columns say
nothing. -/
def closeTo (stream : TokenStream) (column : Int) : TokenStream :=
  if stream.inFlow then stream
  else closeBlocks column stream.cursor.mark stream.outerIndents stream

end TokenStream

abbrev Lex := StateT TokenStream (Except SyntaxFault)

namespace Lex

def reading {α : Type} (scan : Scan α) : Lex α := do
  let stream ← get
  match scan stream.cursor with
  | .error fault => throw fault
  | .ok (value, cursor) =>
      set { stream with cursor := cursor }
      pure value

def pushing (scan : Scan Placed) : Lex Unit := do
  let placed ← reading scan
  modify fun stream => stream.push placed

def sign (token : Token) (length : Nat) : Scan Placed := do
  let start := (← get).mark
  Scan.skip length
  pure ⟨token, start, (← get).mark⟩

def misplaced {α : Type} (problem : String) : Lex α := do
  throw ⟨problem, (← get).cursor.mark, none⟩

def keyWithoutValue {α : Type} (candidate : KeyCandidate) : Lex α := do
  throw ((← get).cursor.fault "while scanning a simple key" candidate.mark
    "could not find expected ':'")

/-- Gives up a candidate; one that had to be a key is a fault. -/
def dropCandidate : Lex Unit := do
  match (← get).candidate? with
  | none => pure ()
  | some candidate =>
      if candidate.required then keyWithoutValue candidate
      else modify fun stream => stream.withCandidate none

def saveCandidate : Lex Unit := do
  let stream ← get
  if stream.keyAllowed then
    dropCandidate
    modify fun changed => changed.withCandidate (some
      ⟨!stream.inFlow && stream.indent == stream.cursor.mark.column, stream.nextNumber,
        stream.cursor.mark⟩)

/-- Whether a candidate can no longer be a key: its line has ended, or it is too long. -/
def isStale (cursor : Cursor) (candidate : KeyCandidate) : Bool :=
  decide (candidate.mark.line < cursor.mark.line)
    || decide (candidate.mark.index + 1024 < cursor.mark.index)

def dropStale : Lex Unit := do
  let stream ← get
  let overdue? := stream.candidates.findSome? fun entry =>
    entry.filter fun candidate => candidate.required && isStale stream.cursor candidate
  match overdue? with
  | some candidate => keyWithoutValue candidate
  | none =>
      set { stream with
        candidates := stream.candidates.map fun entry =>
          Option.filter (fun candidate => !isStale stream.cursor candidate) entry }

def allowKey (allowed : Bool) : Lex Unit :=
  modify fun stream => { stream with keyAllowed := allowed }

/-- Steps over white space and comments. A line end outside brackets allows a key, and a tab is
white space only where no key may stand. -/
def skipSpace : Nat → Lex Unit
  | 0 => pure ()
  | fuel + 1 => do
      let stream ← get
      let cursor := stream.cursor
      let cursor :=
        if cursor.mark.column == 0 && cursor.isAt '\ufeff' then cursor.skip 1 else cursor
      let tabs := stream.inFlow || !stream.keyAllowed
      let cursor := cursor.skipRun fun character => character == ' ' || (tabs && character == '\t')
      let cursor :=
        if cursor.isAt '#' then cursor.skipRun fun character => !isBreak character else cursor
      if cursor.isAtAny isBreak then
        set { stream with
          cursor := cursor.skipLineEnd
          keyAllowed := stream.keyAllowed || !stream.inFlow }
        skipSpace fuel
      else set { stream with cursor := cursor }

def fetchEnd : Lex Unit := do
  modify fun stream =>
    if stream.cursor.mark.column == 0 then stream
    else { stream with
      cursor := { stream.cursor with mark := stream.cursor.mark.nextLine [] } }
  modify fun stream => stream.closeTo (-1)
  dropCandidate
  allowKey false
  pushing (sign .streamEnd 0)

def fetchOutside (scan : Scan Placed) : Lex Unit := do
  modify fun stream => stream.closeTo (-1)
  dropCandidate
  allowKey false
  pushing scan

def fetchOpening (token : Token) : Lex Unit := do
  saveCandidate
  modify fun stream => { stream with candidates := none :: stream.candidates }
  allowKey true
  pushing (sign token 1)

def fetchClosing (token : Token) : Lex Unit := do
  dropCandidate
  modify fun stream =>
    if stream.inFlow then { stream with candidates := stream.candidates.drop 1 } else stream
  allowKey false
  pushing (sign token 1)

def fetchFlowEntry : Lex Unit := do
  dropCandidate
  allowKey true
  pushing (sign .flowEntry 1)

/-- Opens a block collection at the cursor for a sign that may only stand where a key may. -/
def openBlockHere (token : Token) (problem : String) : Lex Unit := do
  let stream ← get
  if !stream.inFlow then
    if !stream.keyAllowed then misplaced problem
    else
      let mark := stream.cursor.mark
      set (stream.openBlock mark.column none token mark)

def fetchBlockEntry : Lex Unit := do
  openBlockHere .blockSequenceStart "block sequence entries are not allowed in this context"
  dropCandidate
  allowKey true
  pushing (sign .blockEntry 1)

def fetchKey : Lex Unit := do
  openBlockHere .blockMappingStart "mapping keys are not allowed in this context"
  dropCandidate
  allowKey (!(← get).inFlow)
  pushing (sign .key 1)

/-- Reads the sign of a value. If there is a candidate, it is a key. -/
def fetchValue : Lex Unit := do
  let stream ← get
  match stream.candidate? with
  | some candidate =>
      let mark := candidate.mark
      let stream := stream.insertAt candidate.number ⟨.key, mark, mark⟩
      let stream := stream.openBlock mark.column (some candidate.number) .blockMappingStart mark
      set (stream.withCandidate none)
      allowKey false
  | none =>
      openBlockHere .blockMappingStart "mapping values are not allowed in this context"
      allowKey (!stream.inFlow)
  pushing (sign .value 1)

def fetchWord (scan : Scan Placed) : Lex Unit := do
  saveCandidate
  allowKey false
  pushing scan

def fetchBlockScalar (folded : Bool) : Lex Unit := do
  dropCandidate
  allowKey true
  pushing (scanBlock folded (← get).indent)

/-- Reads a plain scalar; a key may follow on the next line. -/
def fetchPlain : Lex Unit := do
  saveCandidate
  allowKey false
  let stream ← get
  let (placed, lineEnded) ← reading (scanPlain stream.inFlow stream.indent)
  modify fun stream => stream.push placed
  if lineEnded then allowKey true

def isReserved (character : Char) : Bool :=
  "-?:,[]\x7b\x7d#&*!|>'\"%@`".toList.contains character

def startsPlain (inFlow : Bool) (cursor : Cursor) (character : Char) : Bool :=
  !(cursor.isSpaceAt 0 || isReserved character)
    || (character == '-' && !(cursor.peekAt? 1).any isBlank)
    || (!inFlow && (character == '?' || character == ':') && !cursor.isSpaceAt 1)

def fetchAt (character : Char) : Lex Unit := do
  let stream ← get
  let cursor := stream.cursor
  let inFlow := stream.inFlow
  if cursor.mark.column == 0 && character == '%' then fetchOutside scanDirective
  else if cursor.isAtDocumentLine '-' then fetchOutside (sign .documentStart 3)
  else if cursor.isAtDocumentLine '.' then fetchOutside (sign .documentEnd 3)
  else if character == '[' then fetchOpening .flowSequenceStart
  else if character == '\x7b' then fetchOpening .flowMappingStart
  else if character == ']' then fetchClosing .flowSequenceEnd
  else if character == '\x7d' then fetchClosing .flowMappingEnd
  else if character == ',' then fetchFlowEntry
  else if character == '-' && cursor.isSpaceAt 1 then fetchBlockEntry
  else if character == '?' && (inFlow || cursor.isSpaceAt 1) then fetchKey
  else if character == ':' && (inFlow || cursor.isSpaceAt 1) then fetchValue
  else if character == '*' then fetchWord scanAlias
  else if character == '&' then fetchWord scanAnchor
  else if character == '!' then fetchWord (scanTag inFlow)
  else if character == '|' && !inFlow then fetchBlockScalar false
  else if character == '>' && !inFlow then fetchBlockScalar true
  else if character == '\'' || character == '"' then fetchWord (scanQuoted character)
  else if startsPlain inFlow cursor character then fetchPlain
  else
    throw (cursor.fault "while scanning for the next token" cursor.mark
      "found character that cannot start any token")

def fetchNext : Lex Unit := do
  let stream ← get
  if !stream.started then
    set { stream with started := true }
    pushing (sign .streamStart 0)
  else
    skipSpace (stream.cursor.size + 1)
    dropStale
    modify fun stream => stream.closeTo stream.cursor.mark.column
    match (← get).cursor.peek? with
    | none => fetchEnd
    | some character => fetchAt character

/-- Reads the next token, if no barrier stands in the way. -/
def fetch : Lex Unit := fun stream =>
  let barrierFault? := stream.cursor.barrierFault?
  match fetchNext stream with
  | .error fault => .error ((barrierFault? fault.mark).getD fault)
  | .ok (_, after) =>
      match barrierFault? after.cursor.mark with
      | some fault => .error fault
      | none => .ok ((), after)

/-- Whether the first token of the queue may still turn out to be a key, or there is none. -/
def needsMore : Lex Bool := do
  if (← get).queue.isEmpty then pure true
  else
    dropStale
    let stream ← get
    pure (stream.candidates.any fun candidate =>
      candidate.any fun candidate => candidate.number == stream.handedOut)

def fill : Nat → Lex Unit
  | 0 => pure ()
  | fuel + 1 => do
      if ← needsMore then
        fetch
        fill fuel

def peek : Lex Placed := do
  let stream ← get
  fill (stream.cursor.size + 3)
  match (← get).queue with
  | [] => misplaced "no token"
  | first :: _ => pure first

def next : Lex Placed := do
  let placed ← peek
  modify fun stream =>
    { stream with queue := stream.queue.drop 1, handedOut := stream.handedOut + 1 }
  pure placed

end Lex

end SuiteOutline.Document
