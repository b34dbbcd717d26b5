import SuiteOutline.Document.TokenStream

/-!
# Events

The grammar of a document turns tokens into events: scalars, aliases, and the starts and ends of
collections. It needs one token of lookahead, and keeps a stack of what it is inside of. A value
that is left out is an empty plain scalar.
-/

namespace SuiteOutline.Document

/-- What stands before a value: a name to use it again under, and a tag. -/
structure Properties where
  anchor : Option String
  tag : Option Octets

def Properties.none : Properties :=
  ⟨Option.none, Option.none⟩

inductive Event where
  | streamStart
  | streamEnd
  | documentStart
  | documentEnd
  | alias (name : String)
  | scalar (properties : Properties) (text : String) (style : ScalarStyle)
  | sequenceStart (properties : Properties)
  | sequenceEnd
  | mappingStart (properties : Properties)
  | mappingEnd

structure PlacedEvent where
  event : Event
  mark : Mark

inductive Expectation where
  | stream
  | firstDocument
  | document
  | documentContent
  | documentEnd
  | node
  | blockSequenceFirst
  | blockSequenceEntry
  | plainSequenceEntry
  | blockMappingFirst
  | blockMappingKey
  | blockMappingValue
  | flowSequenceFirst
  | flowSequenceEntry
  | flowPairKey
  | flowPairValue
  | flowPairEnd
  | flowMappingFirst
  | flowMappingKey
  | flowMappingValue
  | flowMappingNoValue
  | nothing
  deriving DecidableEq

structure Grammar where
  tokens : TokenStream
  expects : Expectation
  /-- What is expected after the value being read, innermost first. -/
  pending : List Expectation
  /-- Where the collections being read start, innermost first. -/
  starts : List Mark
  /-- What handles of tags stand for. -/
  handles : List (String × Octets)

def Grammar.ofText (text : String) : Grammar :=
  ⟨TokenStream.ofText text, .stream, [], [], []⟩

abbrev Parse := StateT Grammar (Except SyntaxFault)

namespace Parse

def lexing {α : Type} (lex : Lex α) : Parse α := do
  let grammar ← get
  match lex grammar.tokens with
  | .error fault => throw fault
  | .ok (value, tokens) =>
      set { grammar with tokens := tokens }
      pure value

def peek : Parse Placed :=
  lexing Lex.peek

def next : Parse Placed :=
  lexing Lex.next

def peekAfter : Parse Placed := do
  let _ ← next
  peek

def expect (expectation : Expectation) : Parse Unit :=
  modify fun grammar => { grammar with expects := expectation }

/-- Remembers what is expected after the value that is read next. -/
def later (expectation : Expectation) : Parse Unit :=
  modify fun grammar => { grammar with pending := expectation :: grammar.pending }

def resume : Parse Unit :=
  modify fun grammar =>
    match grammar.pending with
    | [] => { grammar with expects := .nothing }
    | expectation :: others => { grammar with expects := expectation, pending := others }

def enter : Parse Unit := do
  let placed ← next
  modify fun grammar => { grammar with starts := placed.start :: grammar.starts }

def leave : Parse Unit := do
  resume
  modify fun grammar => { grammar with starts := grammar.starts.drop 1 }

def fail {α : Type} (problem : String) (mark : Mark) : Parse α :=
  throw ⟨problem, mark, none⟩

def failWhile {α : Type} (words : String) (since : Mark) (problem : String) (mark : Mark) :
    Parse α :=
  throw ⟨problem, mark, some ⟨words, since⟩⟩

def failInside {α : Type} (words problem : String) (mark : Mark) : Parse α := do
  failWhile words ((← get).starts.headD Mark.start) problem mark

/-- The scalar that stands for a value that was left out. -/
def emptyScalar (mark : Mark) : PlacedEvent :=
  ⟨.scalar Properties.none "" .plain, mark⟩

def emptyThen (expectation : Expectation) (mark : Mark) : Parse PlacedEvent := do
  expect expectation
  pure (emptyScalar mark)

/-! ## Documents -/

def commonHandles : List (String × Octets) :=
  [("!", octets "!"), ("!!", octets "tag:yaml.org,2002:")]

/-- Adds a handle; a document states each handle once. -/
def addHandle (handle : String) (opening : Octets) (mark : Mark) : Parse Unit := do
  let grammar ← get
  if grammar.handles.any (fun known => known.1 == handle) then
    fail "found duplicate %TAG directive" mark
  else set { grammar with handles := grammar.handles ++ [(handle, opening)] }

def addCommonHandles : Parse Unit :=
  modify fun grammar =>
    { grammar with
      handles := grammar.handles ++ commonHandles.filter fun common =>
        !grammar.handles.any fun known => known.1 == common.1 }

def readDirectives : Nat → Bool → Parse Unit
  | 0, _ => addCommonHandles
  | fuel + 1, versionSeen => do
      let placed ← peek
      match placed.token with
      | .versionDirective major minor =>
          if versionSeen then fail "found duplicate %YAML directive" placed.start
          else if major != 1 || (minor != 1 && minor != 2) then
            fail "found incompatible YAML document" placed.start
          else
            let _ ← next
            readDirectives fuel true
      | .tagDirective handle opening =>
          addHandle handle opening placed.start
          let _ ← next
          readDirectives fuel versionSeen
      | _ => addCommonHandles

/-- A bound for the number of tokens still to come. -/
def tokensLeft : Parse Nat := do
  let tokens := (← get).tokens
  pure (4 * (tokens.cursor.size + tokens.queue.length) + 4)

def skipDocumentEnds : Nat → Parse Unit
  | 0 => pure ()
  | fuel + 1 => do
      if (← peek).token == .documentEnd then
        let _ ← next
        skipDocumentEnds fuel

/-- Whether a document with this first token has to be announced. -/
def needsAnnouncement : Token → Bool
  | .versionDirective _ _ => true
  | .tagDirective _ _ => true
  | .documentStart => true
  | _ => false

/-- Reads the start of a document. Only the first one may begin without an announcement. -/
def parseDocument (isFirst : Bool) : Parse PlacedEvent := do
  if !isFirst then skipDocumentEnds (← tokensLeft)
  let placed ← peek
  if placed.token == .streamEnd then
    expect .nothing
    let _ ← next
    pure ⟨.streamEnd, placed.start⟩
  else if isFirst && !needsAnnouncement placed.token then
    readDirectives (← tokensLeft) false
    later .documentEnd
    expect .node
    pure ⟨.documentStart, placed.start⟩
  else
    readDirectives (← tokensLeft) false
    let announced ← peek
    if announced.token == .documentStart then
      later .documentEnd
      expect .documentContent
      let _ ← next
      pure ⟨.documentStart, placed.start⟩
    else fail "did not find expected <document start>" announced.start

/-- Reads the end of a document; what handles stand for is forgotten. -/
def parseDocumentEnd : Parse PlacedEvent := do
  let placed ← peek
  if placed.token == .documentEnd then
    let _ ← next
  modify fun grammar => { grammar with handles := [] }
  expect .document
  pure ⟨.documentEnd, placed.start⟩

/-! ## Values -/

/-- Reads the anchor and the tag before a value, in either order; the tag with its place. What
follows them is looked at too, before it is asked what the handle of the tag stands for. -/
def readProperties : Parse (Option String × Option (String × Octets × Mark)) := do
  let first ← peek
  match first.token with
  | .anchor name =>
      let second ← peekAfter
      match second.token with
      | .tag handle suffix =>
          let _ ← peekAfter
          pure (some name, some (handle, suffix, second.start))
      | _ => pure (some name, none)
  | .tag handle suffix =>
      let second ← peekAfter
      match second.token with
      | .anchor name =>
          let _ ← peekAfter
          pure (some name, some (handle, suffix, first.start))
      | _ => pure (none, some (handle, suffix, first.start))
  | _ => pure (none, none)

def resolveTag (handle : String) (suffix : Octets) (since mark : Mark) : Parse Octets := do
  if handle.isEmpty then pure suffix
  else
    match (← get).handles.find? fun known => known.1 == handle with
    | some (_, opening) => pure (opening ++ suffix)
    | none => failWhile "while parsing a node" since "found undefined tag handle" mark

def parseContent (inBlock mayBePlainSequence : Bool) (properties : Properties) (start : Mark) :
    Parse PlacedEvent := do
  let placed ← peek
  match placed.token, inBlock, mayBePlainSequence with
  | .blockEntry, _, true =>
      expect .plainSequenceEntry
      pure ⟨.sequenceStart properties, start⟩
  | .scalar text style, _, _ =>
      resume
      let _ ← next
      pure ⟨.scalar properties text style, start⟩
  | .flowSequenceStart, _, _ =>
      expect .flowSequenceFirst
      pure ⟨.sequenceStart properties, start⟩
  | .flowMappingStart, _, _ =>
      expect .flowMappingFirst
      pure ⟨.mappingStart properties, start⟩
  | .blockSequenceStart, true, _ =>
      expect .blockSequenceFirst
      pure ⟨.sequenceStart properties, start⟩
  | .blockMappingStart, true, _ =>
      expect .blockMappingFirst
      pure ⟨.mappingStart properties, start⟩
  | _, _, _ =>
      if properties.anchor.isSome || properties.tag.isSome then
        resume
        pure ⟨.scalar properties "" .plain, start⟩
      else
        failWhile (if inBlock then "while parsing a block node" else "while parsing a flow node")
          start "did not find expected node content" placed.start

def parseNode (inBlock mayBePlainSequence : Bool) : Parse PlacedEvent := do
  let first ← peek
  match first.token with
  | .alias name =>
      resume
      let _ ← next
      pure ⟨.alias name, first.start⟩
  | _ =>
      let (anchor, tag) ← readProperties
      match tag with
      | none => parseContent inBlock mayBePlainSequence ⟨anchor, none⟩ first.start
      | some (handle, suffix, mark) =>
          let resolved ← resolveTag handle suffix first.start mark
          parseContent inBlock mayBePlainSequence ⟨anchor, some resolved⟩ first.start

def parseNodeThen (expectation : Expectation) (inBlock mayBePlainSequence : Bool) :
    Parse PlacedEvent := do
  later expectation
  parseNode inBlock mayBePlainSequence

def parseDocumentContent : Parse PlacedEvent := do
  let placed ← peek
  if needsAnnouncement placed.token || placed.token == .documentEnd || placed.token == .streamEnd
  then
    resume
    pure (emptyScalar placed.start)
  else parseNode true false

/-! ## Block collections -/

/-- Whether a token ends the place of a key or value of a block mapping. -/
def endsBlockPart : Token → Bool
  | .key => true
  | .value => true
  | .blockEnd => true
  | _ => false

def parseBlockSequenceEntry : Parse PlacedEvent := do
  let placed ← peek
  match placed.token with
  | .blockEntry =>
      let after ← peekAfter
      if after.token == .blockEntry || after.token == .blockEnd then
        emptyThen .blockSequenceEntry placed.stop
      else parseNodeThen .blockSequenceEntry true false
  | .blockEnd =>
      leave
      let _ ← next
      pure ⟨.sequenceEnd, placed.start⟩
  | _ =>
      failInside "while parsing a block collection" "did not find expected '-' indicator"
        placed.start

/-- Reads an entry of a sequence that stands in the column of the mapping around it. -/
def parsePlainSequenceEntry : Parse PlacedEvent := do
  let placed ← peek
  match placed.token with
  | .blockEntry =>
      let after ← peekAfter
      if after.token == .blockEntry || endsBlockPart after.token then
        emptyThen .plainSequenceEntry placed.stop
      else parseNodeThen .plainSequenceEntry true false
  | _ =>
      resume
      pure ⟨.sequenceEnd, placed.start⟩

def parseBlockMappingKey : Parse PlacedEvent := do
  let placed ← peek
  match placed.token with
  | .key =>
      let after ← peekAfter
      if endsBlockPart after.token then emptyThen .blockMappingValue placed.stop
      else parseNodeThen .blockMappingValue true true
  | .blockEnd =>
      leave
      let _ ← next
      pure ⟨.mappingEnd, placed.start⟩
  | _ =>
      failInside "while parsing a block mapping" "did not find expected key" placed.start

def parseBlockMappingValue : Parse PlacedEvent := do
  let placed ← peek
  match placed.token with
  | .value =>
      let after ← peekAfter
      if endsBlockPart after.token then emptyThen .blockMappingKey placed.stop
      else parseNodeThen .blockMappingKey true true
  | _ => emptyThen .blockMappingKey placed.start

/-! ## Flow collections -/

def closeFlow (event : Event) : Parse PlacedEvent := do
  let placed ← peek
  leave
  let _ ← next
  pure ⟨event, placed.start⟩

/-- Reads an entry of a flow sequence whose comma, if it needs one, has been read. -/
def parseFlowSequenceItem : Parse PlacedEvent := do
  let placed ← peek
  match placed.token with
  | .key =>
      expect .flowPairKey
      let _ ← next
      pure ⟨.mappingStart Properties.none, placed.start⟩
  | .flowSequenceEnd => closeFlow .sequenceEnd
  | _ => parseNodeThen .flowSequenceEntry false false

def parseFlowSequenceEntry : Parse PlacedEvent := do
  let placed ← peek
  match placed.token with
  | .flowSequenceEnd => closeFlow .sequenceEnd
  | .flowEntry =>
      let _ ← next
      parseFlowSequenceItem
  | _ =>
      failInside "while parsing a flow sequence" "did not find expected ',' or ']'" placed.start

/-- Reads the key of a pair among the entries of a flow sequence. The sign that follows a key that
was left out is taken with it. -/
def parseFlowPairKey : Parse PlacedEvent := do
  let placed ← peek
  match placed.token with
  | .value | .flowEntry | .flowSequenceEnd =>
      let _ ← next
      emptyThen .flowPairValue placed.stop
  | _ => parseNodeThen .flowPairValue false false

def parseFlowPairValue : Parse PlacedEvent := do
  let placed ← peek
  match placed.token with
  | .value =>
      let after ← peekAfter
      if after.token == .flowEntry || after.token == .flowSequenceEnd then
        emptyThen .flowPairEnd after.start
      else parseNodeThen .flowPairEnd false false
  | _ => emptyThen .flowPairEnd placed.start

def parseFlowPairEnd : Parse PlacedEvent := do
  let placed ← peek
  expect .flowSequenceEntry
  pure ⟨.mappingEnd, placed.start⟩

def parseFlowMappingItem : Parse PlacedEvent := do
  let placed ← peek
  match placed.token with
  | .key =>
      let after ← peekAfter
      if after.token == .value || after.token == .flowEntry || after.token == .flowMappingEnd then
        emptyThen .flowMappingValue after.start
      else parseNodeThen .flowMappingValue false false
  | .flowMappingEnd => closeFlow .mappingEnd
  | _ => parseNodeThen .flowMappingNoValue false false

def parseFlowMappingKey : Parse PlacedEvent := do
  let placed ← peek
  match placed.token with
  | .flowMappingEnd => closeFlow .mappingEnd
  | .flowEntry =>
      let _ ← next
      parseFlowMappingItem
  | _ =>
      failInside "while parsing a flow mapping" "did not find expected ',' or '\x7d'" placed.start

def parseFlowMappingValue : Parse PlacedEvent := do
  let placed ← peek
  match placed.token with
  | .value =>
      let after ← peekAfter
      if after.token == .flowEntry || after.token == .flowMappingEnd then
        emptyThen .flowMappingKey after.start
      else parseNodeThen .flowMappingKey false false
  | _ => emptyThen .flowMappingKey placed.start

def event : Parse PlacedEvent := do
  match (← get).expects with
  | .stream =>
      let placed ← next
      expect .firstDocument
      pure ⟨.streamStart, placed.start⟩
  | .firstDocument => parseDocument true
  | .document => parseDocument false
  | .documentContent => parseDocumentContent
  | .documentEnd => parseDocumentEnd
  | .node => parseNode true false
  | .blockSequenceFirst =>
      enter
      parseBlockSequenceEntry
  | .blockSequenceEntry => parseBlockSequenceEntry
  | .plainSequenceEntry => parsePlainSequenceEntry
  | .blockMappingFirst =>
      enter
      parseBlockMappingKey
  | .blockMappingKey => parseBlockMappingKey
  | .blockMappingValue => parseBlockMappingValue
  | .flowSequenceFirst =>
      enter
      parseFlowSequenceItem
  | .flowSequenceEntry => parseFlowSequenceEntry
  | .flowPairKey => parseFlowPairKey
  | .flowPairValue => parseFlowPairValue
  | .flowPairEnd => parseFlowPairEnd
  | .flowMappingFirst =>
      enter
      parseFlowMappingItem
  | .flowMappingKey => parseFlowMappingKey
  | .flowMappingValue => parseFlowMappingValue
  | .flowMappingNoValue => emptyThen .flowMappingKey (← peek).start
  | .nothing => pure ⟨.streamEnd, Mark.start⟩

end Parse

end SuiteOutline.Document
