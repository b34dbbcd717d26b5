/-!
# Reports of failures

A report says what went wrong: its kind, a message, the document and span it points into, a hint,
and the cause beneath it. A cause is another report or a failure of the world outside, so causes
form a chain. Attaching a hint or a cause changes nothing else.
-/

namespace SuiteOutline

structure SourceText where
  name : String
  text : String

/-- A range of characters in a document; `stop` may lie before `start`. -/
structure Span where
  start : Nat
  stop : Nat

def Span.at (offset : Nat) : Span :=
  ⟨offset, offset⟩

/-- How many characters a label underlines: the span's length, and never less than one. -/
def Span.length (span : Span) : Nat :=
  if span.start < span.stop then span.stop - span.start else 1

inductive ReportKind where
  | format
  | unrecognizedEntry
  | reference
  | load
  | host
  deriving DecidableEq

namespace ReportKind

def name : ReportKind → String
  | .format => "Format"
  | .unrecognizedEntry => "UnrecognizedEntry"
  | .reference => "Reference"
  | .load => "Load"
  | .host => "Host"

def code : ReportKind → String
  | .format => "specsuite::format"
  | .unrecognizedEntry => "specsuite::unrecognized_entry"
  | .reference => "specsuite::reference"
  | .load => "specsuite::load"
  | .host => "specsuite::host"

def heading : ReportKind → String
  | .format => "Spec format error: "
  | .unrecognizedEntry => "Unrecognized entry: "
  | .reference => "Invalid reference: "
  | .load => "Load error: "
  | .host => "Script host error: "

end ReportKind

/-- What a report says by itself, without its cause. -/
structure Notice where
  kind : ReportKind
  message : String
  document : Option SourceText
  span : Option Span
  help : Option String

def Notice.text (notice : Notice) : String :=
  notice.kind.heading ++ notice.message

mutual

inductive Report where
  | mk (notice : Notice) (cause : Option Cause)

inductive Cause where
  /-- A failure outside this library, by its text, with what caused it in turn. -/
  | outside (text : String) (cause : Option Cause)
  | report (report : Report)

end

def Cause.ofText (text : String) : Cause :=
  .outside text none

mutual

/-- The texts of a cause and of everything beneath it, outermost first. -/
def Cause.chain : Cause → List String
  | .outside text none => [text]
  | .outside text (some cause) => text :: cause.chain
  | .report report => report.lines

def Report.lines : Report → List String
  | .mk notice none => [notice.text]
  | .mk notice (some cause) => notice.text :: cause.chain

end

/-- One underlined place of a document. -/
structure Marker where
  text : String
  offset : Nat
  length : Nat

namespace Report

def ofMessage (kind : ReportKind) (message : String) : Report :=
  .mk ⟨kind, message, none, none, none⟩ none

def inDocument (kind : ReportKind) (message : String) (document : SourceText) (span : Span) :
    Report :=
  .mk ⟨kind, message, some document, some span, none⟩ none

def notice : Report → Notice
  | .mk notice _ => notice

def cause? : Report → Option Cause
  | .mk _ cause => cause

def kind (report : Report) : ReportKind :=
  report.notice.kind

def help (report : Report) : Option String :=
  report.notice.help

def text (report : Report) : String :=
  report.notice.text

/-- The texts of everything beneath the report, outermost first. -/
def causes (report : Report) : List String :=
  match report.cause? with
  | none => []
  | some cause => cause.chain

/-- The place to underline: it needs both a document and a span. -/
def marker (report : Report) : Option Marker :=
  match report.notice.document, report.notice.span with
  | some _, some span => some ⟨report.notice.message, span.start, span.length⟩
  | _, _ => none

def withHelp (report : Report) (help : String) : Report :=
  .mk { report.notice with help := some help } report.cause?

/-- Sets the cause; what was beneath the report before is forgotten. -/
def withCause (report : Report) (cause : Cause) : Report :=
  .mk report.notice (some cause)

end Report

end SuiteOutline
