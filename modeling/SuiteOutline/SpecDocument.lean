import SuiteOutline.Document.Data
import SuiteOutline.Report
import SuiteOutline.Spec

/-!
# Specs written as documents

A document of a spec is a mapping from labels to bindings, or nothing at all. Under a label a text
is the source of a callable; inside a sequence it is a reference. A callable may be tagged, and has
to be tagged inside a sequence. Values for which a spec has no use are carried through by the name
of their kind and never looked into.
-/

namespace SuiteOutline

variable {ν : Type}

open Document (Data Fault)

/-- A tag's name without the exclamation marks at its front. -/
def tagName (tag : String) : String :=
  String.ofList (tag.toList.dropWhile (· == '!'))

def kindOf : Data → String
  | .null => "null"
  | .boolean _ => "boolean"
  | .number _ => "number"
  | .text _ => "string"
  | .sequence _ => "sequence"
  | .mapping _ => "mapping"
  | .tagged tag _ => "!" ++ tagName tag ++ " value"

inductive SpecMisfit where
  | notAMapping (found : String)
  | label (found : String)
  | source (tag found : String)
  deriving DecidableEq

def SpecMisfit.text : SpecMisfit → String
  | .notAMapping found => "a spec document must be a mapping, found " ++ found
  | .label found => "labels must be strings, found " ++ found
  | .source tag found => "!" ++ tag ++ " expects a string of source, found " ++ found

def SpecMisfit.report (document : SourceText) (misfit : SpecMisfit) : Report :=
  match misfit with
  | .notAMapping _ => Report.inDocument .load misfit.text document (Span.at 0)
  | .label _ | .source _ _ =>
      .mk ⟨.load, misfit.text, some document, none,
        some "see the spec document format in the crate documentation"⟩ none

/-- The role of the callables that a tag marks; a tag without a role leaves it to the source. -/
def callableTag? (name : String) : Option (Option HookTag) :=
  if name == "fn" then some none
  else if name == "before" then some (some .before)
  else if name == "after" then some (some .after)
  else none

def callableOf (source : String) : Option HookTag → Callable ν
  | none => Callable.ofSource source
  | some tag => (Callable.ofSource source).tagged tag

def taggedCallable? (tag : String) (content : Data) : Except SpecMisfit (Option (Callable ν)) :=
  match callableTag? (tagName tag) with
  | none => .ok none
  | some role =>
      match content with
      | .text source => .ok (some (callableOf source role))
      | other => .error (.source (tagName tag) (kindOf other))

mutual

def bindingOf : Data → Except SpecMisfit (Binding ν)
  | .text source => .ok (.callable (Callable.ofSource source))
  | .sequence items => (entriesOf items).map .sequence
  | .mapping members => (rowsOf members).map fun rows => .mapping (Spec.ofList rows)
  | .tagged tag content => do
      match ← taggedCallable? tag content with
      | some callable => .ok (.callable callable)
      | none => .ok (.other (kindOf (.tagged tag content)))
  | .null => .ok (.other (kindOf .null))
  | .boolean value => .ok (.other (kindOf (.boolean value)))
  | .number value => .ok (.other (kindOf (.number value)))

def rowsOf : List (Data × Data) → Except SpecMisfit (List (String × Binding ν))
  | [] => .ok []
  | (key, value) :: rest =>
      match key with
      | .text label => do
          let binding ← bindingOf value
          let others ← rowsOf rest
          .ok ((label, binding) :: others)
      | other => .error (.label (kindOf other))

def entriesOf : List Data → Except SpecMisfit (List (Entry ν))
  | [] => .ok []
  | item :: rest => do
      let entry ← entryOf item
      let others ← entriesOf rest
      .ok (entry :: others)

def entryOf : Data → Except SpecMisfit (Entry ν)
  | .text raw => .ok (.reference raw)
  | .mapping members => (rowsOf members).map fun rows => .suite (Spec.ofList rows)
  | .tagged tag content => do
      match ← taggedCallable? tag content with
      | some callable => .ok (.hook callable)
      | none => .ok (.other (kindOf (.tagged tag content)))
  | .sequence items => .ok (.other (kindOf (.sequence items)))
  | .null => .ok (.other (kindOf .null))
  | .boolean value => .ok (.other (kindOf (.boolean value)))
  | .number value => .ok (.other (kindOf (.number value)))

end

def Spec.ofData : Data → Except SpecMisfit (Spec ν)
  | .null => .ok Spec.empty
  | .mapping members => (rowsOf members).map Spec.ofList
  | other => .error (.notAMapping (kindOf other))

inductive SpecDocumentError where
  | fault (fault : Fault)
  | misfit (misfit : SpecMisfit)

def SpecDocumentError.report (document : SourceText) : SpecDocumentError → Report
  | .fault problem =>
      (Report.inDocument .load problem.text document (Span.at problem.offset)).withCause
        (Cause.ofText problem.text)
  | .misfit problem => problem.report document

def Spec.ofText (text : String) : Except SpecDocumentError (Spec ν) :=
  match Data.ofText text with
  | .error fault => .error (.fault fault)
  | .ok data => (Spec.ofData data).mapError .misfit

end SuiteOutline
