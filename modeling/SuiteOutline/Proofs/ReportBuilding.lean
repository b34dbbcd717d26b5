import Mathlib.Data.List.DropRight
import Mathlib.Data.List.Induction
import SuiteOutline.Report

/-!
# Reports and the steps that build them

A report may be given a hint, given a cause, or put beneath another report as its cause.  After any
such steps it says what the outermost report has said from the start.  Only its hint and what lies
beneath it depend on the steps, and each of the two only on the last step that names it.  So its
marker is that of the outermost report too; it is there for any span in a document, also for one
that ends before it starts, and its length is found without a difference that wraps around.
-/

namespace SuiteOutline

/-- One step in the building of a report. -/
inductive ReportStep where
  | setHelp (help : String)
  | setCause (cause : Cause)
  /-- Makes the report the cause of another one, which takes its place. -/
  | wrapIn (outer : Report)

namespace ReportStep

def apply (report : Report) : ReportStep → Report
  | .setHelp help => report.withHelp help
  | .setCause cause => report.withCause cause
  | .wrapIn outer => outer.withCause (.report report)

def outer? : ReportStep → Option Report
  | .setHelp _ => none
  | .setCause _ => none
  | .wrapIn outer => some outer

def help? : ReportStep → Option String
  | .setHelp help => some help
  | .setCause _ => none
  | .wrapIn _ => none

/-- The cause that a step attaches when it is taken at a report. -/
def attached? (report : Report) : ReportStep → Option Cause
  | .setHelp _ => none
  | .setCause cause => some cause
  | .wrapIn _ => some (.report report)

/-- The steps after the last one that puts a report around. -/
def sinceOuter (steps : List ReportStep) : List ReportStep :=
  steps.rtakeWhile fun step => step.outer?.isNone

/-- The last hint that is set for the outermost report. -/
def lastHelp? (steps : List ReportStep) : Option String :=
  ((sinceOuter steps).filterMap help?).getLast?

/-- Where another report is put around, the hints so far stay with the report inside. -/
theorem lastHelp?_concat (steps : List ReportStep) (last : ReportStep) :
    lastHelp? (steps ++ [last]) =
      last.help?.or (if last.outer?.isNone then lastHelp? steps else none) := by
  rw [lastHelp?, sinceOuter]
  cases last with
  | setHelp _ | setCause _ =>
      rw [List.rtakeWhile_concat_pos _ _ _ rfl, List.filterMap_append, List.getLast?_append]
      rfl
  | wrapIn outer =>
      rw [List.rtakeWhile_concat_neg _ _ _ Bool.false_ne_true]
      rfl

end ReportStep

namespace Report

open ReportStep

def after (report : Report) (steps : List ReportStep) : Report :=
  steps.foldl ReportStep.apply report

/-- The last report that the steps put around, or the one that they start with. -/
def outermost (report : Report) (steps : List ReportStep) : Report :=
  (steps.filterMap outer?).getLast?.getD report

def attached : Report → List ReportStep → List Cause
  | _, [] => []
  | report, step :: later =>
      (step.attached? report).toList ++ attached (step.apply report) later

variable (report : Report)

theorem after_concat (steps : List ReportStep) (last : ReportStep) :
    report.after (steps ++ [last]) = last.apply (report.after steps) := by
  rw [after, List.foldl_append]
  rfl

theorem outermost_concat (steps : List ReportStep) (last : ReportStep) :
    report.outermost (steps ++ [last]) = last.outer?.getD (report.outermost steps) := by
  rw [outermost, List.filterMap_append, List.getLast?_append]
  cases last <;> rfl

theorem attached_concat (steps : List ReportStep) (last : ReportStep) :
    report.attached (steps ++ [last]) =
      report.attached steps ++ (last.attached? (report.after steps)).toList := by
  induction steps generalizing report with
  | nil => exact List.append_nil _
  | cons step later ih =>
      rw [List.cons_append, attached, ih, attached, List.append_assoc]
      rfl

/-! ## What the steps leave -/

/-- One step changes the hint at most, unless it changes the report. -/
theorem notice_apply (step : ReportStep) :
    (step.apply report).notice =
      { (step.outer?.getD report).notice with
        help := step.help?.or (step.outer?.getD report).help } := by
  cases step <;> rfl

theorem cause?_apply (step : ReportStep) :
    (step.apply report).cause? = (step.attached? report).or report.cause? := by
  cases step <;> rfl

theorem notice_after (steps : List ReportStep) :
    (report.after steps).notice =
      { (report.outermost steps).notice with
        help := (lastHelp? steps).or (report.outermost steps).help } := by
  induction steps using List.reverseRecOn with
  | nil => rfl
  | append_singleton steps last ih =>
      rw [after_concat, notice_apply, outermost_concat, lastHelp?_concat]
      cases last.outer? with
      | none =>
          rw [Option.getD_none, Option.getD_none, Report.help, ih, Option.isNone_none, if_pos rfl,
            Option.or_assoc]
      | some outer =>
          rw [Option.getD_some, Option.getD_some, Option.isNone_some, if_neg Bool.false_ne_true,
            Option.or_none]

theorem cause?_after (steps : List ReportStep) :
    (report.after steps).cause? = (report.attached steps).getLast?.or report.cause? := by
  induction steps using List.reverseRecOn with
  | nil => rfl
  | append_singleton steps last ih =>
      rw [after_concat, cause?_apply, attached_concat, List.getLast?_append, Option.or_assoc, ← ih]
      cases last.attached? (report.after steps) <;> rfl

theorem after_swap (steps later : List ReportStep) (help : String) (cause : Cause) :
    report.after (steps ++ .setHelp help :: .setCause cause :: later) =
      report.after (steps ++ .setCause cause :: .setHelp help :: later) := by
  rw [after, after, List.foldl_append, List.foldl_append]
  rfl

end Report

/-! ## What lies beneath -/

def Cause.cause? : Cause → Option Cause
  | .outside _ cause => cause
  | .report inner => inner.cause?

def Cause.text : Cause → String
  | .outside text _ => text
  | .report inner => inner.text

mutual

/-- Everything beneath a cause, each one directly beneath the one before. -/
def Cause.beneath : Cause → List Cause
  | .outside _ none => []
  | .outside _ (some cause) => cause :: cause.beneath
  | .report report => report.beneath

def Report.beneath : Report → List Cause
  | .mk _ none => []
  | .mk _ (some cause) => cause :: cause.beneath

end

def Cause.downFrom : Option Cause → List Cause
  | none => []
  | some cause => cause :: cause.beneath

theorem Report.beneath_eq (report : Report) : report.beneath = Cause.downFrom report.cause? := by
  obtain ⟨notice, _ | cause⟩ := report <;> rw [beneath, cause?, Cause.downFrom]

theorem Cause.beneath_eq (cause : Cause) : cause.beneath = downFrom cause.cause? := by
  rcases cause with ⟨text, _ | below⟩ | inner
  · rw [beneath, cause?, downFrom]
  · rw [beneath, cause?, downFrom]
  · rw [beneath, cause?, inner.beneath_eq]

mutual

theorem Cause.chain_eq_map :
    (cause : Cause) → cause.chain = cause.text :: cause.beneath.map Cause.text
  | .outside text none => by simp [Cause.chain, Cause.beneath, Cause.text]
  | .outside text (some cause) => by
      simp [Cause.chain, Cause.beneath, Cause.text, cause.chain_eq_map]
  | .report report => by simp [Cause.chain, Cause.beneath, Cause.text, report.lines_eq_map]

theorem Report.lines_eq_map :
    (report : Report) → report.lines = report.text :: report.beneath.map Cause.text
  | .mk notice none => by simp [Report.lines, Report.beneath, Report.text, Report.notice]
  | .mk notice (some cause) => by
      simp [Report.lines, Report.beneath, Report.text, Report.notice, cause.chain_eq_map]

end

theorem Report.beneath_after (report : Report) (steps : List ReportStep) :
    (report.after steps).beneath =
      Cause.downFrom ((report.attached steps).getLast?.or report.cause?) := by
  rw [beneath_eq, cause?_after]

theorem Report.causes_eq_map (report : Report) : report.causes = report.beneath.map Cause.text := by
  obtain ⟨notice, _ | cause⟩ := report
  · simp [causes, cause?, beneath]
  · simp [causes, cause?, beneath, cause.chain_eq_map]

/-! ## Markers -/

namespace Span

/-- The number of places from one machine word to another, unless the difference of the words
would wrap around. -/
def wordsApart? (start stop : USize) : Option USize :=
  if start ≤ stop then some (stop - start) else none

def lengthInWords? (start stop : USize) : Option USize :=
  if start < stop then wordsApart? start stop else some 1

theorem length_eq_max (span : Span) :
    (span.length : Int) = max 1 ((span.stop : Int) - span.start) := by
  rw [length]
  split <;> omega

theorem one_le_length (span : Span) : 1 ≤ span.length := by
  have := span.length_eq_max
  omega

/-- Machine words compute the length, and never take a larger one from a smaller one. -/
theorem map_lengthInWords? (start stop : USize) :
    (lengthInWords? start stop).map USize.toNat =
      some (Span.length ⟨start.toNat, stop.toNat⟩) := by
  rw [lengthInWords?, length]
  by_cases ordered : start < stop
  · have atMost : start ≤ stop := USize.le_of_lt ordered
    rw [if_pos ordered, wordsApart?, if_pos atMost, if_pos (USize.lt_iff_toNat_lt.mp ordered),
      Option.map_some, USize.toNat_sub_of_le _ _ atMost]
  · rw [if_neg ordered, if_neg (mt USize.lt_iff_toNat_lt.mpr ordered), Option.map_some]
    simp

end Span

/-- A marker is where a span is: it starts with the span, and is as long as the span is or, where
that would leave it empty, one place long. -/
structure Marker.Underlines (marker : Marker) (span : Span) : Prop where
  offset : marker.offset = span.start
  one_le_length : 1 ≤ marker.length
  length : (marker.length : Int) = max 1 ((span.stop : Int) - span.start)

namespace Report

open ReportStep

variable {report : Report}

theorem marker_eq_some_iff {marker : Marker} :
    report.marker = some marker ↔
      report.notice.document.isSome = true ∧
        ∃ span, report.notice.span = some span ∧
          marker = ⟨report.notice.message, span.start, span.length⟩ := by
  rw [Report.marker]
  cases report.notice.document with
  | none => simp
  | some document =>
      cases report.notice.span with
      | none => simp
      | some span => simp [eq_comm]

theorem marker_isSome_iff :
    report.marker.isSome = true ↔
      report.notice.document.isSome = true ∧ report.notice.span.isSome = true := by
  rw [Option.isSome_iff_exists, Option.isSome_iff_exists (x := report.notice.span)]
  constructor
  · rintro ⟨marker, marked⟩
    obtain ⟨document, span, present, -⟩ := marker_eq_some_iff.mp marked
    exact ⟨document, span, present⟩
  · rintro ⟨document, span, present⟩
    exact ⟨_, marker_eq_some_iff.mpr ⟨document, span, present, rfl⟩⟩

theorem underlines_of_marker {marker : Marker} (marked : report.marker = some marker) :
    ∃ span, report.notice.span = some span ∧ marker.text = report.notice.message ∧
      marker.Underlines span := by
  obtain ⟨-, span, present, rfl⟩ := marker_eq_some_iff.mp marked
  exact ⟨span, present, rfl, rfl, span.one_le_length, span.length_eq_max⟩

theorem marker_after (report : Report) (steps : List ReportStep) :
    (report.after steps).marker = (report.outermost steps).marker := by
  rw [Report.marker, Report.marker, notice_after]

end Report

open Report ReportStep in
/-- After any steps a report is its outermost report in all but two things: its hint is the last
one set since that report was put around, or else the report's own, and beneath it are the cause
that was attached last and what lies beneath that. Setting a hint and setting a cause commute. A
report with a document and a span, and no other, has a marker, which is never empty, wherever the
span ends, and no subtraction of words wraps around for it. -/
theorem builders_change_only_what_they_name (report : Report) (steps : List ReportStep) :
    ((report.after steps).kind = (report.outermost steps).kind ∧
      (report.after steps).kind.code = (report.outermost steps).kind.code ∧
      (report.after steps).text = (report.outermost steps).text ∧
      (report.after steps).notice.document = (report.outermost steps).notice.document ∧
      (report.after steps).notice.span = (report.outermost steps).notice.span ∧
      (report.after steps).marker = (report.outermost steps).marker) ∧
    (report.after steps).help = (lastHelp? steps).or (report.outermost steps).help ∧
    (report.after steps).beneath =
      Cause.downFrom ((report.attached steps).getLast?.or report.cause?) ∧
    (∀ cause : Cause, cause.beneath = Cause.downFrom cause.cause?) ∧
    (report.after steps).causes = (report.after steps).beneath.map Cause.text ∧
    (∀ (later : List ReportStep) (help : String) (cause : Cause),
      report.after (steps ++ .setHelp help :: .setCause cause :: later) =
        report.after (steps ++ .setCause cause :: .setHelp help :: later)) ∧
    ((report.after steps).marker.isSome = true ↔
      (report.after steps).notice.document.isSome = true ∧
        (report.after steps).notice.span.isSome = true) ∧
    (∀ marker, (report.after steps).marker = some marker →
      ∃ span, (report.after steps).notice.span = some span ∧
        marker.text = (report.after steps).notice.message ∧ marker.Underlines span) ∧
    ∀ start stop : USize,
      (Span.lengthInWords? start stop).map USize.toNat =
        some (Span.length ⟨start.toNat, stop.toNat⟩) := by
  have told := report.notice_after steps
  have sameKind : (report.after steps).kind = (report.outermost steps).kind := by
    rw [kind, told]
    rfl
  refine ⟨⟨sameKind, congrArg ReportKind.code sameKind, ?_, ?_, ?_, marker_after report steps⟩, ?_,
    beneath_after report steps, Cause.beneath_eq, causes_eq_map _, after_swap report steps,
    marker_isSome_iff, fun _ => underlines_of_marker, Span.map_lengthInWords?⟩
  · rw [text, told]
    rfl
  · rw [told]
  · rw [told]
  · rw [help, told]

def Report.backwardWidget : Report :=
  .inDocument .load "unsupported" ⟨"suite.yaml", "Widget: 3\n"⟩ ⟨9, 8⟩

/-- A hint and two causes, and then another report around it all with a hint of its own. -/
def ReportStep.wrappedWidget : List ReportStep :=
  [.setHelp "use a sequence", .setCause (.ofText "gone"), .setCause (.ofText "missing"),
    .wrapIn (.ofMessage .host "outer"), .setHelp "start the host"]

open Report ReportStep in
/-- The outer report keeps its text and its hint, with the inner one and its last cause beneath; the
marker of the inner report starts where the span does. -/
theorem builders_change_only_what_they_name_widget :
    (backwardWidget.after wrappedWidget).text = "Script host error: outer" ∧
    (backwardWidget.after wrappedWidget).help = some "start the host" ∧
    (backwardWidget.after wrappedWidget).causes = ["Load error: unsupported", "missing"] ∧
    ∃ span, (backwardWidget.after [.setHelp "use a sequence"]).notice.span = some span ∧
      (⟨"unsupported", 9, 1⟩ : Marker).Underlines span := by
  obtain ⟨⟨-, -, text, -⟩, help, beneath, -, causes, -⟩ :=
    builders_change_only_what_they_name backwardWidget wrappedWidget
  obtain ⟨-, -, -, -, -, -, -, marked, -⟩ :=
    builders_change_only_what_they_name backwardWidget [.setHelp "use a sequence"]
  refine ⟨text.trans (by decide), help.trans (by decide), ?_, ?_⟩
  · rw [causes, beneath]
    rfl
  · obtain ⟨span, present, -, underlines⟩ := marked ⟨"unsupported", 9, 1⟩ rfl
    exact ⟨span, present, underlines⟩

end SuiteOutline
