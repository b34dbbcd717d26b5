import SuiteOutline.Proofs.Restraint

/-!
# Compiling under observation

A compilation can be watched: with debugging on, its notes go as messages to a sink, written in the
dialect and naming the depths at which suites stand.  None of this comes back to the compilation.
What a spec compiles to depends on the rules among the options and on nothing that only an observer
sees.
-/

namespace SuiteOutline

variable {ν : Type}

/-- What takes messages, one after another, and answers nothing. -/
structure Sink (τ : Type) where
  emit : String → τ → τ

def Sink.receive {τ : Type} (sink : Sink τ) (messages : List String) (state : τ) : τ :=
  messages.foldl (fun state message => sink.emit message state) state

def Run.noted {α : Type} (run : Run α ν) : Noted (Except CompileError (α × List DroppedEntry)) ν :=
  ⟨run.result, run.notes⟩

namespace Options

/-- Options with the same rules: they may differ in debugging and in the dialect. -/
structure SameRules (first second : Options) : Prop where
  depth : first.maxDepth = second.maxDepth
  policy : first.unknownEntries = second.unknownEntries
  names : first.validateIdentifiers = second.validateIdentifiers

/-- A result, with the state in which its messages leave a sink. -/
def observed (options : Options) {α τ : Type} (sink : Sink τ) (state : τ) (noted : Noted α ν) :
    α × τ :=
  (noted.result, sink.receive (options.messages noted.notes) state)

theorem messages_of_silent {options : Options} (silent : options.debug = false)
    (notes : List (Note ν)) : options.messages notes = [] := by
  rw [messages, silent]
  rfl

/-- A sink that is attached without debugging keeps its state. -/
theorem observed_of_silent {options : Options} (silent : options.debug = false) {α τ : Type}
    (sink : Sink τ) (state : τ) (noted : Noted α ν) :
    options.observed sink state noted = (noted.result, state) := by
  rw [observed, messages_of_silent silent]
  rfl

theorem fragment_result_eq_map (options : Options) (spec : Spec ν) (depth : UInt64) :
    (options.fragment spec depth).result =
      (options.compileBlocks spec depth).result.map fun (blocks, _) =>
        Script.blocks options.dialect blocks := by
  rw [fragment, Run.result]
  cases (options.compileBlocks spec depth).outcome <;> rfl

theorem program_result_eq_map (options : Options) (spec : Spec ν) :
    (options.program spec).result =
      (options.compileBlocks spec 0).result.map fun (blocks, dropped) =>
        ⟨Script.blocks options.dialect blocks, blocks, dropped⟩ := by
  rw [program, Run.result]
  cases (options.compileBlocks spec 0).outcome <;> rfl

namespace SameRules

variable {first second : Options} (same : first.SameRules second)

include same

theorem fault?_eq (position : Position ν) : position.fault? first = position.fault? second := by
  cases position with
  | atLabel path label binding => rfl
  | atEntry path earlier entry =>
      simp only [Position.fault?]
      cases entry <;> simp only [Position.entryFault?, same.depth, same.policy, same.names]

theorem compileBlocks_result_eq (spec : Spec ν) (depth further : UInt64) :
    (first.compileBlocks spec depth).result = (second.compileBlocks spec further).result := by
  have faults : Position.fault? (ν := ν) first = Position.fault? second := funext same.fault?_eq
  rw [(first.compileBlocks_settles spec depth).result_eq,
    (second.compileBlocks_settles spec further).result_eq, faults]

section SameDialect

variable (dialect : first.dialect = second.dialect)

include dialect

theorem program_result_eq (spec : Spec ν) :
    (first.program spec).result = (second.program spec).result := by
  rw [program_result_eq_map, program_result_eq_map, same.compileBlocks_result_eq spec 0 0, dialect]

theorem fragment_result_eq (spec : Spec ν) (depth : UInt64) :
    (first.fragment spec depth).result = (second.program spec).result.map Program.text := by
  rw [fragment_result_eq_map, program_result_eq_map, same.compileBlocks_result_eq spec depth 0,
    dialect]
  cases (second.compileBlocks spec 0).result <;> rfl

end SameDialect

theorem symm : second.SameRules first :=
  ⟨same.depth.symm, same.policy.symm, same.names.symm⟩

end SameRules

end Options

/-- Whoever watches a compilation, and wherever it starts, it comes to the same.  Under options with
the same rules, with any sinks and at any depths, a spec compiles to the same blocks and dropped
entries or fails with the same error; in one dialect its fragments and its program have the same
text.  Without debugging no sink receives anything, whatever the call and whatever comes of it. -/
theorem compilation_ignores_observation {first second : Options} (same : first.SameRules second)
    {τ υ : Type} (sink : Sink τ) (other : Sink υ) (state : τ) (kept : υ) (spec : Spec ν)
    (depth further : UInt64) :
    (first.observed sink state (first.compileBlocks spec depth).noted).1 =
      (second.observed other kept (second.compileBlocks spec further).noted).1 ∧
    (first.dialect = second.dialect →
      (first.observed sink state (first.fragment spec depth)).1 =
        (second.observed other kept (second.fragment spec further)).1 ∧
      (first.observed sink state (first.fragment spec depth)).1 =
        (second.observed other kept (second.program spec)).1.map Program.text ∧
      (first.observed sink state (first.program spec)).1 =
        (second.observed other kept (second.program spec)).1) ∧
    (first.debug = false →
      (first.observed sink state (first.compileBlocks spec depth).noted).2 = state ∧
      (first.observed sink state (first.fragment spec depth)).2 = state ∧
      (first.observed sink state (first.program spec)).2 = state ∧
      (∀ (σ unit scope : Type) (host : ScriptHost σ unit scope) (start : σ) (ambient : scope),
        (first.observed sink state (first.run host spec start ambient).1).2 = state ∧
        (first.observed sink state (first.compileAt host spec depth start ambient).1).2 = state) ∧
      ∀ (σ : Type) (framework : Framework σ ν) (start : σ),
        (first.observed sink state (first.register framework spec start).1).2 = state) := by
  refine ⟨same.compileBlocks_result_eq spec depth further, ?_, ?_⟩
  · intro dialect
    have text := same.fragment_result_eq dialect spec depth
    have textToo := same.symm.fragment_result_eq dialect.symm spec further
    have programs := same.program_result_eq dialect spec
    refine ⟨?_, text, programs⟩
    rw [programs] at textToo
    exact text.trans textToo.symm
  · intro silent
    simp only [Options.observed_of_silent silent, and_self, implies_true]

/-- A suite with an entry to drop, compiled loudly and in another dialect: to the same block.  A
spec that does not compile fails the same way; the quiet compilation tells a counting sink
nothing. -/
theorem compilation_ignores_observation_widget :
    Options.SameRules {} { debug := true, dialect := { describe := "context" } } ∧
    (({ debug := true, dialect := { describe := "context" } } : Options).compileBlocks (ν := Value)
        (.mk [("Widget", .sequence [.other "number", .reference "svc"])]) 7).result =
      .ok ([.mk .suite "Widget" (.items [.inject ["svc"]])],
        [⟨"Widget", 0, "number", .unsupportedShape⟩]) ∧
    (({} : Options).fragment (ν := Value)
        (.mk [("Widget", .sequence [.reference "svc"])]) 7).result =
      .ok (Script.blocks (ν := Value) {} [.mk .suite "Widget" (.items [.inject ["svc"]])]) ∧
    (({} : Options).observed (ν := Value) ⟨fun _ count => count + 1⟩ 0
        (({} : Options).compileBlocks (.mk [("Widget", .other "number")]) 7).noted).2 = 0 := by
  have same : Options.SameRules {} { debug := true, dialect := { describe := "context" } } :=
    ⟨rfl, rfl, rfl⟩
  obtain ⟨blocks, -, -⟩ := compilation_ignores_observation (ν := Value) same
    (⟨fun _ count => count + 1⟩ : Sink Nat) (⟨fun message _ => message⟩ : Sink String) 0 ""
    (.mk [("Widget", .sequence [.other "number", .reference "svc"])]) 0 7
  obtain ⟨-, texts, -⟩ := compilation_ignores_observation (ν := Value)
    (⟨rfl, rfl, rfl⟩ : Options.SameRules {} { debug := true })
    (⟨fun _ count => count + 1⟩ : Sink Nat) (⟨fun message _ => message⟩ : Sink String) 0 ""
    (.mk [("Widget", .sequence [.reference "svc"])]) 7 0
  obtain ⟨-, -, quiet⟩ := compilation_ignores_observation (ν := Value) same
    (⟨fun _ count => count + 1⟩ : Sink Nat) (⟨fun message _ => message⟩ : Sink String) 0 ""
    (.mk [("Widget", .other "number")]) 7 0
  exact ⟨same, blocks.symm, (texts rfl).1, (quiet rfl).1⟩

end SuiteOutline
