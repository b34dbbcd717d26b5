import SuiteOutline.Proofs.Compilation
import SuiteOutline.Proofs.Registration

/-!
# When hosts and frameworks are called

A host that lists the calls it receives answers like the host itself.  With it one sees that
nothing is called unless the whole spec compiles, and that a compiled program is handed to the
host once and invoked at most once.
-/

namespace SuiteOutline

variable {ν : Type}

variable {σ τ unit scope : Type}

/-! ## Hosts and frameworks that list their calls -/

inductive HostCall (unit : Type) where
  | compile (program : String)
  | invoke (compiled : unit)

namespace ScriptHost

/-- The host with a list of the calls that it received, in order. -/
def watched (host : ScriptHost σ unit scope) :
    ScriptHost (σ × List (HostCall unit)) unit scope where
  compile program state :=
    let (answer, next) := host.compile program state.1
    (answer, next, state.2 ++ [.compile program])
  invoke compiled state ambient :=
    let (answer, next, changed) := host.invoke compiled state.1 ambient
    (answer, (next, state.2 ++ [.invoke compiled]), changed)

/-- A program was handed to a host: what came of it, the calls that the host received, and the
state and the scope that were left. -/
inductive Executes {α : Type} (host : ScriptHost σ unit scope) (program : String) (value : α)
    (state : σ) (ambient : scope) :
    Except RunError α → List (HostCall unit) → σ → scope → Prop where
  /-- The host does not accept the text: nothing is invoked and the scope stays as it is. -/
  | refused {cause : Cause} {next : σ} {error : RunError}
      (answered : host.compile program state = (.error cause, next))
      (isHost : error.report.kind = .host) (caused : error.report.cause? = some cause) :
      Executes host program value state ambient (.error error) [.compile program] next ambient
  | failed {compiled : unit} {between next : σ} {cause : Cause} {changed : scope}
      {error : RunError} (accepted : host.compile program state = (.ok compiled, between))
      (answered : host.invoke compiled between ambient = (.error cause, next, changed))
      (isHost : error.report.kind = .host) (caused : error.report.cause? = some cause) :
      Executes host program value state ambient (.error error)
        [.compile program, .invoke compiled] next changed
  | succeeded {compiled : unit} {between next : σ} {changed : scope}
      (accepted : host.compile program state = (.ok compiled, between))
      (answered : host.invoke compiled between ambient = (.ok (), next, changed)) :
      Executes host program value state ambient (.ok value)
        [.compile program, .invoke compiled] next changed

theorem Executes.map {α β : Type} {host : ScriptHost σ unit scope} {program : String} {value : α}
    {state next : σ} {ambient changed : scope} {result : Except RunError α}
    {calls : List (HostCall unit)}
    (executes : host.Executes program value state ambient result calls next changed)
    (function : α → β) :
    host.Executes program (function value) state ambient (result.map function) calls next
      changed := by
  cases executes with
  | refused answered isHost caused => exact .refused answered isHost caused
  | failed accepted answered isHost caused => exact .failed accepted answered isHost caused
  | succeeded accepted answered => exact .succeeded accepted answered

variable (host : ScriptHost σ unit scope) (program : String) (state : σ) (ambient : scope)

def executeCalls : List (HostCall unit) :=
  match (host.compile program state).1 with
  | .error _ => [.compile program]
  | .ok compiled => [.compile program, .invoke compiled]

theorem execute_watched (listed : List (HostCall unit)) :
    host.watched.execute program (state, listed) ambient =
      ((host.execute program state ambient).1,
        ((host.execute program state ambient).2.1, listed ++ host.executeCalls program state),
        (host.execute program state ambient).2.2) := by
  cases accepts : host.compile program state with
  | mk answer between =>
      cases answer with
      | error cause => simp only [execute, executeCalls, watched, accepts]
      | ok compiled =>
          cases answers : host.invoke compiled between ambient with
          | mk answer left =>
              cases answer <;>
                simp only [execute, executeCalls, watched, accepts, answers, List.append_assoc,
                  List.singleton_append]

def runResult {α : Type} (value : α) (answer : Except HostError Unit) : Except RunError α :=
  match answer with
  | .error error => .error (.host error)
  | .ok () => .ok value

/-- A host compiles a program once and invokes the unit that comes back at most once. -/
theorem execute_executes {α : Type} (value : α) :
    host.Executes program value state ambient
      (runResult value (host.execute program state ambient).1) (host.executeCalls program state)
      (host.execute program state ambient).2.1 (host.execute program state ambient).2.2 := by
  cases accepts : host.compile program state with
  | mk answer between =>
      cases answer with
      | error cause =>
          simp only [execute, executeCalls, accepts]
          exact .refused accepts rfl rfl
      | ok compiled =>
          simp only [execute, executeCalls, accepts]
          cases answers : host.invoke compiled between ambient with
          | mk answer left =>
              obtain ⟨next, changed⟩ := left
              cases answer with
              | error cause => exact .failed accepts answers rfl rfl
              | ok done => exact .succeeded accepts answers

end ScriptHost

namespace Framework

def watched (framework : Framework τ ν) : Framework (τ × List (Call ν)) ν where
  describe name state := (framework.describe name state.1, state.2 ++ [.describe name])
  endDescribe name state := (framework.endDescribe name state.1, state.2 ++ [.endDescribe name])
  describeWith name body state :=
    (framework.describeWith name body state.1, state.2 ++ [.describeWith name body])
  it name body state := (framework.it name body state.1, state.2 ++ [.it name body])
  loadModules names state := (framework.loadModules names state.1, state.2 ++ [.loadModules names])
  inject names state := (framework.inject names state.1, state.2 ++ [.inject names])
  beforeEach hook state := (framework.beforeEach hook state.1, state.2 ++ [.beforeEach hook])
  afterEach hook state := (framework.afterEach hook state.1, state.2 ++ [.afterEach hook])

theorem register_watched (framework : Framework τ ν) (blocks : List (Block ν)) (state : τ)
    (listed : List (Call ν)) :
    framework.watched.register blocks (state, listed) =
      (framework.register blocks state, listed ++ calls blocks) := by
  have watchedAnswers (made : List (Call ν)) (state : τ) (listed : List (Call ν)) :
      made.foldl framework.watched.answer (state, listed) =
        (made.foldl framework.answer state, listed ++ made) := by
    induction made generalizing state listed with
    | nil => simp
    | cons call rest ih =>
        have first : framework.watched.answer (state, listed) call =
            (framework.answer state call, listed ++ [call]) := by
          cases call <;> rfl
        rw [List.foldl_cons, first, ih, List.foldl_cons, List.append_assoc,
          List.singleton_append]
  rw [register_eq_foldl_calls, watchedAnswers, ← register_eq_foldl_calls]

end Framework

namespace Options

variable (options : Options)

def runCalls (host : ScriptHost σ unit scope) (spec : Spec ν) (state : σ) (ambient : scope) :
    List (HostCall unit) :=
  (options.run host.watched spec (state, []) ambient).2.1.2

def compileAtCalls (host : ScriptHost σ unit scope) (spec : Spec ν) (depth : UInt64) (state : σ)
    (ambient : scope) : List (HostCall unit) :=
  (options.compileAt host.watched spec depth (state, []) ambient).2.1.2

def registerCalls (framework : Framework τ ν) (spec : Spec ν) (state : τ) : List (Call ν) :=
  (options.register framework.watched spec (state, [])).2.2

/-- Whether a spec compiles, and to what, is the same at every depth. -/
theorem compileBlocks_outcome_depth (spec : Spec ν) (depth other : UInt64) :
    (options.compileBlocks spec depth).outcome = (options.compileBlocks spec other).outcome := by
  rw [(options.compileBlocks_settles spec depth).outcome_eq,
    (options.compileBlocks_settles spec other).outcome_eq]

theorem compileBlocks_dropped_depth (spec : Spec ν) {depth : UInt64} (other : UInt64)
    {blocks : List (Block ν)} (compiled : (options.compileBlocks spec depth).outcome = .ok blocks) :
    (options.compileBlocks spec depth).dropped = (options.compileBlocks spec other).dropped := by
  obtain ⟨-, reports, innocent⟩ := (options.compileBlocks_settles spec depth).of_ok compiled
  rw [reports, (options.compileBlocks_settles spec other).dropped_eq innocent]

variable {spec : Spec ν} {depth : UInt64}

theorem program_of_error {error : CompileError}
    (failed : (options.compileBlocks spec depth).outcome = .error error) :
    (options.program spec).result = .error error := by
  rw [options.compileBlocks_outcome_depth spec depth 0] at failed
  rw [program, failed]

theorem program_of_ok {blocks : List (Block ν)}
    (compiled : (options.compileBlocks spec depth).outcome = .ok blocks) :
    (options.program spec).result =
      .ok ⟨Script.blocks options.dialect blocks, blocks,
        (options.compileBlocks spec depth).dropped⟩ := by
  rw [options.compileBlocks_dropped_depth spec 0 compiled]
  rw [options.compileBlocks_outcome_depth spec depth 0] at compiled
  rw [program, compiled]

theorem run_of_error (host : ScriptHost σ unit scope) (state : σ) (ambient : scope)
    {error : CompileError} (failed : (options.program spec).result = .error error) :
    options.run host spec state ambient =
      (⟨.error (.compile error), (options.program spec).notes⟩, state, ambient) := by
  simp only [run, failed]

theorem run_of_ok (host : ScriptHost σ unit scope) (state : σ) (ambient : scope)
    {program : Program ν} (made : (options.program spec).result = .ok program) :
    options.run host spec state ambient =
      (⟨ScriptHost.runResult program (host.execute program.text state ambient).1,
        (options.program spec).notes⟩, (host.execute program.text state ambient).2) := by
  simp only [run, made]
  cases executed : host.execute program.text state ambient with
  | mk answer left => cases answer <;> rfl

theorem run_executes (host : ScriptHost σ unit scope) (state : σ) (ambient : scope)
    {program : Program ν} (made : (options.program spec).result = .ok program) :
    host.Executes program.text program state ambient
      (options.run host spec state ambient).1.result
      (options.runCalls host spec state ambient)
      (options.run host spec state ambient).2.1 (options.run host spec state ambient).2.2 := by
  have called : options.runCalls host spec state ambient =
      host.executeCalls program.text state := by
    rw [runCalls, options.run_of_ok host.watched (state, []) ambient made,
      ScriptHost.execute_watched, List.nil_append]
  rw [called, options.run_of_ok host state ambient made]
  exact host.execute_executes program.text state ambient program

theorem compileAt_of_ne_zero (host : ScriptHost σ unit scope) (state : σ) (ambient : scope)
    (below : depth ≠ 0) :
    (options.compileAt host spec depth state ambient).2 = (state, ambient) := by
  rw [compileAt, if_neg below]

theorem compileAt_zero (host : ScriptHost σ unit scope) (state : σ) (ambient : scope) :
    options.compileAt host spec 0 state ambient =
      (⟨(options.run host spec state ambient).1.result.map .executed,
        (options.run host spec state ambient).1.notes⟩,
        (options.run host spec state ambient).2) := rfl

theorem compileAt_of_error (host : ScriptHost σ unit scope) (state : σ) (ambient : scope)
    {error : CompileError} (failed : (options.compileBlocks spec depth).outcome = .error error) :
    (options.compileAt host spec depth state ambient).1.result = .error (.compile error) ∧
      (options.compileAt host spec depth state ambient).2 = (state, ambient) := by
  by_cases root : depth = 0
  · subst root
    have ran := options.run_of_error host state ambient (options.program_of_error failed)
    rw [compileAt_zero, ran]
    exact ⟨rfl, rfl⟩
  · refine ⟨?_, options.compileAt_of_ne_zero host state ambient root⟩
    simp only [compileAt, if_neg root, fragment, failed]
    rfl

end Options

/-- Unless the whole spec compiles, running, compiling and registering it return its error and
call nothing.  If it compiles, running it, and compiling it at depth zero, hands exactly its text
to the host once, and the unit that comes back is invoked once; registering it makes exactly the
calls of its blocks.  Compiling it further down calls no host. -/
theorem called_only_when_compiled (options : Options) (spec : Spec ν) (depth : UInt64)
    (host : ScriptHost σ unit scope) (state : σ) (ambient : scope) (framework : Framework τ ν)
    (registry : τ) :
    (∀ error, (options.compileBlocks spec depth).outcome = .error error →
      ((options.run host spec state ambient).1.result = .error (.compile error) ∧
        (options.run host spec state ambient).2 = (state, ambient) ∧
        options.runCalls host spec state ambient = []) ∧
      ((options.compileAt host spec depth state ambient).1.result = .error (.compile error) ∧
        (options.compileAt host spec depth state ambient).2 = (state, ambient) ∧
        options.compileAtCalls host spec depth state ambient = []) ∧
      ((options.register framework spec registry).1.result = .error error ∧
        (options.register framework spec registry).2 = registry ∧
        options.registerCalls framework spec registry = [])) ∧
    (∀ blocks, (options.compileBlocks spec depth).outcome = .ok blocks →
      let program : Program ν := ⟨Script.blocks options.dialect blocks, blocks,
        (options.compileBlocks spec depth).dropped⟩
      host.Executes program.text program state ambient
        (options.run host spec state ambient).1.result
        (options.runCalls host spec state ambient)
        (options.run host spec state ambient).2.1 (options.run host spec state ambient).2.2 ∧
      (depth = 0 → host.Executes program.text (Outcome.executed program) state ambient
        (options.compileAt host spec depth state ambient).1.result
        (options.compileAtCalls host spec depth state ambient)
        (options.compileAt host spec depth state ambient).2.1
        (options.compileAt host spec depth state ambient).2.2) ∧
      ((options.register framework spec registry).1.result = .ok program ∧
        (options.register framework spec registry).2 = framework.register blocks registry ∧
        options.registerCalls framework spec registry = Framework.calls blocks)) ∧
    (depth ≠ 0 →
      (options.compileAt host spec depth state ambient).2 = (state, ambient) ∧
        options.compileAtCalls host spec depth state ambient = []) := by
  refine ⟨?_, ?_, ?_⟩
  · intro error failed
    have noProgram := options.program_of_error failed
    have ran := options.run_of_error host state ambient noProgram
    have watchedRan := options.run_of_error host.watched (state, []) ambient noProgram
    have compiledAt := options.compileAt_of_error host state ambient failed
    have watchedAt := options.compileAt_of_error host.watched (state, []) ambient failed
    refine ⟨⟨?_, ?_, ?_⟩, ⟨compiledAt.1, compiledAt.2, ?_⟩, ?_⟩
    · rw [ran]
    · rw [ran]
    · rw [Options.runCalls, watchedRan]
    · rw [Options.compileAtCalls, watchedAt.2]
    · simp only [Options.registerCalls, Options.register, noProgram, and_self]
  · intro blocks compiled
    have made := options.program_of_ok compiled
    have executes := options.run_executes host state ambient made
    refine ⟨executes, ?_, ?_⟩
    · rintro rfl
      exact executes.map Outcome.executed
    · simp only [Options.registerCalls, Options.register, made, Framework.register_watched,
        List.nil_append, and_self]
  · intro below
    refine ⟨options.compileAt_of_ne_zero host state ambient below, ?_⟩
    rw [Options.compileAtCalls, options.compileAt_of_ne_zero host.watched (state, []) ambient below]

end SuiteOutline
