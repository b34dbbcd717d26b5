import Mathlib.Logic.ExistsUnique
import SuiteOutline.Recording

/-!
# What the result of a case depends on

A case is prepared step by step: through the suites around it, from the outermost inwards, modules
are loaded, dependencies are injected and hooks are run, up to the first step that fails.  Its body
is then run once, and the hooks after it whatever the body did.  Its result depends on these steps,
on its body and on the hooks that follow it, and on nothing else that is registered.  A dependency
without an instance fails exactly the cases whose preparation gets to it.
-/

namespace SuiteOutline

variable {ν : Type}

theorem run_bind {α β : Type} (first : TestM ν α) (next : α → TestM ν β) (context : Context ν) :
    (first >>= next).run context =
      match first.run context with
      | (.ok value, left) => (next value).run left
      | (.error failure, left) => (.error failure, left) := by
  change (ExceptT.bind first next).run context = _
  simp only [ExceptT.bind, ExceptT.run, ExceptT.mk, ExceptT.bindCont, bind, StateT.bind]
  cases first context with
  | mk result left => cases result <;> rfl

theorem run_caught (body : TestM ν Unit) (context : Context ν) :
    (tryCatch (do body; pure none) fun failure => pure (some failure) :
        TestM ν (Option CaseFailure)).run context =
      match body.run context with
      | (.ok _, left) => (.ok none, left)
      | (.error failure, left) => (.ok (some failure), left) := by
  change (ExceptT.tryCatch (body >>= fun _ => pure none) _).run context = _
  simp only [ExceptT.tryCatch, ExceptT.run, ExceptT.mk, bind, StateT.bind, ExceptT.bind,
    ExceptT.bindCont]
  cases body context with
  | mk result left => cases result <;> rfl

/-! ## How a case ends -/

/-- How a callable ends that is called in a context, and the context that it leaves: its live body
decides, and without one it fails. -/
inductive Callable.Ends (callable : Callable ν) (context : Context ν) :
    SuiteRecord.CaseResult → Context ν → Prop where
  | live {body : TestM ν Unit} {result : SuiteRecord.CaseResult} {left : Context ν}
      (present : callable.body = some body) (ran : body.run context = (result, left)) :
      callable.Ends context result left
  | bare (absent : callable.body = none) : callable.Ends context (.error .noBody) context

inductive Preparation (ν : Type := Value) where
  | loadModule (name : String)
  | inject (name : String)
  | runHook (hook : Callable ν)

inductive Preparation.Ends [HasBooleans ν] (injector : Injector ν) :
    Preparation ν → Context ν → SuiteRecord.CaseResult → Context ν → Prop where
  | loadModule (name : String) (context : Context ν) :
      Ends injector (.loadModule name) context (.ok ())
        (context.bind ("module:" ++ name) (HasBooleans.boolean true))
  | inject {name : String} {value : ν} (found : Rows.find? name injector = some value)
      (context : Context ν) :
      Ends injector (.inject name) context (.ok ()) (context.bindShared name value)
  | missing {name : String} (missing : Rows.find? name injector = none) (context : Context ν) :
      Ends injector (.inject name) context (.error (.unbound name)) context
  | runHook {hook : Callable ν} {context left : Context ν} {result : SuiteRecord.CaseResult}
      (called : hook.Ends context result left) : Ends injector (.runHook hook) context result left

/-- Steps are taken one after another, up to the first that fails. -/
inductive InTurn {step : Type}
    (ends : step → Context ν → SuiteRecord.CaseResult → Context ν → Prop) :
    List step → Context ν → SuiteRecord.CaseResult → Context ν → Prop where
  | done (context : Context ν) : InTurn ends [] context (.ok ()) context
  | stop {first : step} {context left : Context ν} {failure : CaseFailure}
      (failed : ends first context (.error failure) left) (rest : List step) :
      InTurn ends (first :: rest) context (.error failure) left
  | next {first : step} {rest : List step} {context between left : Context ν}
      {result : SuiteRecord.CaseResult} (passed : ends first context (.ok ()) between)
      (further : InTurn ends rest between result left) :
      InTurn ends (first :: rest) context result left

structure Setting (ν : Type := Value) where
  modules : List String
  dependencies : List String
  before : List (Callable ν)
  after : List (Callable ν)

namespace Setting

def preparations (setting : Setting ν) : List (Preparation ν) :=
  setting.modules.map .loadModule ++ setting.dependencies.map .inject
    ++ setting.before.map .runHook

def allPreparations (settings : List (Setting ν)) : List (Preparation ν) :=
  settings.flatMap preparations

def allAfter (settings : List (Setting ν)) : List (Callable ν) :=
  settings.reverse.flatMap after

/-- How a case ends in suites, given outermost first.  Once it is prepared its body is run once, and
then the hooks after it; if one of these fails, its failure counts. -/
inductive CaseEnds [HasBooleans ν] (injector : Injector ν) (settings : List (Setting ν))
    (body : Callable ν) : SuiteRecord.CaseResult → Prop where
  | unprepared {failure : CaseFailure} {left : Context ν}
      (stopped : InTurn (Preparation.Ends injector) (allPreparations settings) .empty
        (.error failure) left) :
      CaseEnds injector settings body (.error failure)
  | finished {prepared ran left : Context ν} {result : SuiteRecord.CaseResult}
      (ready : InTurn (Preparation.Ends injector) (allPreparations settings) .empty (.ok ())
        prepared)
      (called : body.Ends prepared result ran)
      (hooked : InTurn Callable.Ends (allAfter settings) ran (.ok ()) left) :
      CaseEnds injector settings body result
  | unfinished {prepared ran left : Context ν} {result : SuiteRecord.CaseResult}
      {failure : CaseFailure}
      (ready : InTurn (Preparation.Ends injector) (allPreparations settings) .empty (.ok ())
        prepared)
      (called : body.Ends prepared result ran)
      (hooked : InTurn Callable.Ends (allAfter settings) ran (.error failure) left) :
      CaseEnds injector settings body (.error failure)

/-- The preparation of a case in settings gets to a dependency without an earlier failure. -/
def Reaches [HasBooleans ν] (injector : Injector ν) (settings : List (Setting ν))
    (name : String) : Prop :=
  ∃ front rest context, allPreparations settings = front ++ .inject name :: rest ∧
    InTurn (Preparation.Ends injector) front .empty (.ok ()) context

end Setting

/-- A callable can fail in this way by itself. -/
def Callable.Raises (callable : Callable ν) (failure : CaseFailure) : Prop :=
  ∃ context left, callable.Ends context (.error failure) left

/-! ## Steps in turn -/

namespace InTurn

variable {step : Type} {ends : step → Context ν → SuiteRecord.CaseResult → Context ν → Prop}

theorem append {front rest : List step} {context between left : Context ν}
    {result : SuiteRecord.CaseResult} (passed : InTurn ends front context (.ok ()) between)
    (further : InTurn ends rest between result left) :
    InTurn ends (front ++ rest) context result left := by
  generalize ok_eq : (.ok () : SuiteRecord.CaseResult) = passing at passed
  induction passed with
  | done context => exact further
  | stop failed rest => cases ok_eq
  | next passed _ ih => exact .next passed (ih further ok_eq)

theorem exists_of_error {steps : List step} {context left : Context ν} {failure : CaseFailure}
    (stopped : InTurn ends steps context (.error failure) left) :
    ∃ front last rest between, steps = front ++ last :: rest ∧
      InTurn ends front context (.ok ()) between ∧ ends last between (.error failure) left := by
  generalize error_eq : (.error failure : SuiteRecord.CaseResult) = result at stopped
  induction stopped with
  | done context => cases error_eq
  | @stop first context left failure failed rest =>
      cases error_eq
      exact ⟨[], first, rest, context, rfl, .done context, failed⟩
  | @next first rest context between left result passed further ih =>
      obtain ⟨front, last, behind, there, rfl, before, failed⟩ := ih error_eq
      exact ⟨first :: front, last, behind, there, rfl, .next passed before, failed⟩

theorem imp_of_reached {others : step → Context ν → SuiteRecord.CaseResult → Context ν → Prop}
    {steps : List step} {context left : Context ν} {result : SuiteRecord.CaseResult}
    (taken : InTurn ends steps context result left)
    (same : ∀ front last rest between after result, steps = front ++ last :: rest →
      InTurn ends front context (.ok ()) between → ends last between result after →
      others last between result after) :
    InTurn others steps context result left := by
  induction taken with
  | done context => exact .done context
  | @stop first context left failure failed rest =>
      exact .stop (same [] first rest context left _ rfl (.done context) failed) rest
  | @next first rest context between left result passed further ih =>
      refine .next (same [] first rest context between _ rfl (.done context) passed) ?_
      apply ih
      rintro front last behind there after result rfl reached ended
      exact same (first :: front) last behind there after result rfl (.next passed reached) ended

end InTurn

def takeInTurn {step : Type} (take : step → TestM ν Unit) : List step → TestM ν Unit
  | [] => pure ()
  | first :: rest => do
      take first
      takeInTurn take rest

section

variable {step : Type} {take : step → TestM ν Unit}

theorem takeInTurn_append (front rest : List step) :
    takeInTurn take (front ++ rest) =
      takeInTurn take front >>= fun _ => takeInTurn take rest := by
  induction front with
  | nil => simp [takeInTurn]
  | cons first front ih => simp [takeInTurn, ih]

theorem takeInTurn_map {other : Type} (function : other → step) (steps : List other) :
    takeInTurn take (steps.map function) = takeInTurn (take ∘ function) steps := by
  induction steps with
  | nil => rfl
  | cons first rest ih =>
      rw [List.map_cons, takeInTurn, ih]
      rfl

theorem inTurn_iff {ends : step → Context ν → SuiteRecord.CaseResult → Context ν → Prop}
    (each : ∀ step context result left,
      ends step context result left ↔ (take step).run context = (result, left))
    {steps : List step} {context left : Context ν} {result : SuiteRecord.CaseResult} :
    InTurn ends steps context result left ↔
      (takeInTurn take steps).run context = (result, left) := by
  constructor
  · intro taken
    induction taken with
    | done context => rfl
    | stop failed rest => rw [takeInTurn, run_bind, (each _ _ _ _).mp failed]
    | next passed _ ih =>
        rw [takeInTurn, run_bind, (each _ _ _ _).mp passed]
        exact ih
  · intro ran
    induction steps generalizing context with
    | nil =>
        cases ran
        exact .done _
    | cons first rest ih =>
        rw [takeInTurn, run_bind] at ran
        cases taken : (take first).run context with
        | mk result between =>
            rw [taken] at ran
            cases result with
            | error failure =>
                cases ran
                exact .stop ((each _ _ _ _).mpr taken) rest
            | ok _ => exact .next ((each _ _ _ _).mpr taken) (ih ran)

end

/-! ## What is run ends as it should -/

theorem Callable.ends_iff {callable : Callable ν} {context left : Context ν}
    {result : SuiteRecord.CaseResult} :
    callable.Ends context result left ↔ callable.invoke.run context = (result, left) := by
  constructor
  · rintro (⟨present, ran⟩ | absent)
    · rw [invoke, present, ran]
    · rw [invoke, absent]
      rfl
  · intro ran
    rw [invoke] at ran
    cases present : callable.body with
    | some body =>
        rw [present] at ran
        exact .live present ran
    | none =>
        rw [present] at ran
        cases ran
        exact .bare present

namespace Preparation

variable [HasBooleans ν]

def take (injector : Injector ν) : Preparation ν → TestM ν Unit
  | .loadModule name => modify fun context => SuiteRecord.bindModule context name
  | .inject name => SuiteRecord.bindDependency injector name
  | .runHook hook => hook.invoke

variable {injector : Injector ν}

theorem run_inject_of_missing {name : String} (missing : Rows.find? name injector = none)
    (context : Context ν) :
    ((Preparation.inject name).take injector).run context = (.error (.unbound name), context) := by
  simp only [take, SuiteRecord.bindDependency, missing]
  rfl

theorem run_inject_of_found {name : String} {value : ν}
    (found : Rows.find? name injector = some value) (context : Context ν) :
    ((Preparation.inject name).take injector).run context =
      (.ok (), context.bindShared name value) := by
  simp only [take, SuiteRecord.bindDependency, found]
  rfl

theorem ends_iff {step : Preparation ν} {context left : Context ν}
    {result : SuiteRecord.CaseResult} :
    step.Ends injector context result left ↔
      (step.take injector).run context = (result, left) := by
  constructor
  · intro ended
    cases ended with
    | loadModule => rfl
    | inject found => exact run_inject_of_found found context
    | missing missing => exact run_inject_of_missing missing context
    | runHook called => exact Callable.ends_iff.mp called
  · intro ran
    cases step with
    | loadModule name =>
        cases ran
        exact .loadModule name context
    | inject name =>
        cases found : Rows.find? name injector with
        | none =>
            rw [run_inject_of_missing found] at ran
            cases ran
            exact .missing found context
        | some value =>
            rw [run_inject_of_found found] at ran
            cases ran
            exact .inject found context
    | runHook hook => exact .runHook (Callable.ends_iff.mpr ran)

/-- Any injector takes the steps alike that inject nothing. -/
theorem Ends.supplied {supplied : Injector ν} {step : Preparation ν} {context left : Context ν}
    {result : SuiteRecord.CaseResult} (ended : step.Ends injector context result left)
    (same : ∀ name, step = .inject name →
      Rows.find? name supplied = Rows.find? name injector) :
    step.Ends supplied context result left := by
  cases ended with
  | loadModule name => exact .loadModule name context
  | inject found => exact .inject ((same _ rfl).trans found) context
  | missing missing => exact .missing ((same _ rfl).trans missing) context
  | runHook called => exact .runHook called

theorem takeInTurn_loadModules (names : List String) :
    takeInTurn (take injector) (names.map .loadModule) =
      modify fun context => names.foldl SuiteRecord.bindModule context := by
  induction names with
  | nil => rfl
  | cons name rest ih =>
      rw [List.map_cons, takeInTurn, ih]
      rfl

end Preparation

namespace SuiteRecord

def setting (suite : SuiteRecord ν) : Setting ν :=
  ⟨suite.modules, suite.dependencies, suite.before, suite.after⟩

theorem bindDependencies_eq_takeInTurn (injector : Injector ν) (names : List String) :
    bindDependencies injector names = takeInTurn (bindDependency injector) names := by
  induction names with
  | nil => rfl
  | cons name rest ih => rw [bindDependencies, takeInTurn, ih]

theorem runHooks_eq_takeInTurn (hooks : List (Callable ν)) :
    runHooks hooks = takeInTurn Callable.invoke hooks := by
  induction hooks with
  | nil => rfl
  | cons hook rest ih => rw [runHooks, takeInTurn, ih]

theorem finishAll_eq_takeInTurn (suites : List (SuiteRecord ν)) :
    finishAll suites =
      takeInTurn Callable.invoke ((suites.map setting).flatMap Setting.after) := by
  induction suites with
  | nil => rfl
  | cons suite rest ih =>
      rw [finishAll, ih, runHooks_eq_takeInTurn, List.map_cons, List.flatMap_cons,
        takeInTurn_append]
      rfl

theorem finishes_iff {suites : List (SuiteRecord ν)} {context left : Context ν}
    {result : CaseResult} :
    InTurn Callable.Ends (Setting.allAfter (suites.map setting)) context result left ↔
      (finishAll suites.reverse).run context = (result, left) := by
  rw [finishAll_eq_takeInTurn, List.map_reverse]
  refine inTurn_iff fun _ _ _ _ => ?_
  exact Callable.ends_iff

variable [HasBooleans ν]

theorem prepare_eq_takeInTurn (injector : Injector ν) (suite : SuiteRecord ν) :
    suite.prepare injector =
      takeInTurn (Preparation.take injector) suite.setting.preparations := by
  rw [Setting.preparations, takeInTurn_append, takeInTurn_append,
    Preparation.takeInTurn_loadModules, takeInTurn_map, takeInTurn_map, prepare,
    bindDependencies_eq_takeInTurn, runHooks_eq_takeInTurn, bind_assoc]
  rfl

theorem prepareAll_eq_takeInTurn (injector : Injector ν) (suites : List (SuiteRecord ν)) :
    prepareAll injector suites =
      takeInTurn (Preparation.take injector)
        (Setting.allPreparations (suites.map setting)) := by
  induction suites with
  | nil => rfl
  | cons suite rest ih =>
      rw [prepareAll, ih, prepare_eq_takeInTurn, List.map_cons, Setting.allPreparations,
        Setting.allPreparations, List.flatMap_cons, takeInTurn_append]

/-- The body is run, then the hooks after it whatever the body did; a failure of theirs counts. -/
theorem run_runCase {injector : Injector ν} {suites : List (SuiteRecord ν)} {body : Callable ν}
    {context prepared : Context ν}
    (ready : (prepareAll injector suites).run context = (.ok (), prepared)) :
    (runCase injector suites body).run context =
      match body.invoke.run prepared with
      | (result, ran) =>
          match (finishAll suites.reverse).run ran with
          | (.ok _, left) => (result, left)
          | (.error failure, left) => (.error failure, left) := by
  rw [runCase, run_bind, ready]
  dsimp only
  rw [run_bind, run_caught]
  cases body.invoke.run prepared with
  | mk result ran =>
      cases result <;> dsimp only <;> rw [run_bind] <;>
        cases (finishAll suites.reverse).run ran with
        | mk hooked left => cases hooked <;> rfl

theorem prepares_iff {injector : Injector ν} {suites : List (SuiteRecord ν)}
    {context left : Context ν} {result : CaseResult} :
    InTurn (Preparation.Ends injector) (Setting.allPreparations (suites.map setting)) context result
        left ↔
      (prepareAll injector suites).run context = (result, left) := by
  rw [prepareAll_eq_takeInTurn]
  refine inTurn_iff fun _ _ _ _ => ?_
  exact Preparation.ends_iff

theorem caseEnds_iff {injector : Injector ν} {suites : List (SuiteRecord ν)} {body : Callable ν}
    {result : CaseResult} :
    Setting.CaseEnds injector (suites.map setting) body result ↔
      caseResult injector suites body = result := by
  constructor
  · rintro (stopped | ⟨ready, called, hooked⟩ | ⟨ready, called, hooked⟩)
    · rw [caseResult, runCase, run_bind, prepares_iff.mp stopped]
    · rw [caseResult, run_runCase (prepares_iff.mp ready), Callable.ends_iff.mp called]
      dsimp only
      rw [finishes_iff.mp hooked]
    · rw [caseResult, run_runCase (prepares_iff.mp ready), Callable.ends_iff.mp called]
      dsimp only
      rw [finishes_iff.mp hooked]
  · rintro rfl
    cases prepared : (prepareAll injector suites).run .empty with
    | mk outcome context =>
        cases outcome with
        | error failure =>
            have stops : caseResult injector suites body = .error failure := by
              rw [caseResult, runCase, run_bind, prepared]
            rw [stops]
            exact .unprepared (prepares_iff.mpr prepared)
        | ok _ =>
            rw [caseResult, run_runCase prepared]
            cases called : body.invoke.run context with
            | mk result ran =>
                dsimp only
                cases hooked : (finishAll suites.reverse).run ran with
                | mk last left =>
                    cases last with
                    | ok _ =>
                        exact .finished (prepares_iff.mpr prepared) (Callable.ends_iff.mpr called)
                          (finishes_iff.mpr hooked)
                    | error failure =>
                        exact .unfinished (prepares_iff.mpr prepared)
                          (Callable.ends_iff.mpr called) (finishes_iff.mpr hooked)

end SuiteRecord

namespace Setting

def suite (setting : Setting ν) : SuiteRecord ν :=
  ⟨"", setting.modules, setting.dependencies, setting.before, setting.after, [], []⟩

variable [HasBooleans ν] {injector : Injector ν} {settings : List (Setting ν)} {body : Callable ν}

/-- The result of a case in suites of which only the settings are known, outermost first. -/
def caseResult (injector : Injector ν) (settings : List (Setting ν)) (body : Callable ν) :
    SuiteRecord.CaseResult :=
  SuiteRecord.caseResult injector (settings.map suite) body

theorem caseEnds_iff {result : SuiteRecord.CaseResult} :
    CaseEnds injector settings body result ↔ caseResult injector settings body = result := by
  have settings_eq : (settings.map suite).map SuiteRecord.setting = settings := by
    rw [List.map_map]
    exact List.map_id settings
  rw [caseResult, ← SuiteRecord.caseEnds_iff, settings_eq]

theorem existsUnique_caseEnds (injector : Injector ν) (settings : List (Setting ν))
    (body : Callable ν) : ∃! result, CaseEnds injector settings body result :=
  ⟨_, caseEnds_iff.mpr rfl, fun _ ends => (caseEnds_iff.mp ends).symm⟩

/-- Loading nothing, injecting nothing and hooking nothing makes no difference. -/
theorem caseResult_cons_empty :
    caseResult injector (⟨[], [], [], []⟩ :: settings) body =
      caseResult injector settings body := by
  have sameAfter : allAfter (⟨[], [], [], []⟩ :: settings) = allAfter settings := by
    simp [allAfter]
  obtain ⟨result, ends, -⟩ := existsUnique_caseEnds injector settings body
  rw [caseEnds_iff.mp ends, ← caseEnds_iff]
  rcases ends with stopped | ⟨ready, called, hooked⟩ | ⟨ready, called, hooked⟩
  · exact .unprepared stopped
  · exact .finished ready called (sameAfter ▸ hooked)
  · exact .unfinished ready called (sameAfter ▸ hooked)

/-! ## Dependencies without an instance -/

theorem caseEnds_of_reaches {name : String} (missing : Rows.find? name injector = none)
    (reaches : Reaches injector settings name) :
    CaseEnds injector settings body (.error (.unbound name)) := by
  obtain ⟨front, rest, context, split, passed⟩ := reaches
  have stopped : InTurn (Preparation.Ends injector) (allPreparations settings) .empty
      (.error (.unbound name)) context := by
    rw [split]
    exact passed.append (.stop (.missing missing context) rest)
  exact .unprepared stopped

/-- Otherwise a dependency is found unbound only by a callable. -/
theorem reaches_or_raises {name : String}
    (failed : CaseEnds injector settings body (.error (.unbound name))) :
    Reaches injector settings name ∨ body.Raises (.unbound name) ∨
      ∃ setting ∈ settings, ∃ hook ∈ setting.before ++ setting.after,
        hook.Raises (.unbound name) := by
  rcases failed with stopped | ⟨-, called, -⟩ | ⟨-, -, hooked⟩
  · obtain ⟨front, last, rest, between, split, passed, ended⟩ := stopped.exists_of_error
    cases ended with
    | missing => exact .inl ⟨front, rest, _, split, passed⟩
    | @runHook hook _ left _ called =>
        have isStep : Preparation.runHook hook ∈ allPreparations settings := by
          rw [split]
          exact List.mem_append_right _ List.mem_cons_self
        obtain ⟨setting, isIn, ofSetting⟩ := List.mem_flatMap.mp isStep
        have member : hook ∈ setting.before := by
          simpa [preparations] using ofSetting
        exact .inr (.inr ⟨setting, isIn, hook, List.mem_append_left _ member, _, _, called⟩)
  · exact .inr (.inl ⟨_, _, called⟩)
  · obtain ⟨front, hook, rest, between, split, -, called⟩ := hooked.exists_of_error
    have isHook : hook ∈ allAfter settings := by
      rw [split]
      exact List.mem_append_right _ List.mem_cons_self
    obtain ⟨setting, isIn, member⟩ := List.mem_flatMap.mp isHook
    exact .inr (.inr ⟨setting, List.mem_reverse.mp isIn, hook, List.mem_append_right _ member, _, _,
      called⟩)

/-- A case whose preparation does not get to a dependency ends in the same way with any instance of
it or none. -/
theorem caseEnds_supplied {supplied : Injector ν} {name : String}
    (others : ∀ other, other ≠ name → Rows.find? other supplied = Rows.find? other injector)
    (unreached : ¬ Reaches injector settings name) {result : SuiteRecord.CaseResult} :
    CaseEnds supplied settings body result ↔ CaseEnds injector settings body result := by
  have same {result : SuiteRecord.CaseResult} {left : Context ν}
      (taken : InTurn (Preparation.Ends injector) (allPreparations settings) .empty result left) :
      InTurn (Preparation.Ends supplied) (allPreparations settings) .empty result left := by
    refine taken.imp_of_reached ?_
    intro front last rest between after result split reached ended
    refine ended.supplied ?_
    rintro other rfl
    refine others other ?_
    rintro rfl
    exact unreached ⟨front, rest, between, split, reached⟩
  have further {result : SuiteRecord.CaseResult} (ends : CaseEnds injector settings body result) :
      CaseEnds supplied settings body result := by
    rcases ends with stopped | ⟨ready, called, hooked⟩ | ⟨ready, called, hooked⟩
    · exact .unprepared (same stopped)
    · exact .finished (same ready) called hooked
    · exact .unfinished (same ready) called hooked
  have sameResult : caseResult supplied settings body = caseResult injector settings body :=
    caseEnds_iff.mp (further (caseEnds_iff.mpr rfl))
  rw [caseEnds_iff, caseEnds_iff, sameResult]

end Setting

theorem SuiteRecord.caseResult_eq [HasBooleans ν] (injector : Injector ν)
    (suites : List (SuiteRecord ν)) (body : Callable ν) :
    caseResult injector suites body =
      Setting.caseResult injector (suites.map setting) body :=
  (Setting.caseEnds_iff.mp (caseEnds_iff.mpr rfl)).symm

end SuiteOutline
