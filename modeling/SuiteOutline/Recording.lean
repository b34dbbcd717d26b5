import SuiteOutline.Framework

/-!
# A framework that records and runs suites

The recording framework keeps what it is told as a tree of suites. It runs each recorded case in a
context of its own: the hooks of the suites around a case run from the outermost suite inwards
before the case, and from the innermost outwards after it.
-/

namespace SuiteOutline

variable {ν : Type}

structure SuiteRecord (ν : Type := Value) where
  name : String
  modules : List String
  dependencies : List String
  before : List (Callable ν)
  after : List (Callable ν)
  cases : List (String × Callable ν)
  suites : List (SuiteRecord ν)

def SuiteRecord.named (name : String) : SuiteRecord ν :=
  ⟨name, [], [], [], [], [], []⟩

/-- What has been recorded: the calls, the root suite, and the suites that are still open,
innermost first. -/
structure Recording (ν : Type := Value) where
  calls : List (Call ν)
  root : SuiteRecord ν
  opened : List (SuiteRecord ν)

namespace Recording

/-- The recording of nothing; the root suite has no name. -/
def empty : Recording ν :=
  ⟨[], SuiteRecord.named "", []⟩

def noting (recording : Recording ν) (call : Call ν) : Recording ν :=
  { recording with calls := recording.calls ++ [call] }

/-- Changes the innermost open suite, or the root if none is open. -/
def changeCurrent (recording : Recording ν) (change : SuiteRecord ν → SuiteRecord ν) :
    Recording ν :=
  match recording.opened with
  | [] => { recording with root := change recording.root }
  | innermost :: others => { recording with opened := change innermost :: others }

def openSuite (recording : Recording ν) (name : String) : Recording ν :=
  { recording with opened := SuiteRecord.named name :: recording.opened }

/-- Closes the innermost open suite and adds it to the suite around it. -/
def closeSuite (recording : Recording ν) : Recording ν :=
  match recording.opened with
  | [] => recording
  | innermost :: others =>
      { recording with opened := others }.changeCurrent fun suite =>
        { suite with suites := suite.suites ++ [innermost] }

def framework : Framework (Recording ν) ν where
  describe name recording := (recording.noting (.describe name)).openSuite name
  endDescribe name recording := (recording.noting (.endDescribe name)).closeSuite
  describeWith name body recording := recording.noting (.describeWith name body)
  it name body recording :=
    (recording.noting (.it name body)).changeCurrent fun suite =>
      { suite with cases := suite.cases ++ [(name, body)] }
  loadModules names recording :=
    (recording.noting (.loadModules names)).changeCurrent fun suite =>
      { suite with modules := suite.modules ++ names }
  inject names recording :=
    (recording.noting (.inject names)).changeCurrent fun suite =>
      { suite with dependencies := suite.dependencies ++ names }
  beforeEach hook recording :=
    (recording.noting (.beforeEach hook)).changeCurrent fun suite =>
      { suite with before := suite.before ++ [hook] }
  afterEach hook recording :=
    (recording.noting (.afterEach hook)).changeCurrent fun suite =>
      { suite with after := suite.after ++ [hook] }

end Recording

/-- The instances that dependencies resolve to. -/
abbrev Injector (ν : Type := Value) := List (String × ν)

namespace SuiteRecord

def bindModule [HasBooleans ν] (context : Context ν) (name : String) : Context ν :=
  context.bind ("module:" ++ name) (HasBooleans.boolean true)

def bindDependency (injector : Injector ν) (name : String) : TestM ν Unit := do
  match Rows.find? name injector with
  | none => throw (.unbound name)
  | some value => modify fun context => context.bindShared name value

def runHooks : List (Callable ν) → TestM ν Unit
  | [] => pure ()
  | hook :: rest => do
      hook.invoke
      runHooks rest

def bindDependencies (injector : Injector ν) : List String → TestM ν Unit
  | [] => pure ()
  | name :: rest => do
      bindDependency injector name
      bindDependencies injector rest

def finishAll : List (SuiteRecord ν) → TestM ν Unit
  | [] => pure ()
  | suite :: rest => do
      runHooks suite.after
      finishAll rest

variable [HasBooleans ν]

/-- Prepares a context for the cases of a suite: its modules, its dependencies, its hooks. -/
def prepare (injector : Injector ν) (suite : SuiteRecord ν) : TestM ν Unit := do
  modify fun context => suite.modules.foldl bindModule context
  bindDependencies injector suite.dependencies
  runHooks suite.before

def prepareAll (injector : Injector ν) : List (SuiteRecord ν) → TestM ν Unit
  | [] => pure ()
  | suite :: rest => do
      suite.prepare injector
      prepareAll injector rest

/-- Runs a case inside suites, given outermost first. Once everything is prepared the hooks after
the case run whatever the case did, and if one of them fails its failure counts. -/
def runCase (injector : Injector ν) (suites : List (SuiteRecord ν)) (body : Callable ν) :
    TestM ν Unit := do
  prepareAll injector suites
  let result ← tryCatch (do body.invoke; pure none) fun failure => pure (some failure)
  finishAll suites.reverse
  match result with
  | none => pure ()
  | some failure => throw failure

abbrev CaseResult := Except CaseFailure Unit

def caseResult (injector : Injector ν) (suites : List (SuiteRecord ν)) (body : Callable ν) :
    CaseResult :=
  ((runCase injector suites body).run Context.empty).1

/-- The names of suites around a case and its own, as one; suites without a name are left out. -/
def fullName (path : List String) (name : String) : String :=
  " ".intercalate (path ++ [name])

def extendPath (path : List String) (name : String) : List String :=
  if name.isEmpty then path else path ++ [name]

mutual

/-- Runs the cases of a suite inside others, then those of the suites within it. -/
def runWithin (injector : Injector ν) (around : List (SuiteRecord ν)) (path : List String) :
    SuiteRecord ν → List (String × CaseResult)
  | ⟨name, modules, dependencies, before, after, cases, suites⟩ =>
      let suite : SuiteRecord ν := ⟨name, modules, dependencies, before, after, cases, suites⟩
      let chain := around ++ [suite]
      let inner := extendPath path name
      cases.map (fun (title, body) => (fullName inner title, caseResult injector chain body))
        ++ runAllWithin injector chain inner suites

def runAllWithin (injector : Injector ν) (around : List (SuiteRecord ν)) (path : List String) :
    List (SuiteRecord ν) → List (String × CaseResult)
  | [] => []
  | suite :: rest =>
      runWithin injector around path suite ++ runAllWithin injector around path rest

end

end SuiteRecord

namespace Recording

def runAll [HasBooleans ν] (recording : Recording ν) (injector : Injector ν) :
    List (String × SuiteRecord.CaseResult) :=
  SuiteRecord.runWithin injector [] [] recording.root

end Recording

end SuiteOutline
