import SuiteOutline.Block

/-!
# Registration with a test framework

A framework receives one call for every block and item, in order: a suite is opened, its items are
registered, and the suite is closed. The calls are also data, so that what a framework was told
can be listed.
-/

namespace SuiteOutline

variable {ν : Type}

/-- How a framework's state answers each call. -/
structure Framework (σ : Type) (ν : Type := Value) where
  /-- Opens a suite; what follows belongs to it until it is closed. -/
  describe : String → σ → σ
  endDescribe : String → σ → σ
  /-- A suite whose body is one callable. -/
  describeWith : String → Callable ν → σ → σ
  it : String → Callable ν → σ → σ
  loadModules : List String → σ → σ
  inject : List String → σ → σ
  beforeEach : Callable ν → σ → σ
  afterEach : Callable ν → σ → σ

namespace Framework

variable {σ : Type} (framework : Framework σ ν)

def registerCallable (kind : LabelKind) (label : String) (callable : Callable ν) (state : σ) : σ :=
  match kind with
  | .suite => framework.describeWith label callable state
  | .case => framework.it label callable state

mutual

def registerBlock : Block ν → σ → σ
  | .mk kind label (.callable callable), state =>
      framework.registerCallable kind label callable state
  | .mk _ label (.items items), state =>
      framework.endDescribe label (registerItems items (framework.describe label state))

def registerItems : List (Item ν) → σ → σ
  | [], state => state
  | item :: rest, state => registerItems rest (registerItem item state)

def registerItem : Item ν → σ → σ
  | .modules names, state => framework.loadModules names state
  | .inject names, state => framework.inject names state
  | .before hook, state => framework.beforeEach hook state
  | .after hook, state => framework.afterEach hook state
  | .nested block, state => registerBlock block state

end

def register (blocks : List (Block ν)) (state : σ) : σ :=
  blocks.foldl (fun state block => framework.registerBlock block state) state

end Framework

inductive Call (ν : Type := Value) where
  | describe (name : String)
  | endDescribe (name : String)
  | describeWith (name : String) (body : Callable ν)
  | it (name : String) (body : Callable ν)
  | loadModules (names : List String)
  | inject (names : List String)
  | beforeEach (hook : Callable ν)
  | afterEach (hook : Callable ν)

def Call.text : Call ν → String
  | .describe name => "describe " ++ name
  | .endDescribe name => "end " ++ name
  | .describeWith name body => "describe " ++ name ++ " " ++ body.source
  | .it name _ => "it " ++ name
  | .loadModules names => "modules " ++ ",".intercalate names
  | .inject names => "inject " ++ ",".intercalate names
  | .beforeEach hook => "before " ++ hook.source
  | .afterEach hook => "after " ++ hook.source

namespace Framework

/-- The framework that lists the calls it receives, the latest first. -/
def listing : Framework (List (Call ν)) ν where
  describe name calls := .describe name :: calls
  endDescribe name calls := .endDescribe name :: calls
  describeWith name body calls := .describeWith name body :: calls
  it name body calls := .it name body :: calls
  loadModules names calls := .loadModules names :: calls
  inject names calls := .inject names :: calls
  beforeEach hook calls := .beforeEach hook :: calls
  afterEach hook calls := .afterEach hook :: calls

/-- The calls that registering blocks makes, in order. -/
def calls (blocks : List (Block ν)) : List (Call ν) :=
  (listing.register blocks []).reverse

end Framework

end SuiteOutline
