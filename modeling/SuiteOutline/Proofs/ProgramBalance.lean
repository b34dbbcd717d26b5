import SuiteOutline.Proofs.Acceptance
import SuiteOutline.Proofs.Brackets
import SuiteOutline.Proofs.InjectionText

/-!
# Balance of programs

The text of a program is balanced if its parts are: the names under which a dialect registers
things, and the sources of the callables in the blocks.  Labels and names of modules may be any
texts, for they stand in literals, and the names of dependencies are names of variables.  So a host
that only asks for balance accepts every such program.
-/

namespace SuiteOutline

variable {ν : Type}

open BracketScan Text

/-! ## What stands in a block -/

mutual

def Block.callables : Block ν → List (Callable ν)
  | .mk _ _ (.callable callable) => [callable]
  | .mk _ _ (.items items) => itemCallables items

def itemCallables : List (Item ν) → List (Callable ν)
  | [] => []
  | item :: rest => item.callables ++ itemCallables rest

def Item.callables : Item ν → List (Callable ν)
  | .modules _ => []
  | .inject _ => []
  | .before hook => [hook]
  | .after hook => [hook]
  | .nested block => block.callables

end

mutual

def Block.dependencies : Block ν → List String
  | .mk _ _ (.callable _) => []
  | .mk _ _ (.items items) => itemDependencies items

def itemDependencies : List (Item ν) → List String
  | [] => []
  | item :: rest => item.dependencies ++ itemDependencies rest

def Item.dependencies : Item ν → List String
  | .modules _ => []
  | .inject names => names
  | .before _ => []
  | .after _ => []
  | .nested block => block.dependencies

end

/-- The names of a dialect are balanced, and its marker is no bracket and no quote. -/
structure Dialect.Balanced (dialect : Dialect) : Prop where
  describe : isBalanced dialect.describe = true
  it : isBalanced dialect.it = true
  beforeEach : isBalanced dialect.beforeEach = true
  afterEach : isBalanced dialect.afterEach = true
  module : isBalanced dialect.module = true
  inject : isBalanced dialect.inject = true
  marker : isPlain dialect.marker = true

/-! ## Statements -/

namespace Script

variable {name arguments body : String}

theorem neutral_call (nameNeutral : Neutral name.toList)
    (argumentsNeutral : Neutral arguments.toList) :
    Neutral (name ++ "(" ++ arguments ++ ")").toList := by
  have text : (name ++ "(" ++ arguments ++ ")").toList =
      name.toList ++ ('(' :: (arguments.toList ++ [')'])) := by simp
  rw [text]
  exact nameNeutral.append (argumentsNeutral.enclose rfl)

theorem neutral_statement (nameNeutral : Neutral name.toList)
    (argumentsNeutral : Neutral arguments.toList) :
    Neutral (name ++ "(" ++ arguments ++ ");").toList := by
  have text : (name ++ "(" ++ arguments ++ ");").toList =
      (name ++ "(" ++ arguments ++ ")").toList ++ [';'] := by simp
  rw [text]
  exact (neutral_call nameNeutral argumentsNeutral).append (.plain rfl)

theorem neutral_function (parametersNeutral : Neutral arguments.toList)
    (bodyNeutral : Neutral body.toList) :
    Neutral ("function(" ++ arguments ++ ") \x7b" ++ body ++ "\x7d").toList := by
  have text : ("function(" ++ arguments ++ ") \x7b" ++ body ++ "\x7d").toList =
      "function".toList ++ ('(' :: (arguments.toList ++ [')'])) ++ [' '] ++
        ('\x7b' :: (body.toList ++ ['\x7d'])) := by simp
  rw [text]
  exact (((Neutral.plain rfl).append (parametersNeutral.enclose rfl)).append
    (.plain rfl)).append (bodyNeutral.enclose rfl)

theorem neutral_join {texts : List String} (each : ∀ text ∈ texts, Neutral text.toList) :
    Neutral (String.join texts).toList := by
  rw [String.toList_join, List.flatMap_def]
  apply Neutral.flatten
  intro text member
  obtain ⟨written, isIn, rfl⟩ := List.mem_map.mp member
  exact each written isIn

theorem neutral_intercalate {texts : List String} (each : ∀ text ∈ texts, Neutral text.toList) :
    Neutral (",".intercalate texts).toList := by
  induction texts with
  | nil => exact .nil
  | cons first rest ih =>
      have firstNeutral := each first List.mem_cons_self
      have restNeutral := ih fun text member => each text (List.mem_cons_of_mem _ member)
      cases rest with
      | nil => simpa using firstNeutral
      | cons second others =>
          rw [String.intercalate_cons_cons, String.toList_append, String.toList_append]
          exact (firstNeutral.append (.plain rfl)).append restNeutral

theorem neutral_quote (text : String) : Neutral (Literal.quote text).toList := by
  rw [Literal.quote, String.toList_ofList]
  exact neutral_write text.toList

/-! ## Texts of items -/

section Items

variable {dialect : Dialect} (balanced : dialect.Balanced)
include balanced

theorem neutral_kindName (kind : LabelKind) : Neutral (kindName dialect kind).toList := by
  cases kind with
  | suite => exact (isBalanced_iff_neutral _).mp balanced.describe
  | case => exact (isBalanced_iff_neutral _).mp balanced.it

theorem neutral_registerCallable (kind : LabelKind) (label : String) {callable : Callable ν}
    (source : isBalanced callable.source = true) :
    Neutral (registerCallable dialect kind label callable).toList := by
  have arguments : Neutral (Literal.quote label ++ ", " ++ callable.source).toList := by
    rw [String.toList_append, String.toList_append]
    exact ((neutral_quote label).append (.plain rfl)).append
      ((isBalanced_iff_neutral _).mp source)
  have text : registerCallable dialect kind label callable =
      kindName dialect kind ++ "(" ++ (Literal.quote label ++ ", " ++ callable.source) ++ ");" := by
    simp only [registerCallable, String.append_assoc]
  rw [text]
  exact neutral_statement (neutral_kindName balanced kind) arguments

theorem neutral_suite (label : String) {items : String} (inner : Neutral items.toList) :
    Neutral (openSuite dialect label ++ items ++ closeSuite).toList := by
  have arguments : Neutral (Literal.quote label ++ ", " ++
      ("function(" ++ "" ++ ") \x7b" ++ items ++ "\x7d")).toList := by
    rw [String.toList_append, String.toList_append]
    exact ((neutral_quote label).append (.plain rfl)).append (neutral_function .nil inner)
  have text : (openSuite dialect label ++ items ++ closeSuite).toList =
      (dialect.describe ++ "(" ++ (Literal.quote label ++ ", " ++
        ("function(" ++ "" ++ ") \x7b" ++ items ++ "\x7d")) ++ ");").toList := by
    simp [openSuite, closeSuite]
  rw [text]
  exact neutral_statement (neutral_kindName balanced .suite) arguments

theorem neutral_loadModules (names : List String) :
    Neutral (loadModules dialect names).toList := by
  have modules : Neutral (String.join (names.map (loadModule dialect))).toList := by
    apply neutral_join
    intro text member
    obtain ⟨name, -, rfl⟩ := List.mem_map.mp member
    exact neutral_statement ((isBalanced_iff_neutral _).mp balanced.module) (neutral_quote name)
  have text : (loadModules dialect names).toList =
      (dialect.beforeEach ++ "(" ++ ("function(" ++ "" ++ ") \x7b" ++
        String.join (names.map (loadModule dialect)) ++ "\x7d") ++ ");").toList := by
    simp [loadModules]
  rw [text]
  exact neutral_statement ((isBalanced_iff_neutral _).mp balanced.beforeEach)
    (neutral_function .nil modules)

theorem neutral_parameter {name : String} (named : Neutral name.toList) :
    Neutral (parameter dialect name).toList := by
  have marker : Neutral dialect.marker.toString.toList :=
    .plain (by simpa using balanced.marker)
  rw [parameter, String.toList_append, String.toList_append]
  exact (marker.append named).append marker

theorem neutral_injectAll {names : List String} (named : ∀ name ∈ names, isBalanced name = true) :
    Neutral (injectAll dialect names).toList := by
  have each : ∀ name ∈ names, Neutral name.toList :=
    fun name member => (isBalanced_iff_neutral name).mp (named name member)
  have declaration : Neutral ("var " ++ ",".intercalate names ++ ";").toList := by
    rw [String.toList_append, String.toList_append]
    exact ((Neutral.plain rfl).append (neutral_intercalate each)).append
      (.plain rfl)
  have parameters : Neutral (",".intercalate (names.map (parameter dialect))).toList := by
    apply neutral_intercalate
    intro text member
    obtain ⟨name, isIn, rfl⟩ := List.mem_map.mp member
    exact neutral_parameter balanced (each name isIn)
  have assignments : Neutral (String.join (names.map (assignment dialect))).toList := by
    apply neutral_join
    intro text member
    obtain ⟨name, isIn, rfl⟩ := List.mem_map.mp member
    rw [assignment, String.toList_append, String.toList_append, String.toList_append]
    exact (((each name isIn).append (.plain rfl)).append
      (neutral_parameter balanced (each name isIn))).append (.plain rfl)
  have hook := neutral_statement ((isBalanced_iff_neutral _).mp balanced.beforeEach)
    (neutral_call ((isBalanced_iff_neutral _).mp balanced.inject)
      (neutral_function parameters assignments))
  have text (declared bound copied : String) :
      ("var " ++ declared ++ ";" ++ dialect.beforeEach ++ "(" ++ dialect.inject ++ "(function("
        ++ bound ++ ") \x7b" ++ copied ++ "\x7d));").toList =
      ("var " ++ declared ++ ";").toList ++ (dialect.beforeEach ++ "(" ++ (dialect.inject ++ "("
        ++ ("function(" ++ bound ++ ") \x7b" ++ copied ++ "\x7d") ++ ")") ++ ");").toList := by
    simp
  unfold injectAll
  rw [text]
  exact declaration.append hook

end Items

/-! ## Texts of blocks -/

variable {dialect : Dialect}

mutual

/-- The text of a block whose callables and dependencies are balanced. -/
theorem neutral_block (balanced : dialect.Balanced) :
    ∀ block : Block ν, (∀ callable ∈ block.callables, isBalanced callable.source = true) →
      (∀ name ∈ block.dependencies, isBalanced name = true) →
      Neutral (Script.block dialect block).toList
  | .mk kind label (.callable callable), sources, _ => by
      rw [Block.callables] at sources
      rw [Script.block]
      exact neutral_registerCallable balanced kind label (sources callable List.mem_cons_self)
  | .mk _ label (.items items), sources, names => by
      rw [Block.callables] at sources
      rw [Block.dependencies] at names
      rw [Script.block]
      exact neutral_suite balanced label (neutral_itemTexts balanced items sources names)

theorem neutral_itemTexts (balanced : dialect.Balanced) :
    ∀ items : List (Item ν), (∀ callable ∈ itemCallables items, isBalanced callable.source = true) →
      (∀ name ∈ itemDependencies items, isBalanced name = true) →
      Neutral (itemTexts dialect items).toList
  | [], _, _ => by
      rw [itemTexts]
      exact .nil
  | item :: rest, sources, names => by
      rw [itemCallables, List.forall_mem_append] at sources
      rw [itemDependencies, List.forall_mem_append] at names
      rw [itemTexts, String.toList_append]
      exact (neutral_item balanced item sources.1 names.1).append
        (neutral_itemTexts balanced rest sources.2 names.2)

theorem neutral_item (balanced : dialect.Balanced) :
    ∀ item : Item ν, (∀ callable ∈ item.callables, isBalanced callable.source = true) →
      (∀ name ∈ item.dependencies, isBalanced name = true) →
      Neutral (Script.item dialect item).toList
  | .modules names, _, _ => by
      rw [Script.item]
      exact neutral_loadModules balanced names
  | .inject names, _, named => by
      rw [Item.dependencies] at named
      rw [Script.item]
      exact neutral_injectAll balanced named
  | .before hook, sources, _ => by
      rw [Item.callables] at sources
      rw [Script.item]
      exact neutral_statement ((isBalanced_iff_neutral _).mp balanced.beforeEach)
        ((isBalanced_iff_neutral _).mp (sources hook List.mem_cons_self))
  | .after hook, sources, _ => by
      rw [Item.callables] at sources
      rw [Script.item]
      exact neutral_statement ((isBalanced_iff_neutral _).mp balanced.afterEach)
        ((isBalanced_iff_neutral _).mp (sources hook List.mem_cons_self))
  | .nested block, sources, names => by
      rw [Item.callables] at sources
      rw [Item.dependencies] at names
      rw [Script.item]
      exact neutral_block balanced block sources names

end

theorem isBalanced_blocks (balanced : dialect.Balanced) {blocks : List (Block ν)}
    (sources : ∀ callable ∈ blocks.flatMap Block.callables, isBalanced callable.source = true)
    (names : ∀ name ∈ blocks.flatMap Block.dependencies, isBalanced name = true) :
    isBalanced (Script.blocks dialect blocks) = true := by
  rw [isBalanced_iff_neutral]
  apply neutral_join
  intro text member
  obtain ⟨block, isIn, rfl⟩ := List.mem_map.mp member
  apply neutral_block balanced
  · exact fun callable inBlock => sources callable (List.mem_flatMap.mpr ⟨block, isIn, inBlock⟩)
  · exact fun name inBlock => names name (List.mem_flatMap.mpr ⟨block, isIn, inBlock⟩)

end Script

/-! ## Compiled blocks -/

theorem isPlain_of_isNamePart {character : Char} (part : isNamePart character = true) :
    isPlain character = true := by
  have notQuote : character ≠ '\'' := by
    rintro rfl
    exact absurd part (by decide)
  have notOpening : isOpening character = false := by
    by_contra opens
    simp only [isOpening, Bool.not_eq_false, Bool.or_eq_true, beq_iff_eq] at opens
    rcases opens with (rfl | rfl) | rfl <;> exact absurd part (by decide)
  have notClosing : opening? character = none := by
    cases closes : opening? character with
    | none => rfl
    | some wanted =>
        rcases closing_iff.mp closes with ⟨rfl, -⟩ | ⟨rfl, -⟩ | ⟨rfl, -⟩ <;>
          exact absurd part (by decide)
  simp [isPlain, notQuote, notOpening, notClosing]

theorem isBalanced_of_isName {name : String} (named : isName name = true) :
    isBalanced name = true := by
  rw [isBalanced_iff_neutral]
  apply Neutral.plain
  rw [List.all_eq_true]
  intro character member
  exact isPlain_of_isNamePart (isNamePart_of_mem named member)

theorem itemDependencies_eq_flatMap (items : List (Item ν)) :
    itemDependencies items = items.flatMap Item.dependencies := by
  induction items with
  | nil => rw [itemDependencies, List.flatMap_nil]
  | cons item rest ih => rw [itemDependencies, List.flatMap_cons, ih]

theorem Partition.mem_dependencies_of_items {partition : Partition ν} {name : String}
    (member : name ∈ itemDependencies partition.items) :
    name ∈ partition.dependencies ∨ ∃ block ∈ partition.nested, name ∈ block.dependencies := by
  rw [itemDependencies_eq_flatMap] at member
  obtain ⟨item, isIn, inItem⟩ := List.mem_flatMap.mp member
  simp only [Partition.items, List.mem_append, List.mem_map, List.mem_ite_nil_left,
    List.mem_singleton] at isIn
  rcases isIn with (((⟨-, rfl⟩ | ⟨-, rfl⟩) | ⟨hook, -, rfl⟩) | ⟨hook, -, rfl⟩) | ⟨block, isIn, rfl⟩
  · simp [Item.dependencies] at inItem
  · rw [Item.dependencies] at inItem
    exact .inl inItem
  · simp [Item.dependencies] at inItem
  · simp [Item.dependencies] at inItem
  · rw [Item.dependencies] at inItem
    exact .inr ⟨block, isIn, inItem⟩

theorem compileStep_named {options : Options} (checked : options.validateIdentifiers = true) :
    CompileStep (ν := ν) options fun _ block =>
      ∀ name ∈ block.dependencies, isName name = true where
  callable := by
    intro path label callable name member
    simp [Block.ofCallable, Block.dependencies] at member
  suite := by
    intro path depth label entries below _ _ accepted belowNamed name member
    rw [Block.ofItems, Block.dependencies] at member
    rcases Partition.mem_dependencies_of_items member with own | ⟨block, isIn, inBlock⟩
    · exact (accepted.names name own).2 checked
    · exact belowNamed block isIn name inBlock

theorem isBalanced_compiled {options : Options} {spec : Spec ν} {depth : UInt64}
    {blocks : List (Block ν)} (checked : options.validateIdentifiers = true)
    (dialect : options.dialect.Balanced)
    (compiled : (options.compileBlocks spec depth).outcome = .ok blocks)
    (sources : ∀ callable ∈ blocks.flatMap Block.callables, isBalanced callable.source = true) :
    isBalanced (Script.blocks options.dialect blocks) = true := by
  have named := Spec.compile_induction (compileStep_named checked) spec [] depth compiled
  refine Script.isBalanced_blocks dialect sources ?_
  intro name member
  obtain ⟨block, isIn, inBlock⟩ := List.mem_flatMap.mp member
  exact isBalanced_of_isName (named block isIn name inBlock)

theorem HostRecord.compile_of_balanced (failInvoke : Bool) (record : HostRecord) {text : String}
    (balanced : isBalanced text = true) :
    (HostRecord.host failInvoke).compile text record =
      (.ok text, { record with compiled := record.compiled ++ [text] }) :=
  if_pos balanced

/-- With names checked and a dialect of balanced names and a marker that is no bracket and no
quote, the program of a compiled spec is balanced as soon as the sources of the callables in its
blocks are, whatever its labels and the names of its modules are and whatever was dropped.  So the
recording host accepts the program, and a run of it fails only by a failure of the invocation. -/
theorem program_isBalanced (options : Options) (spec : Spec ν) {blocks : List (Block ν)}
    (checked : options.validateIdentifiers = true) (dialect : options.dialect.Balanced)
    (compiled : (options.compileBlocks spec 0).outcome = .ok blocks)
    (sources : ∀ callable ∈ blocks.flatMap Block.callables, isBalanced callable.source = true)
    (failInvoke : Bool) (record : HostRecord) (ambient : List String) :
    ∃ program : Program ν, (options.program spec).result = .ok program ∧ program.blocks = blocks ∧
      isBalanced program.text = true ∧
      ∃ accepted : HostRecord,
        (HostRecord.host failInvoke).compile program.text record = (.ok program.text, accepted) ∧
        (options.run (HostRecord.host failInvoke) spec record ambient).1.result =
          match ((HostRecord.host failInvoke).invoke program.text accepted ambient).1 with
          | .ok () => .ok program
          | .error cause => .error (.host (.failed cause)) := by
  have made := Options.program_ok_iff.mpr ⟨blocks, compiled, rfl⟩
  have balanced := isBalanced_compiled checked dialect compiled sources
  have accepts := HostRecord.compile_of_balanced failInvoke record balanced
  refine ⟨_, made, rfl, balanced, _, accepts, ?_⟩
  rw [Options.run, made]
  simp only [ScriptHost.execute, accepts]
  cases failInvoke <;> rfl

/-- Labels and a module named with quotes, brackets and a line end, and a dropped hook that is not
balanced itself. -/
theorem program_isBalanced_awkward :
    (({ dialect := { describe := "suites[0].open", marker := '$' } } : Options).compileBlocks
      (ν := Value)
        (.mk [("it's (", .sequence [.reference "m\x7d:", .reference "svc+", .hook (.ofSource "f()"),
          .hook (.ofSource "g"), .hook (.ofSource "(("),
          .suite (.mk [("should ]\n", .callable (.ofSource "c[0]"))])])]) 0).outcome =
      .ok [.mk .suite "it's (" (.items [.modules ["m\x7d", "svc"], .inject ["svc"],
        .before (.ofSource "f()"), .after (.ofSource "g"),
        .nested (.mk .case "should ]\n" (.callable (.ofSource "c[0]")))])] ∧
    isBalanced "((" = false ∧
    ∃ program : Program,
      isBalanced program.text = true ∧
      (({ dialect := { describe := "suites[0].open", marker := '$' } } : Options).run
          (HostRecord.host false)
          (.mk [("it's (", .sequence [.reference "m\x7d:", .reference "svc+",
            .hook (.ofSource "f()"), .hook (.ofSource "g"), .hook (.ofSource "(("),
            .suite (.mk [("should ]\n", .callable (.ofSource "c[0]"))])])])
          HostRecord.empty []).1.result = .ok program := by
  refine ⟨rfl, by decide, ?_⟩
  have dialect : ({ describe := "suites[0].open", marker := '$' } : Dialect).Balanced :=
    ⟨by decide, by decide, by decide, by decide, by decide, by decide, by decide⟩
  obtain ⟨program, -, -, balanced, accepted, -, ran⟩ :=
    program_isBalanced (ν := Value) { dialect := { describe := "suites[0].open", marker := '$' } }
      (.mk [("it's (", .sequence [.reference "m\x7d:", .reference "svc+",
        .hook (.ofSource "f()"), .hook (.ofSource "g"), .hook (.ofSource "(("),
        .suite (.mk [("should ]\n", .callable (.ofSource "c[0]"))])])])
      rfl dialect rfl (by decide) false HostRecord.empty []
  exact ⟨program, balanced, ran⟩

end SuiteOutline
