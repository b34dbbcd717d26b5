import Mathlib.Data.List.Induction
import Mathlib.Logic.Function.Basic
import SuiteOutline.Compile
import SuiteOutline.Proofs.InjectionText

/-!
# Delivery of dependencies

Each call of an injection's hook is to leave every dependency in the variable of its name.  The
parameters of the hook hide the variables around it, so what is assigned to a name that is also a
parameter never reaches the variable.  The dependencies that a partition accepts are delivered
exactly if none of their names is another one between markers.
-/

namespace SuiteOutline

variable {ν : Type}

/-- What names stand for while a hook runs: its parameters, and the variables around it where no
parameter hides them.  `none` is the lack of a value. -/
structure Scope (V : Type) where
  parameters : List String
  arguments : String → Option V
  outer : String → Option V

namespace Scope

variable {V : Type}

def value (scope : Scope V) (name : String) : Option V :=
  if name ∈ scope.parameters then scope.arguments name else scope.outer name

/-- Writes the parameter of a name if there is one, and else the variable. -/
def write (scope : Scope V) (name : String) (value : Option V) : Scope V :=
  if name ∈ scope.parameters then
    { scope with arguments := Function.update scope.arguments name value }
  else { scope with outer := Function.update scope.outer name value }

def assign (scope : Scope V) (assignment : String × String) : Scope V :=
  scope.write assignment.1 (scope.value assignment.2)

def assignAll (scope : Scope V) (assignments : List (String × String)) : Scope V :=
  assignments.foldl assign scope

end Scope

namespace InjectionHook

variable {V : Type}

/-- Binds parameters to values place by place; among equal parameters the last one counts. -/
def bind (parameters : List String) (values : List V) : String → Option V :=
  (parameters.zip values).foldl
    (fun bound (parameter, value) => Function.update bound parameter (some value)) fun _ => none

/-- The scope of a call: each parameter holds the instance of the variable in its place. -/
def enter (hook : InjectionHook) (outer : String → Option V) (instances : String → V) :
    Scope V where
  parameters := hook.parameters
  arguments := bind hook.parameters (hook.declared.map instances)
  outer := outer

def call (hook : InjectionHook) (outer : String → Option V) (instances : String → V) :
    String → Option V :=
  ((hook.enter outer instances).assignAll hook.assignments).outer

/-- The variables after the declaration: those declared have no value. -/
def declare (hook : InjectionHook) (outer : String → Option V) : String → Option V :=
  fun name => if name ∈ hook.declared then none else outer name

/-- The variables after the declaration and calls in order, each with instances of its own. -/
def after (hook : InjectionHook) (outer : String → Option V) (calls : List (String → V)) :
    String → Option V :=
  calls.foldl hook.call (hook.declare outer)

end InjectionHook

/-! ## Assignments -/

namespace Scope

variable {V : Type} (scope : Scope V)

theorem assign_parameters (assignment : String × String) :
    (scope.assign assignment).parameters = scope.parameters := by
  rw [assign, write]
  split <;> rfl

theorem assign_outer_of_hidden (assignment : String × String) {name : String}
    (hidden : name ∈ scope.parameters) :
    (scope.assign assignment).outer name = scope.outer name := by
  rw [assign, write]
  split
  · rfl
  · rename_i free
    have different : name ≠ assignment.1 := by
      rintro rfl
      exact free hidden
    exact Function.update_of_ne different _ _

theorem assignAll_outer_of_hidden (assignments : List (String × String)) {name : String}
    (hidden : name ∈ scope.parameters) :
    (scope.assignAll assignments).outer name = scope.outer name := by
  induction assignments generalizing scope with
  | nil => rfl
  | cons assignment rest ih =>
      have stillHidden : name ∈ (scope.assign assignment).parameters := by
        rw [assign_parameters]
        exact hidden
      calc (scope.assignAll (assignment :: rest)).outer name
          = ((scope.assign assignment).assignAll rest).outer name := rfl
        _ = (scope.assign assignment).outer name := ih _ stillHidden
        _ = scope.outer name := assign_outer_of_hidden scope assignment hidden

theorem assign_of_free {target source : String} (free : target ∉ scope.parameters)
    (bound : source ∈ scope.parameters) :
    scope.assign (target, source) =
      { scope with outer := Function.update scope.outer target (scope.arguments source) } := by
  rw [assign, write, if_neg free, value, if_pos bound]

theorem assignAll_outer_of_free (source : String → String) (names : List String)
    (free : ∀ name ∈ names, name ∉ scope.parameters)
    (bound : ∀ name ∈ names, source name ∈ scope.parameters) (name : String) :
    (scope.assignAll (names.map fun name => (name, source name))).outer name =
      if name ∈ names then scope.arguments (source name) else scope.outer name := by
  induction names generalizing scope with
  | nil => rfl
  | cons first rest ih =>
      have step := assign_of_free scope (free first (by simp)) (bound first (by simp))
      have others := ih (scope.assign (first, source first))
        (by simpa [step] using fun name member => free name (List.mem_cons_of_mem _ member))
        (by simpa [step] using fun name member => bound name (List.mem_cons_of_mem _ member))
      calc (scope.assignAll ((first :: rest).map fun name => (name, source name))).outer name
          = ((scope.assign (first, source first)).assignAll
              (rest.map fun name => (name, source name))).outer name := rfl
        _ = if name ∈ rest then (scope.assign (first, source first)).arguments (source name)
            else (scope.assign (first, source first)).outer name := others
        _ = if name ∈ first :: rest then scope.arguments (source name) else scope.outer name := by
            rw [step]
            by_cases inRest : name ∈ rest
            · simp [inRest]
            · by_cases isFirst : name = first
              · simp [isFirst]
              · simp [inRest, isFirst]

end Scope

/-! ## Calls -/

theorem Script.parameter_injective (dialect : Dialect) :
    Function.Injective (parameter dialect) := by
  intro first second same
  have texts := congrArg String.toList same
  simp only [parameter, String.toList_append] at texts
  exact String.toList_injective (List.append_cancel_left (List.append_cancel_right texts))

namespace InjectionHook

variable {V : Type}

/-- Binding never takes a binding away: a parameter holds the value of its place, or what it held
before. -/
theorem foldl_update_apply {parameter : String → String} (injective : parameter.Injective)
    (values : String → V) (names : List String) (bound : String → Option V) (name : String) :
    names.foldl (fun bound name => Function.update bound (parameter name) (some (values name)))
        bound (parameter name) =
      if name ∈ names then some (values name) else bound (parameter name) := by
  induction names generalizing bound with
  | nil => rfl
  | cons first rest ih =>
      rw [List.foldl_cons, ih]
      by_cases inRest : name ∈ rest
      · simp [inRest]
      · by_cases isFirst : name = first
        · simp [isFirst]
        · have different : parameter name ≠ parameter first := fun same => isFirst (injective same)
          simp [inRest, isFirst, Function.update_of_ne different]

theorem bind_parameter (dialect : Dialect) (instances : String → V) {names : List String}
    {name : String} (member : name ∈ names) :
    bind (names.map (Script.parameter dialect)) (names.map instances)
      (Script.parameter dialect name) = some (instances name) := by
  have bound := foldl_update_apply (Script.parameter_injective dialect) instances names
    (fun _ => none) name
  rw [if_pos member] at bound
  rw [bind, List.zip_map', List.foldl_map]
  exact bound

variable (dialect : Dialect) {names : List String}

theorem call_of_hidden (outer : String → Option V) (instances : String → V) {name : String}
    (hidden : name ∈ names.map (Script.parameter dialect)) :
    (ofNames dialect names).call outer instances name = outer name :=
  Scope.assignAll_outer_of_hidden _ _ hidden

/-- No series of calls gives a value to a declared variable behind a parameter. -/
theorem after_of_hidden (outer : String → Option V) (calls : List (String → V)) {name : String}
    (member : name ∈ names) (hidden : name ∈ names.map (Script.parameter dialect)) :
    (ofNames dialect names).after outer calls name = none := by
  induction calls using List.reverseRecOn with
  | nil => exact if_pos member
  | append_singleton earlier last ih =>
      rw [after, List.foldl_concat, call_of_hidden dialect _ _ hidden]
      exact ih

theorem call_of_free (outer : String → Option V) (instances : String → V)
    (free : ∀ name ∈ names, Script.parameter dialect name ∉ names) {name : String}
    (member : name ∈ names) :
    (ofNames dialect names).call outer instances name = some (instances name) := by
  have notHidden : ∀ name ∈ names, name ∉ names.map (Script.parameter dialect) := by
    intro name isIn hidden
    obtain ⟨other, otherIn, rfl⟩ := List.mem_map.mp hidden
    exact free other otherIn isIn
  have delivered := Scope.assignAll_outer_of_free ((ofNames dialect names).enter outer instances)
    (Script.parameter dialect) names notHidden (fun _ isIn => List.mem_map_of_mem isIn) name
  rw [if_pos member] at delivered
  exact delivered.trans (bind_parameter dialect instances member)

/-- After any series of calls the last one has delivered every dependency, if no parameter hides a
variable; and no series of calls delivers them all if one does. -/
theorem after_delivers_iff (outer : String → Option V) (earlier : List (String → V))
    (instances : String → V) :
    (∀ name ∈ names,
        (ofNames dialect names).after outer (earlier ++ [instances]) name = some (instances name)) ↔
      ∀ name ∈ names, Script.parameter dialect name ∉ names := by
  constructor
  · intro delivered name member collides
    have hidden := List.mem_map_of_mem (f := Script.parameter dialect) member
    have withheld := after_of_hidden dialect outer (earlier ++ [instances]) collides hidden
    rw [delivered _ collides] at withheld
    exact Option.some_ne_none _ withheld
  · intro free name member
    rw [after, List.foldl_concat]
    exact call_of_free dialect _ instances free member

end InjectionHook

/-! ## Accepted dependencies -/

namespace Partition

/-- Every dependency may be the name of a variable. -/
def Named (partition : Partition ν) : Prop :=
  ∀ name ∈ partition.dependencies, Text.isName name = true

theorem named_empty : (empty : Partition ν).Named := by
  intro name member
  cases member

theorem Named.addReference {partition : Partition ν} (named : partition.Named)
    {reference : Reference} (valid : reference.validate true = .ok ()) :
    (partition.addReference reference).Named := by
  intro name member
  rw [Partition.addReference, List.mem_append] at member
  cases member with
  | inl inPartition => exact named name inPartition
  | inr isReference =>
      cases injects : reference.role.injects with
      | false => simp [injects] at isReference
      | true =>
          have same : name = reference.name := by simpa [injects] using isReference
          by_contra unnamed
          rw [same] at unnamed
          by_cases isEmpty : reference.name.isEmpty = true
          · simp [Reference.validate, injects, isEmpty] at valid
          · simp [Reference.validate, injects, isEmpty, unnamed] at valid

theorem Named.addHook? {partition placed : Partition ν} (named : partition.Named)
    {callable : Callable ν} (isPlaced : partition.addHook? callable = some placed) :
    placed.Named := by
  unfold Partition.addHook? at isPlaced
  split at isPlaced
  · cases isPlaced
    exact named
  · split at isPlaced
    · cases isPlaced
      exact named
    · cases isPlaced

theorem Named.drop {partition dropped : Partition ν} (named : partition.Named)
    {policy : EntryPolicy} {record : DroppedEntry}
    (isDropped : (partition.drop policy record).outcome = .ok dropped) : dropped.Named := by
  cases policy with
  | warn =>
      cases isDropped
      exact named
  | reject => cases isDropped

variable {options : Options} {suite : String}

theorem Named.addPiece (checked : options.validateIdentifiers = true) {index : Nat}
    {partition extended : Partition ν} (named : partition.Named) {piece : Piece ν}
    (added : (addPiece options suite index partition piece).outcome = .ok extended) :
    extended.Named := by
  cases piece with
  | reference raw =>
      rw [Partition.addPiece, checked] at added
      cases valid : (Reference.decode raw).validate true with
      | error cause =>
          simp only [valid] at added
          cases added
      | ok _ =>
          simp only [valid] at added
          cases added
          exact named.addReference valid
  | hook callable =>
      rw [Partition.addPiece] at added
      cases placed : partition.addHook? callable with
      | some _ =>
          simp only [placed] at added
          cases added
          exact named.addHook? placed
      | none =>
          simp only [placed] at added
          exact named.drop added
  | nested blocks =>
      obtain ⟨below, -, rfl⟩ := Run.exists_of_map_ok added
      exact named
  | other kind => exact named.drop added

theorem Named.addPieces (checked : options.validateIdentifiers = true) {index : Nat}
    {partition extended : Partition ν} (named : partition.Named) {pieces : List (Piece ν)}
    (added : (addPieces options suite index partition pieces).outcome = .ok extended) :
    extended.Named := by
  induction pieces generalizing index partition with
  | nil =>
      cases added
      exact named
  | cons piece rest ih =>
      obtain ⟨next, first, others⟩ := Run.exists_of_andThen_ok added
      exact ih (named.addPiece checked first) others

end Partition

/-- With names checked and a marker that may begin a name, as the default one may, the text of the
hook for the dependencies of a suite reads as a hook of which the following holds.  Whatever the
variables held before, and however often the hook was called since their declaration, its next
call leaves every dependency in the variable of its name if and only if no dependency is named as
another one between markers. -/
theorem injectAll_delivers_iff {V : Type} {options : Options} {suite : String}
    {compileNested : Spec ν → Run (List (Block ν)) ν} {entries : List (Entry ν)}
    {partition : Partition ν} (marker : Text.isNameStart options.dialect.marker = true)
    (checked : options.validateIdentifiers = true)
    (accepted :
      (Partition.ofEntries options suite compileNested entries).outcome = .ok partition)
    (outer : String → Option V) (earlier : List (String → V)) (instances : String → V) :
    ∃ hook : InjectionHook,
      InjectionHook.read? options.dialect
        (Script.injectAll options.dialect partition.dependencies) = some hook ∧
      ((∀ name ∈ partition.dependencies,
          hook.after outer (earlier ++ [instances]) name = some (instances name)) ↔
        ∀ name ∈ partition.dependencies,
          Script.parameter options.dialect name ∉ partition.dependencies) := by
  have named : partition.Named := Partition.named_empty.addPieces checked accepted
  refine ⟨_, InjectionHook.read?_injectAll marker named, ?_⟩
  exact InjectionHook.after_delivers_iff options.dialect outer earlier instances

/-- Two unrelated dependencies are delivered. -/
theorem injectAll_delivers_unrelated :
    Text.isNameStart ({} : Options).dialect.marker = true ∧
      ({} : Options).validateIdentifiers = true ∧
      (Partition.ofEntries {} "Widget" (fun _ => .ok [])
          [.reference "a", .reference "svc+"]).outcome =
        .ok (⟨["svc"], ["a", "svc"], [], [], [], []⟩ : Partition) ∧
      ∃ hook : InjectionHook,
        InjectionHook.read? {} (Script.injectAll {} ["a", "svc"]) = some hook ∧
        ∀ name ∈ ["a", "svc"], hook.after (fun _ => none) [fun name => name] name = some name := by
  refine ⟨by decide, rfl, rfl, ?_⟩
  have accepted : (Partition.ofEntries {} "Widget" (fun _ => .ok [])
      [.reference "a", .reference "svc+"]).outcome =
        .ok (⟨["svc"], ["a", "svc"], [], [], [], []⟩ : Partition) := rfl
  obtain ⟨hook, reads, delivers⟩ :=
    injectAll_delivers_iff (by decide) rfl accepted (fun _ => none) [] fun name => name
  exact ⟨hook, reads, delivers.mpr (by decide)⟩

/-- Of two accepted dependencies, one named as the other between markers, not both are delivered. -/
theorem injectAll_withholds_marked :
    (Partition.ofEntries {} "Widget" (fun _ => .ok [])
        [.reference "a", .reference "_a_"]).outcome =
      .ok (⟨[], ["a", "_a_"], [], [], [], []⟩ : Partition) ∧
      ∃ hook : InjectionHook,
        InjectionHook.read? {} (Script.injectAll {} ["a", "_a_"]) = some hook ∧
        ¬ ∀ name ∈ ["a", "_a_"], hook.after (fun _ => none) [fun name => name] name = some name :=
  ⟨rfl, .ofNames {} ["a", "_a_"], by decide, by decide⟩

end SuiteOutline
