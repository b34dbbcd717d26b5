import Mathlib.Data.List.Basic
import SuiteOutline.Proofs.Compilation

/-!
# The meaning of a spec

What blocks stand for a spec, said without running a compilation.  A label gives one block.  The
items of a suite come in a fixed order, each hook of its entries is found exactly once among its
items or among the reported entries, and the specs among its entries give their blocks in turn.
Whatever a compilation gives stands for its spec.
-/

namespace SuiteOutline

variable {ν : Type}

namespace Entries

/-- One hook for all modules that entries ask for, if they ask for any. -/
def moduleItems (entries : List (Entry ν)) : List (Item ν) :=
  if (references entries).any (·.role.loadsModule) then [.modules (moduleNames entries)] else []

/-- One hook for all dependencies that entries ask for, if they ask for any. -/
def injectItems (entries : List (Entry ν)) : List (Item ν) :=
  if (references entries).any (·.role.injects) then [.inject (dependencyNames entries)] else []

/-- The hooks among entries at the places that records name. -/
def reportedHooks (entries : List (Entry ν)) (records : List DroppedEntry) : List (Callable ν) :=
  records.filterMap fun record => entries[record.index]?.bind Entry.hook?

end Entries

/-- How the items of a suite come from its entries and from the blocks of the specs among them,
and which entries are reported. -/
structure Arranged (suite : String) (entries : List (Entry ν)) (nested : List (Block ν))
    (before after : List (Callable ν)) (items : List (Item ν)) (reported : List DroppedEntry) :
    Prop where
  items_eq : items = Entries.moduleItems entries ++ Entries.injectItems entries
    ++ before.map .before ++ after.map .after ++ nested.map .nested
  before_eq : before = Hooks.inBucket .before (Entries.hooks entries)
  after_eq : after = Hooks.inBucket .after (Entries.hooks entries)
  before_sublist : before.Sublist (Entries.hooks entries)
  after_sublist : after.Sublist (Entries.hooks entries)
  hooks_perm :
    (before ++ after ++ Entries.reportedHooks entries reported).Perm (Entries.hooks entries)
  reported_eq : reported = Entries.dropped suite entries

mutual

/-- Blocks and reported entries stand for a spec below the suites of a path. -/
inductive Spec.Means : List String → Spec ν → List (Block ν) → List DroppedEntry → Prop where
  | rows {path : List String} {rows : List (String × Binding ν)} {blocks : List (Block ν)}
      {reported : List DroppedEntry} (means : RowsMean path rows blocks reported) :
      Spec.Means path (.mk rows) blocks reported

inductive RowsMean :
    List String → List (String × Binding ν) → List (Block ν) → List DroppedEntry → Prop where
  | nil {path : List String} : RowsMean path [] [] []
  | cons {path : List String} {label : String} {binding : Binding ν}
      {rest : List (String × Binding ν)} {block : Block ν} {blocks : List (Block ν)}
      {own below : List DroppedEntry} (first : Binding.Means path label binding block own)
      (others : RowsMean path rest blocks below) :
      RowsMean path ((label, binding) :: rest) (block :: blocks) (own ++ below)

inductive Binding.Means :
    List String → String → Binding ν → Block ν → List DroppedEntry → Prop where
  | callable {path : List String} {label : String} {callable : Callable ν} :
      Binding.Means path label (.callable callable)
        (.mk (LabelKind.ofLabel label) label (.callable callable)) []
  | sequence {path : List String} {label : String} {entries : List (Entry ν)}
      {nested : List (Block ν)} {before after : List (Callable ν)} {items : List (Item ν)}
      {below own : List DroppedEntry} (isSuite : LabelKind.ofLabel label = .suite)
      (inner : EntriesMean (path ++ [label]) entries nested below)
      (arranged : Arranged (pathText (path ++ [label])) entries nested before after items own) :
      Binding.Means path label (.sequence entries) (.mk .suite label (.items items))
        (below ++ own)

/-- The specs among entries have their blocks in order; other entries have none. -/
inductive EntriesMean :
    List String → List (Entry ν) → List (Block ν) → List DroppedEntry → Prop where
  | nil {path : List String} : EntriesMean path [] [] []
  | suite {path : List String} {spec : Spec ν} {rest : List (Entry ν)}
      {blocks others : List (Block ν)} {own below : List DroppedEntry}
      (first : Spec.Means path spec blocks own) (more : EntriesMean path rest others below) :
      EntriesMean path (.suite spec :: rest) (blocks ++ others) (own ++ below)
  | plain {path : List String} {entry : Entry ν} {rest : List (Entry ν)} {blocks : List (Block ν)}
      {reported : List DroppedEntry} (noSpec : ∀ spec, entry ≠ .suite spec)
      (more : EntriesMean path rest blocks reported) :
      EntriesMean path (entry :: rest) blocks reported

end

namespace Entries

theorem names_isEmpty (wanted : Role → Bool) (references : List Reference) :
    ((references.filter (fun reference => wanted reference.role)).map Reference.name).isEmpty =
      !references.any fun reference => wanted reference.role := by
  rw [List.isEmpty_map, Bool.eq_iff_iff]
  simp [List.filter_eq_nil_iff]

theorem items_sorted (suite : String) (nested : List (Block ν)) (entries : List (Entry ν)) :
    (Partition.sorted suite nested entries).items =
      moduleItems entries ++ injectItems entries
        ++ (Hooks.inBucket .before (hooks entries)).map .before
        ++ (Hooks.inBucket .after (hooks entries)).map .after ++ nested.map .nested := by
  have modules : (moduleNames entries).isEmpty =
      !(references entries).any (·.role.loadsModule) := names_isEmpty Role.loadsModule _
  have dependencies : (dependencyNames entries).isEmpty =
      !(references entries).any (·.role.injects) := names_isEmpty Role.injects _
  simp only [Partition.items, Partition.sorted, moduleItems, injectItems, modules, dependencies]
  cases (references entries).any (·.role.loadsModule) <;>
    cases (references entries).any (·.role.injects) <;> rfl

theorem index_lt_of_mem_dropped {suite : String} {entries : List (Entry ν)} {record : DroppedEntry}
    (reported : record ∈ dropped suite entries) : record.index < entries.length := by
  induction entries using List.reverseRecOn with
  | nil => cases reported
  | append_singleton entries last ih =>
      rw [dropped_concat, List.mem_append] at reported
      rw [List.length_append, List.length_singleton]
      rcases reported with sooner | isLast
      · exact Nat.lt_succ_of_lt (ih sooner)
      · obtain ⟨reason, -, rfl⟩ := Option.map_eq_some_iff.mp (Option.mem_toList.mp isLast)
        exact Nat.lt_succ_self _

theorem reportedHooks_append (entries : List (Entry ν)) (first second : List DroppedEntry) :
    reportedHooks entries (first ++ second) =
      reportedHooks entries first ++ reportedHooks entries second :=
  List.filterMap_append

theorem reportedHooks_of_append (suite : String) (entries more : List (Entry ν)) :
    reportedHooks (entries ++ more) (dropped suite entries) =
      reportedHooks entries (dropped suite entries) := by
  apply List.filterMap_congr
  intro record reported
  rw [List.getElem?_append_left (index_lt_of_mem_dropped reported)]

theorem reportedHooks_last (suite : String) (entries : List (Entry ν)) (last : Entry ν) :
    reportedHooks (entries ++ [last]) (last.dropped? suite entries).toList =
      match last with
      | .hook callable => if Hooks.bucket? (hooks entries) callable = none then [callable] else []
      | _ => [] := by
  cases last with
  | reference raw => rfl
  | suite spec => rfl
  | other kind => simp [reportedHooks, Entry.dropped?, Entry.dropReason?, Entry.hook?]
  | hook callable =>
      by_cases found : Hooks.bucket? (hooks entries) callable = none
      · simp [reportedHooks, Entry.dropped?, Entry.dropReason?, Entry.hook?, found]
      · simp [reportedHooks, Entry.dropped?, Entry.dropReason?, found]

theorem reportedHooks_dropped (suite : String) (entries : List (Entry ν)) :
    reportedHooks entries (dropped suite entries) = Hooks.homeless (hooks entries) := by
  induction entries using List.reverseRecOn with
  | nil => rfl
  | append_singleton entries last ih =>
      rw [dropped_concat, reportedHooks_append, reportedHooks_of_append, reportedHooks_last, ih,
        hooks_concat]
      cases last with
      | reference raw => simp [Entry.hook?]
      | suite spec => simp [Entry.hook?]
      | other kind => simp [Entry.hook?]
      | hook callable => rw [Entry.hook?, Option.toList_some, Hooks.homeless_concat]

theorem arranged (suite : String) (entries : List (Entry ν)) (nested : List (Block ν)) :
    Arranged suite entries nested (Hooks.inBucket .before (hooks entries))
      (Hooks.inBucket .after (hooks entries)) (Partition.sorted suite nested entries).items
      (dropped suite entries) where
  items_eq := items_sorted suite nested entries
  before_eq := rfl
  after_eq := rfl
  before_sublist := Hooks.inBucket_sublist .before (hooks entries)
  after_sublist := Hooks.inBucket_sublist .after (hooks entries)
  hooks_perm := by
    rw [reportedHooks_dropped]
    exact Hooks.inBucket_append_homeless_perm (hooks entries)
  reported_eq := rfl

end Entries

mutual

theorem Spec.means (options : Options) (path : List String) :
    ∀ spec : Spec ν, (∀ position ∈ spec.positions path, position.fault? options = none) →
      spec.Means path spec.blocks (spec.dropped path)
  | .mk rows, innocent => by
      rw [Spec.blocks, Spec.dropped]
      rw [Spec.positions] at innocent
      exact .rows (rowsMean options path rows innocent)

theorem rowsMean (options : Options) (path : List String) :
    ∀ rows : List (String × Binding ν),
      (∀ position ∈ rowPositions path rows, position.fault? options = none) →
      RowsMean path rows (rowBlocks rows) (rowsDropped path rows)
  | [], _ => .nil
  | (label, binding) :: rest, innocent => by
      rw [rowBlocks, rowsDropped]
      rw [rowPositions] at innocent
      refine .cons (Binding.means options path label binding ?_) (rowsMean options path rest ?_)
      · intro position isIn
        apply innocent
        rw [← List.cons_append]
        exact List.mem_append_left _ isIn
      · intro position isIn
        apply innocent
        rw [← List.cons_append]
        exact List.mem_append_right _ isIn

theorem Binding.means (options : Options) (path : List String) (label : String) :
    ∀ binding : Binding ν,
      (∀ position ∈ Position.atLabel path label binding :: binding.positions (path ++ [label]),
        position.fault? options = none) →
      binding.Means path label (binding.block label) (binding.dropped (path ++ [label]))
  | .callable callable, _ => by
      rw [Binding.block, Binding.dropped]
      exact .callable
  | .sequence entries, innocent => by
      have own := innocent _ List.mem_cons_self
      have isSuite : ¬ isCaseLabel label = true := by
        intro isCase
        simp [Position.fault?, Position.labelFault?, isCase] at own
      have inner := entriesMean options (path ++ [label]) [] entries (by
        intro position isIn
        apply innocent
        rw [Binding.positions]
        exact List.mem_cons_of_mem _ isIn)
      rw [Binding.block, Binding.dropped]
      exact .sequence (if_neg isSuite) inner (Entries.arranged _ entries (entryBlocks entries))
  | .mapping spec, innocent => by
      have own := innocent _ List.mem_cons_self
      simp [Position.fault?, Position.labelFault?] at own
  | .other kind, innocent => by
      have own := innocent _ List.mem_cons_self
      simp [Position.fault?, Position.labelFault?] at own

theorem entriesMean (options : Options) (path : List String) (earlier : List (Entry ν)) :
    ∀ entries : List (Entry ν),
      (∀ position ∈ entryPositions path earlier entries, position.fault? options = none) →
      EntriesMean path entries (entryBlocks entries) (entriesDropped path entries)
  | [], _ => .nil
  | entry :: rest, innocent => by
      rw [entryPositions] at innocent
      have more := entriesMean options path (earlier ++ [entry]) rest (by
        intro position isIn
        apply innocent
        exact List.mem_cons_of_mem _ (List.mem_append_right _ isIn))
      rw [entryBlocks, entriesDropped]
      cases entry with
      | suite spec =>
          refine .suite (Spec.means options path spec ?_) more
          intro position isIn
          apply innocent
          rw [Entry.positions]
          exact List.mem_cons_of_mem _ (List.mem_append_left _ isIn)
      | reference raw => exact .plain (by simp) more
      | hook callable => exact .plain (by simp) more
      | other kind => exact .plain (by simp) more

end

/-- What is arranged as the entries say is what sorting the entries gives. -/
theorem Arranged.eq_sorted {suite : String} {entries : List (Entry ν)} {nested : List (Block ν)}
    {before after : List (Callable ν)} {items : List (Item ν)} {reported : List DroppedEntry}
    (arranged : Arranged suite entries nested before after items reported) :
    items = (Partition.sorted suite nested entries).items ∧
      reported = Entries.dropped suite entries := by
  refine ⟨?_, arranged.reported_eq⟩
  rw [arranged.items_eq, arranged.before_eq, arranged.after_eq, Entries.items_sorted]

mutual

/-- Only one list of blocks and one list of reported entries stand for a spec. -/
theorem Spec.Means.eq {path : List String} {spec : Spec ν} {blocks : List (Block ν)}
    {reported : List DroppedEntry} (means : Spec.Means path spec blocks reported) :
    blocks = spec.blocks ∧ reported = spec.dropped path := by
  cases means with
  | rows means =>
      rw [Spec.blocks, Spec.dropped]
      exact means.eq

theorem RowsMean.eq {path : List String} {rows : List (String × Binding ν)}
    {blocks : List (Block ν)} {reported : List DroppedEntry}
    (means : RowsMean path rows blocks reported) :
    blocks = rowBlocks rows ∧ reported = rowsDropped path rows := by
  cases means with
  | nil =>
      rw [rowBlocks, rowsDropped]
      exact ⟨rfl, rfl⟩
  | cons first others =>
      obtain ⟨rfl, rfl⟩ := first.eq
      obtain ⟨rfl, rfl⟩ := others.eq
      rw [rowBlocks, rowsDropped]
      exact ⟨rfl, rfl⟩

theorem Binding.Means.eq {path : List String} {label : String} {binding : Binding ν}
    {block : Block ν} {reported : List DroppedEntry}
    (means : Binding.Means path label binding block reported) :
    block = binding.block label ∧ reported = binding.dropped (path ++ [label]) := by
  cases means with
  | callable =>
      rw [Binding.block, Binding.dropped]
      exact ⟨rfl, rfl⟩
  | sequence isSuite inner arranged =>
      obtain ⟨rfl, rfl⟩ := inner.eq
      obtain ⟨rfl, rfl⟩ := arranged.eq_sorted
      rw [Binding.block, Binding.dropped]
      exact ⟨rfl, rfl⟩

theorem EntriesMean.eq {path : List String} {entries : List (Entry ν)} {nested : List (Block ν)}
    {reported : List DroppedEntry} (means : EntriesMean path entries nested reported) :
    nested = entryBlocks entries ∧ reported = entriesDropped path entries := by
  cases means with
  | nil =>
      rw [entryBlocks, entriesDropped]
      exact ⟨rfl, rfl⟩
  | suite first more =>
      obtain ⟨rfl, rfl⟩ := first.eq
      obtain ⟨rfl, rfl⟩ := more.eq
      rw [entryBlocks, entriesDropped, Entry.blocks, Entry.dropped]
      exact ⟨rfl, rfl⟩
  | @plain _ entry _ _ _ noSpec more =>
      obtain ⟨rfl, rfl⟩ := more.eq
      rw [entryBlocks, entriesDropped]
      cases entry with
      | suite spec => exact absurd rfl (noSpec spec)
      | reference raw => exact ⟨rfl, rfl⟩
      | hook callable => exact ⟨rfl, rfl⟩
      | other kind => exact ⟨rfl, rfl⟩

end

/-- The blocks of a compiled spec and the entries reported beside them stand for the spec. -/
theorem compileBlocks_means (options : Options) (spec : Spec ν) (depth : UInt64)
    {blocks : List (Block ν)} (compiled : (options.compileBlocks spec depth).outcome = .ok blocks) :
    spec.Means [] blocks (options.compileBlocks spec depth).dropped := by
  obtain ⟨rfl, reports, innocent⟩ := (options.compileBlocks_settles spec depth).of_ok compiled
  rw [reports]
  exact Spec.means options [] spec (List.findSome?_eq_none_iff.mp innocent)

/-- A suite with a reference, a nested case, and three hooks of which the last one has no place. -/
theorem compileBlocks_means_widget :
    (({} : Options).compileBlocks (ν := Value)
        (.mk [("Widget", .sequence [.hook (.ofSource "f"), .reference "svc+",
          .suite (.mk [("should work", .callable (.ofSource "c"))]), .hook (.ofSource "g"),
          .hook (.ofSource "h")])]) 0).outcome =
      .ok [.mk .suite "Widget" (.items [.modules ["svc"], .inject ["svc"],
        .before (.ofSource "f"), .after (.ofSource "g"),
        .nested (.mk .case "should work" (.callable (.ofSource "c")))])] ∧
    Spec.Means (ν := Value) []
      (.mk [("Widget", .sequence [.hook (.ofSource "f"), .reference "svc+",
        .suite (.mk [("should work", .callable (.ofSource "c"))]), .hook (.ofSource "g"),
        .hook (.ofSource "h")])])
      [.mk .suite "Widget" (.items [.modules ["svc"], .inject ["svc"],
        .before (.ofSource "f"), .after (.ofSource "g"),
        .nested (.mk .case "should work" (.callable (.ofSource "c")))])]
      [⟨"Widget", 4, "callable", .hooksTaken⟩] :=
  ⟨rfl, compileBlocks_means {} _ 0 rfl⟩

end SuiteOutline
