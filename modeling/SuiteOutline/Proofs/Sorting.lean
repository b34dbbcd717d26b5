import SuiteOutline.Compile
import SuiteOutline.Proofs.HookPlacement

/-!
# Sorting the entries of a suite

What a suite's entries leave in each bucket, said of the entries as a whole: the names that their
references ask for, the hooks of either bucket, and a record of each entry without a place.  Adding
the entries one by one to a partition arrives at exactly these buckets.
-/

namespace SuiteOutline

variable {ν : Type}

namespace Entry

def hook? : Entry ν → Option (Callable ν)
  | .hook callable => some callable
  | _ => none

def reference? : Entry ν → Option Reference
  | .reference raw => some (Reference.decode raw)
  | _ => none

end Entry

namespace Entries

def hooks (entries : List (Entry ν)) : List (Callable ν) :=
  entries.filterMap Entry.hook?

def references (entries : List (Entry ν)) : List Reference :=
  entries.filterMap Entry.reference?

def moduleNames (entries : List (Entry ν)) : List String :=
  ((references entries).filter (·.role.loadsModule)).map (·.name)

def dependencyNames (entries : List (Entry ν)) : List String :=
  ((references entries).filter (·.role.injects)).map (·.name)

variable (entries : List (Entry ν)) (last : Entry ν)

@[simp]
theorem hooks_concat : hooks (entries ++ [last]) = hooks entries ++ last.hook?.toList := by
  rw [hooks, List.filterMap_append]
  cases found : last.hook? <;> simp [hooks, found]

@[simp]
theorem references_concat :
    references (entries ++ [last]) = references entries ++ last.reference?.toList := by
  rw [references, List.filterMap_append]
  cases found : last.reference? <;> simp [references, found]

end Entries

/-- Why an entry behind others has no place, if it has none. -/
def Entry.dropReason? (earlier : List (Entry ν)) : Entry ν → Option DropReason
  | .reference _ => none
  | .hook callable =>
      if Hooks.bucket? (Entries.hooks earlier) callable = none then some .hooksTaken else none
  | .suite _ => none
  | .other _ => some .unsupportedShape

/-- The record of an entry behind others, if it has no place in the suite. -/
def Entry.dropped? (suite : String) (earlier : List (Entry ν)) (entry : Entry ν) :
    Option DroppedEntry :=
  (entry.dropReason? earlier).map fun reason => ⟨suite, earlier.length, entry.shape, reason⟩

theorem Entry.dropped?_hook_eq_some_iff (suite : String) (earlier : List (Entry ν))
    (hook : Callable ν) (record : DroppedEntry) :
    (Entry.hook hook).dropped? suite earlier = some record ↔
      Hooks.bucket? (Entries.hooks earlier) hook = none ∧
        record = ⟨suite, earlier.length, "callable", .hooksTaken⟩ := by
  by_cases homeless : Hooks.bucket? (Entries.hooks earlier) hook = none
  · simp [dropped?, dropReason?, homeless, shape, eq_comm]
  · simp [dropped?, dropReason?, homeless]

def Entries.dropped (suite : String) (entries : List (Entry ν)) : List DroppedEntry :=
  (withEarlier [] entries).filterMap fun (earlier, entry) => entry.dropped? suite earlier

@[simp]
theorem Entries.dropped_concat (suite : String) (entries : List (Entry ν)) (last : Entry ν) :
    Entries.dropped suite (entries ++ [last]) =
      Entries.dropped suite entries ++ (last.dropped? suite entries).toList := by
  rw [dropped, withEarlier_concat, List.filterMap_append]
  cases found : last.dropped? suite entries <;> simp [dropped, found]

namespace Partition

/-- The partition of a suite's entries, with the blocks of the specs among them. -/
def sorted (suite : String) (nested : List (Block ν)) (entries : List (Entry ν)) : Partition ν where
  modules := Entries.moduleNames entries
  dependencies := Entries.dependencyNames entries
  before := Hooks.inBucket .before (Entries.hooks entries)
  after := Hooks.inBucket .after (Entries.hooks entries)
  nested := nested
  dropped := Entries.dropped suite entries

def addTo (partition : Partition ν) (bucket : HookBucket) (callable : Callable ν) : Partition ν :=
  match bucket with
  | .before => { partition with before := partition.before ++ [callable] }
  | .after => { partition with after := partition.after ++ [callable] }

variable (suite : String) (nested : List (Block ν)) (entries : List (Entry ν))

theorem sorted_concat_reference (raw : String) :
    sorted suite nested (entries ++ [.reference raw]) =
      (sorted suite nested entries).addReference (Reference.decode raw) := by
  cases loads : (Reference.decode raw).role.loadsModule <;>
    cases injects : (Reference.decode raw).role.injects <;>
      simp [sorted, addReference, Entries.moduleNames, Entries.dependencyNames, Entry.reference?,
        Entry.hook?, Entry.dropped?, Entry.dropReason?, loads, injects]

theorem sorted_concat_suite (blocks : List (Block ν)) (spec : Spec ν) :
    sorted suite (nested ++ blocks) (entries ++ [.suite spec]) =
      (sorted suite nested entries).addNested blocks := by
  simp [sorted, addNested, Entries.moduleNames, Entries.dependencyNames, Entry.reference?,
    Entry.hook?, Entry.dropped?, Entry.dropReason?]

theorem sorted_concat_dropped {last : Entry ν} {record : DroppedEntry}
    (found : last.dropped? suite entries = some record) :
    sorted suite nested (entries ++ [last]) = (sorted suite nested entries).addDropped record := by
  cases last with
  | reference raw => simp [Entry.dropped?, Entry.dropReason?] at found
  | suite spec => simp [Entry.dropped?, Entry.dropReason?] at found
  | other kind =>
      simp [sorted, addDropped, Entries.moduleNames, Entries.dependencyNames, Entry.reference?,
        Entry.hook?, found]
  | hook callable =>
      obtain ⟨homeless, -⟩ :=
        (Entry.dropped?_hook_eq_some_iff suite entries callable record).mp found
      simp [sorted, addDropped, Entries.moduleNames, Entries.dependencyNames, Entry.reference?,
        Entry.hook?, homeless, found]

theorem sorted_concat_hook {callable : Callable ν} {bucket : HookBucket}
    (placed : Hooks.bucket? (Entries.hooks entries) callable = some bucket) :
    sorted suite nested (entries ++ [.hook callable]) =
      (sorted suite nested entries).addTo bucket callable := by
  cases bucket <;>
    simp [sorted, addTo, Entries.moduleNames, Entries.dependencyNames, Entry.reference?,
      Entry.hook?, Entry.dropped?, Entry.dropReason?, placed]

theorem addHook?_eq_map {partition : Partition ν} {earlier : List (Callable ν)}
    (before : partition.before = Hooks.inBucket .before earlier)
    (after : partition.after = Hooks.inBucket .after earlier) (callable : Callable ν) :
    partition.addHook? callable =
      (Hooks.bucket? earlier callable).map fun bucket => partition.addTo bucket callable := by
  have beforeEmpty : partition.before.isEmpty = !Hooks.fillBefore earlier := by
    rw [before, Hooks.inBucket_before_isEmpty]
  have afterEmpty : partition.after.isEmpty = !Hooks.fillAfter earlier := by
    rw [after, Hooks.inBucket_after_isEmpty]
  unfold addHook?
  rw [beforeEmpty, afterEmpty, Hooks.bucket?_eq_ite]
  split
  · rfl
  · split <;> rfl

/-- A hook is placed by what the hooks in front of it leave free. -/
theorem addHook?_sorted (callable : Callable ν) :
    (sorted suite nested entries).addHook? callable =
      if Hooks.bucket? (Entries.hooks entries) callable = none then none
      else some (sorted suite nested (entries ++ [.hook callable])) := by
  have joins : (sorted suite nested entries).addHook? callable =
      (Hooks.bucket? (Entries.hooks entries) callable).map fun bucket =>
        (sorted suite nested entries).addTo bucket callable := addHook?_eq_map rfl rfl callable
  rw [joins]
  cases placed : Hooks.bucket? (Entries.hooks entries) callable with
  | none => rfl
  | some bucket =>
      rw [if_neg (Option.some_ne_none bucket), sorted_concat_hook suite nested entries placed,
        Option.map_some]

end Partition

end SuiteOutline
