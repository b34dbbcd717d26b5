import Mathlib.Data.List.Forall2
import Mathlib.Data.List.Perm.Basic
import SuiteOutline.BodyStep
import SuiteOutline.Proofs.CasePlaces

/-!
# The cases that are run

Which cases a recording runs after a spec is registered, in which order, and with what result.  The
cases are run at their places, once each.  The result of a case is that of its body in the suites on
the way to its place, so nothing beside the way can change it.
-/

namespace SuiteOutline

variable {ν : Type}

namespace SuiteRecord

theorem foldl_extendPath (path labels : List String) :
    labels.foldl extendPath path = path ++ labels.filter (fun label => label ≠ "") := by
  induction labels generalizing path with
  | nil => simp
  | cons label rest ih =>
      rw [List.foldl_cons, ih, extendPath, List.filter_cons]
      by_cases unnamed : label = "" <;> simp [unnamed]

end SuiteRecord

namespace CasePlace

def fullName (path : List String) (place : CasePlace ν) : String :=
  " ".intercalate (path ++ place.labels.filter (fun label => label ≠ "") ++ [place.title])

variable [HasBooleans ν]

def run (injector : Injector ν) (path : List String) (outer : List (Setting ν))
    (place : CasePlace ν) : String × SuiteRecord.CaseResult :=
  (place.fullName path, Setting.caseResult injector (outer ++ place.around) place.body)

theorem run_within (injector : Injector ν) (path : List String) (outer : List (Setting ν))
    (place : CasePlace ν) (index : Nat) (label : String) (setting : Setting ν) :
    (place.within index label setting).run injector path outer =
      place.run injector (SuiteRecord.extendPath path label) (outer ++ [setting]) := by
  have sameName : (place.within index label setting).fullName path =
      place.fullName (SuiteRecord.extendPath path label) := by
    rw [fullName, fullName, within, ← SuiteRecord.foldl_extendPath, List.foldl_cons,
      SuiteRecord.foldl_extendPath]
  rw [run, run, sameName]
  simp [within]

end CasePlace

namespace SuiteRecord

variable [HasBooleans ν]

theorem runAllWithin_eq_flatMap (injector : Injector ν) (around : List (SuiteRecord ν))
    (path : List String) (suites : List (SuiteRecord ν)) :
    runAllWithin injector around path suites =
      suites.flatMap (runWithin injector around path) := by
  induction suites with
  | nil => rw [runAllWithin, List.flatMap_nil]
  | cons suite rest ih => rw [runAllWithin, ih, List.flatMap_cons]

theorem runWithin_eq (injector : Injector ν) (around : List (SuiteRecord ν)) (path : List String)
    (suite : SuiteRecord ν) :
    runWithin injector around path suite =
      suite.cases.map (fun (title, body) =>
        (fullName (extendPath path suite.name) title,
          caseResult injector (around ++ [suite]) body)) ++
      suite.suites.flatMap
        (runWithin injector (around ++ [suite]) (extendPath path suite.name)) := by
  obtain ⟨name, modules, dependencies, before, after, cases, suites⟩ := suite
  rw [runWithin, runAllWithin_eq_flatMap]

end SuiteRecord

theorem flatMap_zipIdx {α β : Type} (values : List α) (function : α → List β) :
    (values.zipIdx.flatMap fun indexed => function indexed.1) = values.flatMap function := by
  rw [← List.flatMap_map Prod.fst function, List.zipIdx_map_fst]

theorem ownCases_map {β : Type} (blocks : List (Block ν)) (function : CasePlace ν → β)
    (value : String × Callable ν → β)
    (same : ∀ index title body, function (.own index title body) = value (title, body)) :
    (ownCases blocks).map function = (blocks.filterMap Block.case?).map value := by
  have each (block : Block ν) (index : Nat) :
      ((block.ownCase? index).map function).toList = (block.case?.map value).toList := by
    rw [Block.ownCase?, Option.map_map]
    congr 1
    apply Option.map_congr
    rintro ⟨title, body⟩ _
    exact same index title body
  rw [ownCases, List.map_filterMap, List.map_filterMap, List.filterMap_eq_flatMap_toList,
    List.filterMap_eq_flatMap_toList]
  simp only [each]
  exact flatMap_zipIdx blocks fun block => (block.case?.map value).toList

section Run

variable [HasBooleans ν] (injector : Injector ν) (path : List String)
  (around : List (SuiteRecord ν))

theorem runs_eq_map_of_nested {blocks : List (Block ν)}
    (nested : ∀ block ∈ blocks, ∀ index,
      block.record?.toList.flatMap (SuiteRecord.runWithin injector around path) =
        (block.casePlaces index).map
          (CasePlace.run injector path (around.map SuiteRecord.setting))) :
    ((blocks.filterMap Block.case?).map fun (title, body) =>
        (SuiteRecord.fullName path title, SuiteRecord.caseResult injector around body)) ++
      (blocks.filterMap Block.record?).flatMap (SuiteRecord.runWithin injector around path) =
    (casePlaces blocks).map (CasePlace.run injector path (around.map SuiteRecord.setting)) := by
  rw [casePlaces, List.map_append]
  congr 1
  · symm
    apply ownCases_map
    intro index title body
    dsimp only
    rw [SuiteRecord.caseResult_eq]
    simp [CasePlace.run, CasePlace.own, CasePlace.fullName, SuiteRecord.fullName]
  · rw [List.filterMap_eq_flatMap_toList, List.flatMap_assoc, nestedCases, List.map_flatMap,
      ← flatMap_zipIdx]
    apply List.flatMap_congr
    rintro ⟨block, index⟩ member
    exact nested block (List.fst_mem_of_mem_zipIdx member) index

end Run

theorem Block.run_eq_map [HasBooleans ν] (injector : Injector ν) (block : Block ν)
    (path : List String) (around : List (SuiteRecord ν)) (index : Nat) :
    block.record?.toList.flatMap (SuiteRecord.runWithin injector around path) =
      (block.casePlaces index).map
        (CasePlace.run injector path (around.map SuiteRecord.setting)) := by
  induction block using Block.induction_nested generalizing path around index with
  | callable kind label callable => rfl
  | items kind label items ih =>
      obtain ⟨suite, suite_eq⟩ : ∃ suite, suite = (SuiteRecord.named label).extend items := ⟨_, rfl⟩
      have name_eq : suite.name = label := by rw [suite_eq]; rfl
      have cases_eq : suite.cases = (items.filterMap Item.nested?).filterMap Block.case? := by
        rw [suite_eq, List.filterMap_filterMap]
        rfl
      have suites_eq : suite.suites = (items.filterMap Item.nested?).filterMap Block.record? := by
        rw [suite_eq, ← itemRecords_eq_filterMap]
        rfl
      have setting_eq : (around ++ [suite]).map SuiteRecord.setting =
          around.map SuiteRecord.setting ++ [Items.setting items] := by
        rw [List.map_append, suite_eq]
        rfl
      have inner := runs_eq_map_of_nested injector (SuiteRecord.extendPath path label)
        (around ++ [suite]) fun block isNested further => ih block isNested _ _ further
      rw [SuiteRecord.record?_eq_extend, Option.toList_some, List.flatMap_singleton, ← suite_eq,
        SuiteRecord.runWithin_eq, name_eq, cases_eq, suites_eq, inner, setting_eq,
        Block.casePlaces_items, List.map_map]
      apply List.map_congr_left
      intro place _
      exact (place.run_within injector path _ index label (Items.setting items)).symm

theorem Recording.runAll_register [HasBooleans ν] (blocks : List (Block ν))
    (injector : Injector ν) :
    (framework.register blocks empty).runAll injector =
      (casePlaces blocks).map (CasePlace.run injector [] []) := by
  obtain ⟨root, root_eq⟩ : ∃ root, root = (SuiteRecord.named "").extend (blocks.map .nested) :=
    ⟨_, rfl⟩
  have registered : (framework.register blocks empty).root = root := by
    rw [register_eq_filled, root_eq]
    rfl
  rw [SuiteRecord.extend_blocks] at root_eq
  have name_eq : root.name = "" := by rw [root_eq]; rfl
  have cases_eq : root.cases = blocks.filterMap Block.case? := by rw [root_eq]; rfl
  have suites_eq : root.suites = blocks.filterMap Block.record? := by rw [root_eq]; rfl
  have setting_eq : [root].map SuiteRecord.setting = [⟨[], [], [], []⟩] := by rw [root_eq]; rfl
  have runs := runs_eq_map_of_nested injector [] [root] fun block (_ : block ∈ blocks) index =>
    block.run_eq_map injector [] [root] index
  rw [runAll, registered, SuiteRecord.runWithin_eq, name_eq, cases_eq, suites_eq]
  refine Eq.trans runs ?_
  apply List.map_congr_left
  intro place _
  rw [setting_eq, CasePlace.run, CasePlace.run]
  exact congrArg _ Setting.caseResult_cons_empty

/-! ## One result for each call -/

def Call.case? : Call ν → Option (String × Callable ν)
  | .it title body => some (title, body)
  | _ => none

def CasePlace.case (place : CasePlace ν) : String × Callable ν :=
  (place.title, place.body)

theorem itemCalls_cases (items : List (Item ν)) :
    (itemCalls items).filterMap Call.case? =
      (items.filterMap Item.nested?).flatMap fun block => block.calls.filterMap Call.case? := by
  induction items with
  | nil => rw [itemCalls]; rfl
  | cons item rest ih =>
      rw [itemCalls, List.filterMap_append, ih]
      cases item <;> simp [Item.calls, Call.case?, Item.nested?, List.filterMap_cons]

theorem cases_perm_of_nested {blocks : List (Block ν)}
    (nested : ∀ block ∈ blocks, ∀ index,
      (block.case?.toList ++ (block.casePlaces index).map CasePlace.case).Perm
        (block.calls.filterMap Call.case?)) :
    ((casePlaces blocks).map CasePlace.case).Perm
      (blocks.flatMap fun block => block.calls.filterMap Call.case?) := by
  have own : (ownCases blocks).map CasePlace.case =
      blocks.zipIdx.flatMap fun indexed => indexed.1.case?.toList := by
    rw [ownCases_map blocks CasePlace.case id fun _ _ _ => rfl, List.map_id,
      List.filterMap_eq_flatMap_toList, ← flatMap_zipIdx]
  rw [casePlaces, List.map_append, own, nestedCases, List.map_flatMap, ← flatMap_zipIdx blocks]
  apply (List.flatMap_append_perm _ _ _).trans
  apply List.Perm.flatMap_left
  rintro ⟨block, index⟩ member
  exact nested block (List.fst_mem_of_mem_zipIdx member) index

theorem Block.cases_perm (block : Block ν) (index : Nat) :
    (block.case?.toList ++ (block.casePlaces index).map CasePlace.case).Perm
      (block.calls.filterMap Call.case?) := by
  induction block using Block.induction_nested generalizing index with
  | callable kind label callable =>
      cases kind <;> simp [Block.case?, Block.casePlaces, Block.calls, Call.case?]
  | items kind label items ih =>
      have noCase : Block.case? (.mk kind label (.items items)) = none := by
        cases kind <;> rfl
      have calls_eq : (Block.mk kind label (.items items)).calls.filterMap Call.case? =
          (items.filterMap Item.nested?).flatMap fun block =>
            block.calls.filterMap Call.case? := by
        rw [← itemCalls_cases]
        cases kind <;> simp [Block.calls, Call.case?, List.filterMap_cons]
      rw [noCase, calls_eq, Block.casePlaces_items, List.map_map]
      exact cases_perm_of_nested ih

theorem casePlaces_perm_calls (blocks : List (Block ν)) :
    ((casePlaces blocks).map CasePlace.case).Perm
      ((Framework.calls blocks).filterMap Call.case?) := by
  rw [Framework.calls_eq_flatMap, List.filterMap_flatMap]
  exact cases_perm_of_nested fun block _ index => block.cases_perm index

/-- A spec compiles and is registered with a recording framework that was told nothing before. -/
def Options.Records (options : Options) (spec : Spec ν) (recording : Recording ν) : Prop :=
  ∃ program notes, options.register Recording.framework spec Recording.empty =
    (⟨.ok program, notes⟩, recording)

theorem Options.Records.eq {options : Options} {spec : Spec ν} {recording : Recording ν}
    (records : options.Records spec recording) :
    recording = Recording.framework.register spec.blocks Recording.empty := by
  obtain ⟨program, notes, registered⟩ := records
  cases compiled : (options.compileBlocks spec 0).outcome with
  | error error =>
      have noProgram := options.program_of_error compiled
      simp only [Options.register, noProgram] at registered
      cases congrArg (Noted.result ∘ Prod.fst) registered
  | ok blocks =>
      have made := options.program_of_ok compiled
      obtain ⟨rfl, -, -⟩ := (options.compileBlocks_settles spec 0).of_ok compiled
      simp only [Options.register, made] at registered
      exact (congrArg Prod.snd registered).symm

theorem Options.Records.calls_eq {options : Options} {spec : Spec ν} {recording : Recording ν}
    (records : options.Records spec recording) :
    recording.calls = Framework.calls spec.blocks := by
  rw [records.eq, Recording.register_eq_filled, Framework.calls_eq_flatMap, ← itemCalls_map_nested]
  rfl

theorem Options.Records.runAll_eq [HasBooleans ν] {options : Options} {spec : Spec ν}
    {recording : Recording ν} (records : options.Records spec recording) (injector : Injector ν) :
    recording.runAll injector = spec.casePlaces.map (CasePlace.run injector [] []) := by
  rw [records.eq, Recording.runAll_register]
  rfl

theorem Options.Records.exists_run [HasBooleans ν] {options : Options} {spec : Spec ν}
    {recording : Recording ν} (records : options.Records spec recording) (injector : Injector ν)
    {place : CasePlace ν} (holds : RowsHoldCase spec.rows place) :
    ∃ index : Nat, spec.casePlaces[index]? = some place ∧
      (recording.runAll injector)[index]? =
        some (place.fullName [], Setting.caseResult injector place.around place.body) := by
  obtain ⟨index, found⟩ := List.mem_iff_getElem?.mp ((spec.mem_casePlaces_iff place).mpr holds)
  refine ⟨index, found, ?_⟩
  rw [records.runAll_eq, List.getElem?_map, found]
  rfl

/-- A run names a case and tells how it ends. -/
structure CasePlace.EndsAs [HasBooleans ν] (injector : Injector ν) (place : CasePlace ν)
    (told : String × SuiteRecord.CaseResult) : Prop where
  name : told.1 = place.fullName []
  ends : Setting.CaseEnds injector place.around place.body told.2

theorem CasePlace.EndsAs.rightUnique [HasBooleans ν] (injector : Injector ν) :
    Relator.RightUnique (CasePlace.EndsAs injector) := by
  rintro place ⟨name, result⟩ ⟨other, another⟩ first second
  have sameResult := (Setting.existsUnique_caseEnds injector place.around place.body).unique
    first.ends second.ends
  exact Prod.ext (first.name.trans second.name.symm) sameResult

/-- Cases are run once each and in isolation.  There is one result for each call that registers a
case; a suite's own cases come before those of the suites nested in it, and siblings in the order in
which they are registered.  The suites on the way to a case, its body and the injector decide how it
ends: it is prepared, its body is run once, and then the hooks after it.  Whatever is changed beside
the way to a case, its result stays the same in the run of the changed spec.  A dependency without
an instance fails the cases whose preparation gets to it: any other case ends in the same way with
an instance, so that if it misses the dependency, then because a callable says so. -/
theorem cases_run_once_in_isolation [HasBooleans ν] {options : Options} {spec : Spec ν}
    {recording : Recording ν} (records : options.Records spec recording) (injector : Injector ν) :
    (∀ place, place ∈ spec.casePlaces ↔ RowsHoldCase spec.rows place) ∧
    spec.casePlaces.Nodup ∧ spec.casePlaces.Pairwise CasePlace.Before ∧
    (spec.casePlaces.map CasePlace.case).Perm (recording.calls.filterMap Call.case?) ∧
    List.Forall₂ (CasePlace.EndsAs injector) spec.casePlaces (recording.runAll injector) ∧
    (∀ place : CasePlace ν, ∃! result, Setting.CaseEnds injector place.around place.body result) ∧
    (∀ (others : Options) (changed : Spec ν) (again : Recording ν), others.Records changed again →
      ∀ place left, RowsKeepCase spec.rows place changed.rows left →
        ∃ (index moved : Nat) (result : SuiteRecord.CaseResult),
          spec.casePlaces[index]? = some place ∧ changed.casePlaces[moved]? = some left ∧
          (recording.runAll injector)[index]? = some (place.fullName [], result) ∧
          (again.runAll injector)[moved]? = some (left.fullName [], result)) ∧
    ∀ name, Rows.find? name injector = none → ∀ place ∈ spec.casePlaces,
      (Setting.Reaches injector place.around name →
        Setting.CaseEnds injector place.around place.body (.error (.unbound name))) ∧
      (¬ Setting.Reaches injector place.around name →
        ∀ supplied : Injector ν,
          (∀ other, other ≠ name → Rows.find? other supplied = Rows.find? other injector) →
            ∀ result, Setting.CaseEnds supplied place.around place.body result ↔
              Setting.CaseEnds injector place.around place.body result) ∧
      (Setting.CaseEnds injector place.around place.body (.error (.unbound name)) →
        Setting.Reaches injector place.around name ∨ place.body.Raises (.unbound name) ∨
          ∃ setting ∈ place.around, ∃ hook ∈ setting.before ++ setting.after,
            hook.Raises (.unbound name)) := by
  have ordered : spec.casePlaces.Pairwise CasePlace.Before := casePlaces_ordered spec.blocks
  refine ⟨spec.mem_casePlaces_iff, ordered.imp CasePlace.Before.ne, ordered, ?_, ?_,
    fun place => Setting.existsUnique_caseEnds injector place.around place.body, ?_, ?_⟩
  · rw [records.calls_eq]
    exact casePlaces_perm_calls spec.blocks
  · rw [records.runAll_eq, List.forall₂_map_right_iff, List.forall₂_same]
    intro place _
    exact ⟨rfl, Setting.caseEnds_iff.mpr rfl⟩
  · intro others changed again recordsAgain place left keeps
    obtain ⟨index, found, runs⟩ := records.exists_run injector keeps.holds
    obtain ⟨moved, foundAgain, runsAgain⟩ := recordsAgain.exists_run injector keeps.holdsStill
    have sameResult : Setting.caseResult injector left.around left.body =
        Setting.caseResult injector place.around place.body := by
      rw [keeps.same.1, keeps.same.2]
    rw [sameResult] at runsAgain
    exact ⟨index, moved, _, found, foundAgain, runs, runsAgain⟩
  · intro name missing place _
    refine ⟨Setting.caseEnds_of_reaches missing, ?_, Setting.reaches_or_raises⟩
    intro unreached supplied agree result
    exact Setting.caseEnds_supplied agree unreached

/-! ## A suite with hooks that act -/

namespace IsolationWidget

def setUp : Callable :=
  (Callable.before "setUp").withSteps [.require "svc" .integer, .add "svc" 1]

/-- Fails unless the case has seen the instance. -/
def tearDown : Callable :=
  (Callable.after "tearDown").withSteps [.require "seen" .boolean]

def render : Callable :=
  (Callable.ofSource "render").withSteps
    [.expect "svc" (.integer 2), .bind "seen" (.boolean true)]

def crash : Callable :=
  (Callable.ofSource "crash").withSteps [.fail "broken"]

def giveUp : Callable :=
  (Callable.ofSource "giveUp").withSteps [.bind "seen" (.boolean true), .fail "given up"]

def spec : Spec :=
  .mk [("should be live", .callable (.ofSource "bare")),
    ("Widget", .sequence [.reference "svc", .hook setUp, .hook tearDown,
      .suite (.mk [("should render", .callable render), ("should crash", .callable crash),
        ("should give up", .callable giveUp)])])]

/-- The spec with another suite and other cases beside the way to a case. -/
def crowded : Spec :=
  .mk [("Widget", .sequence [
      .suite (.mk [("Other", .sequence [.hook crash,
        .suite (.mk [("should open", .callable render)])])]),
      .reference "svc", .hook setUp, .hook tearDown,
      .suite (.mk [("should give up", .callable giveUp)])])]

end IsolationWidget

open IsolationWidget in
/-- Bodies and hooks act and fail: a hook's failure counts before that of the body, and a body has
what the hooks before it leave.  Without the dependency only the case outside its suite fails by
itself. -/
theorem cases_run_once_in_isolation_widget :
    ∃ recording again : Recording,
      Options.Records {} spec recording ∧ Options.Records {} crowded again ∧
      recording.runAll [("svc", .integer 1)] =
        [("should be live", .error .noBody), ("Widget should render", .ok ()),
          ("Widget should crash", .error (.unbound "seen")),
          ("Widget should give up", .error (.failed "given up"))] ∧
      (∃ moved : Nat, (again.runAll [("svc", .integer 1)])[moved]? =
        some ("Widget should give up", .error (.failed "given up"))) ∧
      recording.runAll [] =
        [("should be live", .error .noBody), ("Widget should render", .error (.unbound "svc")),
          ("Widget should crash", .error (.unbound "svc")),
          ("Widget should give up", .error (.unbound "svc"))] := by
  obtain ⟨recording, records⟩ : ∃ recording, Options.Records {} spec recording := ⟨_, _, _, rfl⟩
  obtain ⟨again, recordsAgain⟩ : ∃ again, Options.Records {} crowded again := ⟨_, _, _, rfl⟩
  obtain ⟨-, -, -, -, runs, -, isolated, -⟩ :=
    cases_run_once_in_isolation records [("svc", .integer 1)]
  obtain ⟨-, -, -, -, runsWithout, -⟩ := cases_run_once_in_isolation records []
  have alone : recording.runAll [("svc", .integer 1)] =
      [("should be live", .error .noBody), ("Widget should render", .ok ()),
        ("Widget should crash", .error (.unbound "seen")),
        ("Widget should give up", .error (.failed "given up"))] :=
    (CasePlace.EndsAs.rightUnique _).forall₂ runs <|
      .cons ⟨rfl, .finished (.done _) (.bare rfl) (.done _)⟩ <|
      .cons ⟨rfl, .finished (.next (.inject rfl _) (.next (.runHook (.live rfl rfl)) (.done _)))
        (.live rfl rfl) (.next (.live rfl rfl) (.done _))⟩ <|
      .cons ⟨rfl, .unfinished (.next (.inject rfl _) (.next (.runHook (.live rfl rfl)) (.done _)))
        (.live rfl rfl) (.stop (.live rfl rfl) _)⟩ <|
      .cons ⟨rfl, .finished (.next (.inject rfl _) (.next (.runHook (.live rfl rfl)) (.done _)))
        (.live rfl rfl) (.next (.live rfl rfl) (.done _))⟩ .nil
  refine ⟨recording, again, records, recordsAgain, alone, ?_, ?_⟩
  · obtain ⟨index, moved, result, -, -, first, second⟩ := isolated {} _ again recordsAgain _ _
      (@RowsKeepCase.nested _ _ _ 1 0 _ _ _ _ _ _ rfl rfl rfl
        (@RowsKeepCase.own _ _ _ 2 1 _ _ _ rfl rfl rfl rfl))
    have told : ("Widget should give up", result) ∈ recording.runAll [("svc", .integer 1)] :=
      List.mem_of_getElem? first
    have result_eq : result = .error (.failed "given up") := by
      rw [alone] at told
      simpa using told
    exact ⟨moved, result_eq ▸ second⟩
  · exact (CasePlace.EndsAs.rightUnique _).forall₂ runsWithout <|
      .cons ⟨rfl, .finished (.done _) (.bare rfl) (.done _)⟩ <|
      .cons ⟨rfl, .unprepared (.stop (.missing rfl _) _)⟩ <|
      .cons ⟨rfl, .unprepared (.stop (.missing rfl _) _)⟩ <|
      .cons ⟨rfl, .unprepared (.stop (.missing rfl _) _)⟩ .nil

end SuiteOutline
