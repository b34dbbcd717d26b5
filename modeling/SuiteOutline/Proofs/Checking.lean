import SuiteOutline.Session

/-!
# Checks

Emitting a program, listing its blocks and checking a directory ask the same of a document: it can
be read, it describes a spec, and the spec compiles.  A check asks it of every document that is
found, in the order of paths.  A document that fails is told and counted; it does not end the check.
-/

namespace SuiteOutline

/-! ## The order of paths -/

namespace Path

def Part.rank : Part → Nat
  | .root => 0
  | .current => 1
  | .parent => 2
  | .named _ => 3

def Part.text : Part → String
  | .named name => name
  | _ => ""

theorem Part.order_eq_compareLex :
    Part.order = compareLex (compareOn Part.rank) (compareOn Part.text) := by
  funext first second
  cases first <;> cases second <;> rfl

instance Part.transCmp_order : Std.TransCmp Part.order := by
  rw [Part.order_eq_compareLex]
  infer_instance

theorem orderParts_eq_compareLex (first second : List Part) :
    orderParts first second = List.compareLex Part.order first second := by
  induction first generalizing second with
  | nil => cases second <;> rfl
  | cons part rest ih =>
      cases second with
      | nil => rfl
      | cons other others => rw [orderParts, ih, List.compareLex_cons_cons]

theorem notAfter_eq_isLE (first second : String) :
    notAfter first second = (List.compareLex Part.order (parts first) (parts second)).isLE := by
  rw [notAfter, order, orderParts_eq_compareLex]
  cases List.compareLex Part.order (parts first) (parts second) <;> rfl

theorem notAfter_trans (first second third : String) (sooner : notAfter first second = true)
    (later : notAfter second third = true) : notAfter first third = true := by
  rw [notAfter_eq_isLE] at sooner later ⊢
  exact Std.TransCmp.isLE_trans sooner later

theorem notAfter_total (first second : String) :
    (notAfter first second || notAfter second first) = true := by
  have turned : List.compareLex Part.order (parts second) (parts first) =
      (List.compareLex Part.order (parts first) (parts second)).swap := Std.OrientedCmp.eq_swap
  rw [notAfter_eq_isLE, notAfter_eq_isLE, turned]
  cases List.compareLex Part.order (parts first) (parts second) <;> rfl

end Path

theorem specPaths_pairwise (found : List Found) :
    (specPaths found).Pairwise fun first second => Path.notAfter first second = true :=
  List.pairwise_mergeSort Path.notAfter_trans Path.notAfter_total _

theorem specPaths_perm (found : List Found) :
    (specPaths found).Perm
      ((found.filter fun item => item.isFile && isSpecPath item.path).map Found.path) :=
  List.mergeSort_perm _ _

/-! ## One document -/

namespace Files

variable (files : Files Id) (options : Options) (path : String)

/-- The document in a file can be read, describes a spec, and the spec compiles. -/
def Compiles : Prop :=
  ∃ (text : String) (spec : Spec) (program : Program), files.read path = .ok text ∧
    Spec.load path text = .ok spec ∧ (options.program spec).result = .ok program

variable {files path}

theorem loadSpec_ok_iff {spec : Spec} :
    files.loadSpec path = .ok spec ↔
      ∃ text, files.read path = .ok text ∧ Spec.load path text = .ok spec := by
  unfold loadSpec
  cases read : files.read path with
  | error fault =>
      constructor
      · intro loaded
        cases loaded
      · rintro ⟨text, isText, -⟩
        cases isText
  | ok text =>
      constructor
      · intro loaded
        exact ⟨text, rfl, loaded⟩
      · rintro ⟨other, isText, loaded⟩
        cases isText
        exact loaded

theorem attempt_of_error {report : Report}
    (failed : files.loadSpec (ν := Value) path = .error report) :
    files.attempt options path = ⟨[], .error report⟩ := by
  unfold attempt
  rw [failed]
  rfl

theorem attempt_of_ok {spec : Spec} (loaded : files.loadSpec path = .ok spec) :
    files.attempt options path = ⟨options.messages (options.program spec).notes,
      (options.program spec).result.mapError CompileError.report⟩ := by
  unfold attempt
  rw [loaded]
  rfl

variable (files path)

theorem compiles_iff : files.Compiles options path ↔
    ∃ (spec : Spec) (program : Program), files.loadSpec path = .ok spec ∧
      (options.program spec).result = .ok program := by
  simp only [Compiles, loadSpec_ok_iff]
  constructor
  · rintro ⟨text, spec, program, read, loaded, made⟩
    exact ⟨spec, program, ⟨text, read, loaded⟩, made⟩
  · rintro ⟨spec, program, ⟨text, read, loaded⟩, made⟩
    exact ⟨text, spec, program, read, loaded, made⟩

theorem attempt_failed_eq_false_iff :
    (files.attempt options path).failed = false ↔ files.Compiles options path := by
  rw [compiles_iff]
  cases loaded : files.loadSpec path with
  | error report =>
      rw [attempt_of_error options loaded]
      constructor
      · intro given
        cases given
      · rintro ⟨spec, program, isSpec, -⟩
        cases isSpec
  | ok spec =>
      rw [attempt_of_ok options loaded]
      cases made : (options.program spec).result with
      | error error =>
          constructor
          · intro given
            cases given
          · rintro ⟨other, program, isSpec, isProgram⟩
            cases isSpec
            rw [made] at isProgram
            cases isProgram
      | ok program =>
          constructor
          · intro _
            exact ⟨spec, program, rfl, made⟩
          · intro _
            rfl

instance decidableCompiles : Decidable (files.Compiles options path) :=
  decidable_of_iff _ (files.attempt_failed_eq_false_iff options path)

theorem attempt_failed_eq :
    (files.attempt options path).failed = !decide (files.Compiles options path) := by
  have agrees := files.attempt_failed_eq_false_iff options path
  cases failed : (files.attempt options path).failed with
  | false => rw [decide_eq_true (agrees.mp failed), Bool.not_true]
  | true =>
      have fails : ¬ files.Compiles options path := by
        intro compiles
        rw [agrees.mpr compiles] at failed
        cases failed
      rw [decide_eq_false fails, Bool.not_false]

def attempts (paths : List String) : List (String × Attempt) :=
  paths.map fun path => (path, files.attempt options path)

/-- Attempts are made at every document, whatever came of those in front of it. -/
theorem attemptAll_eq_attempts (paths : List String) :
    files.attemptAll options paths = files.attempts options paths := by
  induction paths with
  | nil => rfl
  | cons path rest ih =>
      rw [attempts, List.map_cons, ← attempts, ← ih]
      rfl

theorem countP_failed (paths : List String) :
    (files.attempts options paths).countP (fun (_, attempt) => attempt.failed) =
      paths.countP fun path => ¬ files.Compiles options path := by
  rw [attempts, List.countP_map]
  apply List.countP_congr
  intro path _
  rw [decide_not, ← attempt_failed_eq]
  rfl

end Files

/-! ## One request -/

theorem ExitStatus.code_eq_zero_iff (status : ExitStatus) :
    status.code = 0 ↔ status = .success := by
  cases status <;> decide

/-- A transcript of a session that failed and wrote no result. -/
def Transcript.IsBareFailure (transcript : Transcript) : Prop :=
  transcript.status.code = 1 ∧ transcript.output = []

/-- A document is written, in whatever form, exactly if it compiles; otherwise nothing is. -/
theorem Files.transcript_attempt (files : Files Id) (options : Options) (path : String)
    (written : Program → String) :
    (((files.attempt options path).transcript written).status.code = 0 ↔
      files.Compiles options path) ∧
    (((files.attempt options path).transcript written).status.code ≠ 0 →
      ((files.attempt options path).transcript written).IsBareFailure) := by
  rw [← attempt_failed_eq_false_iff, Attempt.transcript, Attempt.failed]
  cases (files.attempt options path).result with
  | error report => exact ⟨⟨nofun, nofun⟩, fun _ => ⟨rfl, rfl⟩⟩
  | ok program => exact ⟨⟨fun _ => rfl, fun _ => rfl⟩, fun fails => absurd rfl fails⟩

namespace Files

variable (files : Files Id) {flags : Flags} {options : Options}

theorem carryOut_of_no_options {report : Report} (failed : files.optionsOf flags = .error report)
    (command : Command) : files.carryOut (.run flags command) = .ofReport report := by
  unfold carryOut
  dsimp only
  rw [failed]
  rfl

theorem carryOut_of_options (loaded : files.optionsOf flags = .ok options) (command : Command) :
    files.carryOut (.run flags command) = files.perform options command := by
  unfold carryOut
  dsimp only
  rw [loaded]
  rfl

/-- A request that writes a document in some form succeeds exactly if the options can be had and
the document compiles, and otherwise leaves a bare failure. -/
theorem carryOut_document (flags : Flags) (command : Command) {path : String}
    {written : Program → String}
    (performs : ∀ options,
      files.perform options command = (files.attempt options path).transcript written) :
    ((files.carryOut (.run flags command)).status.code = 0 ↔
      ∃ options, files.optionsOf flags = .ok options ∧ files.Compiles options path) ∧
    ((files.carryOut (.run flags command)).status.code ≠ 0 →
      (files.carryOut (.run flags command)).IsBareFailure) := by
  cases loaded : files.optionsOf flags with
  | error report =>
      rw [files.carryOut_of_no_options loaded]
      refine ⟨⟨nofun, ?_⟩, fun _ => ⟨rfl, rfl⟩⟩
      rintro ⟨options, given, -⟩
      cases given
  | ok options =>
      obtain ⟨succeeds, fails⟩ := files.transcript_attempt options path written
      rw [files.carryOut_of_options loaded, performs]
      refine ⟨succeeds.trans ⟨fun compiles => ⟨options, rfl, compiles⟩, ?_⟩, fails⟩
      rintro ⟨other, given, compiles⟩
      cases given
      exact compiles

theorem discover_ok_iff {root : String} {paths : List String} :
    files.discover root = .ok paths ↔
      ∃ found, files.walk root = .ok found ∧ paths = specPaths found := by
  unfold discover
  cases walked : files.walk root with
  | error fault =>
      constructor
      · intro discovered
        cases discovered
      · rintro ⟨found, isFound, -⟩
        cases isFound
  | ok found =>
      constructor
      · intro discovered
        cases discovered
        exact ⟨found, rfl, rfl⟩
      · rintro ⟨other, isFound, rfl⟩
        cases isFound
        rfl

theorem perform_check_of_error {root : String} {report : Report}
    (failed : files.discover root = .error report) :
    files.perform options (.check root) = .ofReport report := by
  unfold perform
  dsimp only
  rw [failed]
  rfl

theorem perform_check_of_ok {root : String} {paths : List String}
    (discovered : files.discover root = .ok paths) :
    files.perform options (.check root) =
      checkTranscript (files.attempts options paths) := by
  rw [← attemptAll_eq_attempts]
  unfold perform
  dsimp only
  rw [discovered]
  rfl

end Files

theorem checkTranscript_code_eq_zero_iff (attempts : List (String × Attempt)) :
    (checkTranscript attempts).status.code = 0 ↔
      attempts.countP (fun (_, attempt) => attempt.failed) = 0 := by
  rw [ExitStatus.code_eq_zero_iff]
  unfold checkTranscript
  dsimp only
  split
  · rename_i noFailure
    exact ⟨fun _ => noFailure, fun _ => rfl⟩
  · rename_i failure
    constructor
    · intro succeeded
      cases succeeded
    · intro noFailure
      exact absurd noFailure failure

theorem checkTranscript_output (attempts : List (String × Attempt)) :
    (checkTranscript attempts).output =
      attempts.map (fun (path, attempt) => attempt.checkLine path) ++
        checkSummary attempts.length (attempts.countP fun (_, attempt) => attempt.failed) := by
  unfold checkTranscript
  dsimp only
  split <;> rfl

namespace Files

variable (files : Files Id) (flags : Flags)

theorem check_code_eq_zero_iff (root : String) :
    (files.carryOut (.run flags (.check root))).status.code = 0 ↔
      ∃ options paths, files.optionsOf flags = .ok options ∧ files.discover root = .ok paths ∧
        ∀ path ∈ paths, (files.carryOut (.run flags (.emit path))).status.code = 0 := by
  have emits (path : String) :=
    (files.carryOut_document flags (.emit path) fun _ => rfl).1
  cases loaded : files.optionsOf flags with
  | error report =>
      rw [files.carryOut_of_no_options loaded]
      constructor
      · nofun
      · rintro ⟨options, paths, given, -⟩
        cases given
  | ok options =>
      rw [files.carryOut_of_options loaded]
      cases discovered : files.discover root with
      | error report =>
          rw [files.perform_check_of_error discovered]
          constructor
          · nofun
          · rintro ⟨_, paths, -, given, -⟩
            cases given
      | ok paths =>
          rw [files.perform_check_of_ok discovered, checkTranscript_code_eq_zero_iff,
            countP_failed, List.countP_eq_zero]
          constructor
          · intro noneFails
            refine ⟨options, paths, rfl, rfl, fun path isIn => (emits path).mpr ?_⟩
            exact ⟨options, loaded, by simpa using noneFails path isIn⟩
          · rintro ⟨_, _, -, isPaths, succeed⟩ path isIn
            cases isPaths
            obtain ⟨other, given, compiles⟩ := (emits path).mp (succeed path isIn)
            rw [loaded] at given
            cases given
            simpa using compiles

theorem emit_agrees_with_blocks (path : String) :
    ((files.carryOut (.run flags (.emit path))).status.code = 0 ↔
      (files.carryOut (.run flags (.blocks path))).status.code = 0) ∧
    ((files.carryOut (.run flags (.emit path))).status.code = 0 ↔
      ∃ options, files.optionsOf flags = .ok options ∧ files.Compiles options path) ∧
    ((files.carryOut (.run flags (.emit path))).status.code ≠ 0 →
      (files.carryOut (.run flags (.emit path))).IsBareFailure ∧
        (files.carryOut (.run flags (.blocks path))).IsBareFailure) := by
  obtain ⟨emits, emitsNothing⟩ := files.carryOut_document flags (.emit path) fun _ => rfl
  obtain ⟨lists, listsNothing⟩ := files.carryOut_document flags (.blocks path) fun _ => rfl
  have agree := emits.trans lists.symm
  refine ⟨agree, emits, fun failed => ⟨emitsNothing failed, listsNothing ?_⟩⟩
  intro listed
  exact failed (agree.mpr listed)

theorem check_output {root : String} {options : Options} {paths : List String}
    (loaded : files.optionsOf flags = .ok options) (discovered : files.discover root = .ok paths) :
    (files.carryOut (.run flags (.check root))).output =
      paths.map (fun path => (if files.Compiles options path then "✓ " else "✗ ") ++ path) ++
        checkSummary paths.length (paths.countP fun path => ¬ files.Compiles options path) := by
  have lines : (files.attempts options paths).map (fun (path, attempt) => attempt.checkLine path) =
      paths.map fun path => (if files.Compiles options path then "✓ " else "✗ ") ++ path := by
    rw [attempts, List.map_map]
    apply List.map_congr_left
    intro path _
    have failed := files.attempt_failed_eq options path
    by_cases compiles : files.Compiles options path
    · simp [Attempt.checkLine, failed, compiles]
    · simp [Attempt.checkLine, failed, compiles]
  rw [files.carryOut_of_options loaded, files.perform_check_of_ok discovered,
    checkTranscript_output, lines, countP_failed, attempts, List.length_map]

end Files

/-- A check agrees with what emitting programs and listing blocks make of single documents.  It
succeeds exactly if the options can be had, the directory can be searched, and the program of every
document found could be emitted under the same flags.  Emitting and listing succeed on the same
documents, and where they fail they write nothing.  If the options can be had and the directory can
be searched, a check writes a line for every document found, in the order of paths, with the mark of
whether it compiles; then an empty line and the number of documents, which is that of those that
pass and those that fail; and then, if any fail, their number. -/
theorem check_agrees_with_emit_and_blocks (files : Files Id) (flags : Flags) :
    (∀ root, (files.carryOut (.run flags (.check root))).status.code = 0 ↔
      ∃ options paths, files.optionsOf flags = .ok options ∧ files.discover root = .ok paths ∧
        ∀ path ∈ paths, (files.carryOut (.run flags (.emit path))).status.code = 0) ∧
    (∀ path,
      ((files.carryOut (.run flags (.emit path))).status.code = 0 ↔
        (files.carryOut (.run flags (.blocks path))).status.code = 0) ∧
      ((files.carryOut (.run flags (.emit path))).status.code = 0 ↔
        ∃ options, files.optionsOf flags = .ok options ∧ files.Compiles options path) ∧
      ((files.carryOut (.run flags (.emit path))).status.code ≠ 0 →
        (files.carryOut (.run flags (.emit path))).IsBareFailure ∧
        (files.carryOut (.run flags (.blocks path))).IsBareFailure)) ∧
    ∀ root options paths, files.optionsOf flags = .ok options →
      files.discover root = .ok paths →
      (∃ found, files.walk root = .ok found ∧ paths.Perm
        ((found.filter fun item => item.isFile && isSpecPath item.path).map Found.path)) ∧
      paths.Pairwise (fun first second => Path.notAfter first second = true) ∧
      ∃ passed failed,
        passed = paths.countP (fun path => files.Compiles options path) ∧
        failed = paths.countP (fun path => ¬ files.Compiles options path) ∧
        passed + failed = paths.length ∧
        (files.carryOut (.run flags (.check root))).output =
          paths.map (fun path => (if files.Compiles options path then "✓ " else "✗ ") ++ path) ++
            (["", "Checked " ++ toString (passed + failed) ++ " spec files"] ++
              if failed = 0 then [] else [toString failed ++ " failed"]) := by
  refine ⟨files.check_code_eq_zero_iff flags, files.emit_agrees_with_blocks flags, ?_⟩
  intro root options paths loaded discovered
  have total : paths.countP (fun path => files.Compiles options path) +
      paths.countP (fun path => ¬ files.Compiles options path) = paths.length := by
    rw [List.length_eq_countP_add_countP fun path => decide (files.Compiles options path)]
    simp
  have output := files.check_output flags loaded discovered
  obtain ⟨found, walked, rfl⟩ := files.discover_ok_iff.mp discovered
  refine ⟨⟨found, walked, specPaths_perm found⟩, specPaths_pairwise found, _, _, rfl, rfl, total,
    ?_⟩
  rw [total, output]
  rfl

example : ((FileTree.directory [("specs", .directory [("b.yaml", .file [255])])]).files.carryOut
      (.run .none (.check "specs"))).output =
    ["✗ specs/b.yaml", "", "Checked 1 spec files", "1 failed"] := by
  cbv

end SuiteOutline
