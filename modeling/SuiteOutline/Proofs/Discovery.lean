import Mathlib.Data.List.Nodup
import Mathlib.Data.List.Perm.Basic
import SuiteOutline.Proofs.PathParts

/-!
# Discovery

The spec documents at or below a path, told from the tree of files that stands there: every file
whose name has one of the extensions, once, in the order of the names that lead to it.  Neither the
order in which a search comes upon files nor the order in which directories list them matters.
-/

namespace SuiteOutline

/-! ## The order of parts -/

namespace Path

instance Part.lawfulEqCmp_order : Std.LawfulEqCmp Part.order where
  compare_self {part} := (inferInstance : Std.ReflCmp Part.order).compare_self
  eq_of_compare {first second} same := by
    cases first <;> cases second <;> simp only [Part.order, reduceCtorEq] at same ⊢
    split at same
    · cases same
    · split at same
      · rename_i equal
        rw [equal]
      · cases same

theorem order_eq_compareLex (first second : String) :
    order first second = List.compareLex Part.order (parts first) (parts second) :=
  orderParts_eq_compareLex _ _

theorem order_eq_iff (first second : String) :
    order first second = .eq ↔ parts first = parts second := by
  rw [order_eq_compareLex]
  exact Std.LawfulEqCmp.compare_eq_iff_eq

theorem not_order_lt_of_lt {first second : String} (sooner : order first second = .lt) :
    order second first ≠ .lt := by
  rw [order_eq_compareLex] at sooner ⊢
  exact Std.OrientedCmp.not_lt_of_lt sooner

theorem order_lt_of_notAfter {first second : String} (notLater : notAfter first second = true)
    (differ : parts first ≠ parts second) : order first second = .lt := by
  rw [notAfter] at notLater
  have apart : order first second ≠ .eq := mt (order_eq_iff first second).mp differ
  cases compared : order first second with
  | lt => rfl
  | eq => exact absurd compared apart
  | gt => simp [compared] at notLater

theorem orderParts_append (shared first second : List Part) :
    orderParts (shared ++ first) (shared ++ second) = orderParts first second := by
  induction shared with
  | nil => rfl
  | cons part rest ih =>
      have same : part.order part = .eq := Std.ReflCmp.compare_self
      rw [List.cons_append, List.cons_append, orderParts, same, Ordering.then, ih]

theorem orderParts_named_lt_iff (names others : List String) :
    orderParts (names.map .named) (others.map .named) = .lt ↔ names < others := by
  induction names generalizing others with
  | nil => cases others <;> simp [orderParts]
  | cons name rest ih =>
      cases others with
      | nil => simp [orderParts]
      | cons other more =>
          rw [List.map_cons, List.map_cons, orderParts, List.cons_lt_cons_iff, ← ih, Part.order]
          by_cases sooner : name < other
          · simp [sooner]
          · by_cases equal : name = other
            · simp [equal]
            · simp [sooner, equal]

/-- Paths below another are ordered by the names that lead to them, name by name. -/
theorem order_extend_lt_iff {path : String} (nonempty : path ≠ "") {names others : List String}
    (named : ∀ name ∈ names, IsName name) (namedToo : ∀ name ∈ others, IsName name) :
    order (extend path names) (extend path others) = .lt ↔ names < others := by
  rw [order, parts_extend nonempty named, parts_extend nonempty namedToo, orderParts_append,
    orderParts_named_lt_iff]

end Path

example : Path.order "a/b.yml" "a-b.yml" = .lt := by
  decide +kernel

/-! ## Trees of files as a search sees them -/

/-- A tree of files without what is in the files. -/
inductive FileShape where
  | file
  | directory (entries : List (String × FileShape))
  /-- Anything else, such as a link: it is found, but it is no file and is not entered. -/
  | other

namespace FileShape

def isFile : FileShape → Bool
  | .file => true
  | .directory _ => false
  | .other => false

/-- What stands in a tree where names lead to, each inside what is named before it. -/
inductive At : FileShape → List String → FileShape → Prop where
  | here {shape : FileShape} : At shape [] shape
  | within {entries : List (String × FileShape)} {name : String} {inner found : FileShape}
      {names : List String} (entry : (name, inner) ∈ entries) (more : At inner names found) :
      At (.directory entries) (name :: names) found

/-- No directory of the tree holds two entries under one name, and the names can be names. -/
structure Proper (shape : FileShape) : Prop where
  distinct {names : List String} {entries : List (String × FileShape)}
    (standing : shape.At names (.directory entries)) : (Rows.keys entries).Nodup
  named {names : List String} {entries : List (String × FileShape)}
    (standing : shape.At names (.directory entries)) : ∀ name ∈ Rows.keys entries, Path.IsName name

/-- A search found all that stands at or below a path, and everything once, in whatever order. -/
structure WalkedAs (shape : FileShape) (root : String) (found : List Found) : Prop where
  once : found.Nodup
  every (item : Found) : item ∈ found ↔
    ∃ names inner, shape.At names inner ∧ item = ⟨Path.extend root names, inner.isFile⟩

theorem isFile_iff (shape : FileShape) : shape.isFile = true ↔ shape = .file := by
  cases shape <;> simp [isFile]

namespace Proper

theorem within {entries : List (String × FileShape)} (proper : (directory entries).Proper)
    {name : String} {inner : FileShape} (entry : (name, inner) ∈ entries) : inner.Proper where
  distinct standing := proper.distinct (.within entry standing)
  named standing := proper.named (.within entry standing)

theorem isName {entries : List (String × FileShape)} (proper : (directory entries).Proper)
    {name : String} {inner : FileShape} (entry : (name, inner) ∈ entries) : Path.IsName name :=
  proper.named .here name (List.mem_map_of_mem entry)

theorem tail {entry : String × FileShape} {rest : List (String × FileShape)}
    (proper : (directory (entry :: rest)).Proper) : (directory rest).Proper where
  distinct standing := by
    cases standing with
    | here => exact (List.nodup_cons.mp (proper.distinct .here)).2
    | within entry more => exact proper.distinct (.within (List.mem_cons_of_mem _ entry) more)
  named standing := by
    cases standing with
    | here => exact fun name isKey => proper.named .here name (List.mem_cons_of_mem _ isKey)
    | within entry more => exact proper.named (.within (List.mem_cons_of_mem _ entry) more)

theorem file : FileShape.file.Proper where
  distinct standing := nomatch standing
  named standing := nomatch standing

theorem directory {entries : List (String × FileShape)} (distinct : (Rows.keys entries).Nodup)
    (inner : ∀ entry ∈ entries, Path.IsName entry.1 ∧ entry.2.Proper) :
    (FileShape.directory entries).Proper where
  distinct standing := by
    cases standing with
    | here => exact distinct
    | within entry more => exact (inner _ entry).2.distinct more
  named standing := by
    cases standing with
    | here =>
        intro name isKey
        obtain ⟨entry, isIn, rfl⟩ := List.mem_map.mp isKey
        exact (inner entry isIn).1
    | within entry more => exact (inner _ entry).2.named more

end Proper

theorem At.named {shape found : FileShape} {names : List String} (standing : shape.At names found)
    (proper : shape.Proper) : ∀ name ∈ names, Path.IsName name := by
  induction standing with
  | here => simp
  | within entry more ih =>
      exact List.forall_mem_cons.mpr ⟨proper.isName entry, ih (proper.within entry)⟩

end FileShape

/-! ## Searches -/

theorem mem_specPaths_iff {found : List Found} {path : String} :
    path ∈ specPaths found ↔ ⟨path, true⟩ ∈ found ∧ isSpecPath path = true := by
  rw [(specPaths_perm found).mem_iff, List.mem_map]
  constructor
  · rintro ⟨⟨_, isFile⟩, isIn, rfl⟩
    rw [List.mem_filter, Bool.and_eq_true] at isIn
    obtain ⟨isFound, rfl, isSpec⟩ := isIn
    exact ⟨isFound, isSpec⟩
  · rintro ⟨isFound, isSpec⟩
    exact ⟨⟨path, true⟩, List.mem_filter.mpr ⟨isFound, by simp [isSpec]⟩, rfl⟩

theorem specPaths_nodup {found : List Found} (once : found.Nodup) : (specPaths found).Nodup := by
  rw [(specPaths_perm found).nodup_iff]
  refine List.Nodup.map_on ?_ (once.filter _)
  rintro ⟨path, isFile⟩ isIn ⟨other, isFileToo⟩ isInToo rfl
  have files := (List.mem_filter.mp isIn).2
  have filesToo := (List.mem_filter.mp isInToo).2
  simp only [Bool.and_eq_true] at files filesToo
  rw [files.1, filesToo.1]

namespace FileShape

/-- A spec document of a tree: a file whose name has one of the extensions.  The file at the path
itself has the name at the end of the path. -/
structure IsSpec (shape : FileShape) (root : String) (names : List String) : Prop where
  standing : shape.At names .file
  extension : ∃ name, names.getLast?.or (Path.fileName? root) = some name ∧ Path.IsSpecName name

variable {shape : FileShape} {root : String} {found : List Found}

theorem WalkedAs.mem_specPaths_iff (walked : shape.WalkedAs root found) (proper : shape.Proper)
    (nonempty : root ≠ "") {path : String} :
    path ∈ specPaths found ↔ ∃ names, shape.IsSpec root names ∧ path = Path.extend root names := by
  rw [SuiteOutline.mem_specPaths_iff, walked.every]
  constructor
  · rintro ⟨⟨names, inner, standing, isItem⟩, isSpec⟩
    obtain ⟨rfl, isFile⟩ := Found.mk.inj isItem
    rw [(isFile_iff inner).mp isFile.symm] at standing
    rw [isSpecPath_iff, Path.fileName?_extend nonempty (standing.named proper)] at isSpec
    exact ⟨names, ⟨standing, isSpec⟩, rfl⟩
  · rintro ⟨names, ⟨standing, extension⟩, rfl⟩
    refine ⟨⟨names, .file, standing, rfl⟩, ?_⟩
    rwa [isSpecPath_iff, Path.fileName?_extend nonempty (standing.named proper)]

theorem WalkedAs.specPaths_increasing (walked : shape.WalkedAs root found) (proper : shape.Proper)
    (nonempty : root ≠ "") :
    (specPaths found).Pairwise fun first second => Path.order first second = .lt := by
  have apart := (specPaths_pairwise found).and (specPaths_nodup walked.once)
  refine apart.imp_of_mem ?_
  rintro first second isIn isInToo ⟨notLater, differ⟩
  obtain ⟨names, ⟨standing, -⟩, rfl⟩ := (walked.mem_specPaths_iff proper nonempty).mp isIn
  obtain ⟨others, ⟨standingToo, -⟩, rfl⟩ := (walked.mem_specPaths_iff proper nonempty).mp isInToo
  refine Path.order_lt_of_notAfter notLater fun same => differ ?_
  rw [Path.names_eq_of_parts_eq nonempty (standing.named proper) (standingToo.named proper) same]

theorem nodup_of_increasing {paths : List String}
    (increasing : paths.Pairwise fun first second => Path.order first second = .lt) :
    paths.Nodup := by
  refine increasing.imp ?_
  rintro path _ sooner rfl
  exact Path.not_order_lt_of_lt sooner sooner

theorem eq_of_increasing {paths others : List String}
    (increasing : paths.Pairwise fun first second => Path.order first second = .lt)
    (increasingToo : others.Pairwise fun first second => Path.order first second = .lt)
    (same : ∀ path, path ∈ paths ↔ path ∈ others) : paths = others := by
  have nodup := nodup_of_increasing increasing
  have nodupToo := nodup_of_increasing increasingToo
  refine List.Perm.eq_of_pairwise ?_ increasing increasingToo
    ((List.perm_ext_iff_of_nodup nodup nodupToo).mpr fun path => same path)
  intro first second _ _ sooner later
  exact absurd later (Path.not_order_lt_of_lt sooner)

end FileShape

/-! ## Trees of files held in memory -/

namespace FileTree

mutual

def shape : FileTree → FileShape
  | .file _ => .file
  | .directory entries => .directory (shapes entries)

def shapes : List (String × FileTree) → List (String × FileShape)
  | [] => []
  | (name, tree) :: rest => (name, tree.shape) :: shapes rest

end

theorem shapes_eq_map (entries : List (String × FileTree)) :
    shapes entries = entries.map fun (name, tree) => (name, tree.shape) := by
  induction entries with
  | nil => rfl
  | cons entry rest ih => rw [shapes, ih, List.map_cons]

theorem mem_shapes {entries : List (String × FileTree)} {name : String} {tree : FileTree}
    (entry : (name, tree) ∈ entries) : (name, tree.shape) ∈ shapes entries := by
  rw [shapes_eq_map]
  exact List.mem_map_of_mem (f := fun (name, tree) => (name, FileTree.shape tree)) entry

theorem keys_shapes (entries : List (String × FileTree)) :
    Rows.keys (shapes entries) = Rows.keys entries := by
  rw [shapes_eq_map, Rows.keys, List.map_map]
  rfl

mutual

theorem mem_walkFrom_iff (path : String) (item : Found) :
    ∀ tree : FileTree, item ∈ walkFrom path tree ↔
      ∃ names inner, tree.shape.At names inner ∧ item = ⟨Path.extend path names, inner.isFile⟩
  | .file _ => by
      rw [walkFrom, List.mem_singleton, shape]
      constructor
      · rintro rfl
        exact ⟨[], .file, .here, rfl⟩
      · rintro ⟨_, _, standing, rfl⟩
        cases standing
        rfl
  | .directory entries => by
      rw [walkFrom, List.mem_cons, mem_walkEntries_iff path item entries, shape]
      constructor
      · rintro (rfl | ⟨name, tree, names, inner, entry, standing, rfl⟩)
        · exact ⟨[], _, .here, rfl⟩
        · exact ⟨name :: names, inner, .within (mem_shapes entry) standing, rfl⟩
      · rintro ⟨_, inner, standing, rfl⟩
        cases standing with
        | here => exact .inl rfl
        | @within _ name _ _ names entry more =>
            rw [shapes_eq_map] at entry
            obtain ⟨⟨_, tree⟩, isIn, isEntry⟩ := List.mem_map.mp entry
            cases isEntry
            exact .inr ⟨name, tree, names, inner, isIn, more, rfl⟩

theorem mem_walkEntries_iff (path : String) (item : Found) :
    ∀ entries : List (String × FileTree), item ∈ walkEntries path entries ↔
      ∃ name tree names inner, (name, tree) ∈ entries ∧ tree.shape.At names inner ∧
        item = ⟨Path.extend path (name :: names), inner.isFile⟩
  | [] => by simp [walkEntries]
  | (name, tree) :: rest => by
      rw [walkEntries, List.mem_append, mem_walkFrom_iff (Path.join path name) item tree,
        mem_walkEntries_iff path item rest]
      constructor
      · rintro (⟨names, inner, standing, rfl⟩ | ⟨other, later, names, inner, entry, more⟩)
        · exact ⟨name, tree, names, inner, List.mem_cons_self, standing, rfl⟩
        · exact ⟨other, later, names, inner, List.mem_cons_of_mem _ entry, more⟩
      · rintro ⟨other, later, names, inner, entry, standing, rfl⟩
        rcases List.mem_cons.mp entry with isFirst | isLater
        · cases isFirst
          exact .inl ⟨names, inner, standing, rfl⟩
        · exact .inr ⟨other, later, names, inner, isLater, standing, rfl⟩

end

mutual

theorem walkFrom_nodup (tree : FileTree) (proper : tree.shape.Proper) {path : String}
    (nonempty : path ≠ "") : (walkFrom path tree).Nodup :=
  match tree, proper with
  | .file _, _ => by
      rw [walkFrom]
      exact List.nodup_singleton _
  | .directory entries, proper => by
      rw [shape] at proper
      rw [walkFrom, List.nodup_cons]
      refine ⟨?_, walkEntries_nodup entries proper nonempty⟩
      intro again
      obtain ⟨name, tree, names, inner, entry, standing, isItem⟩ :=
        (mem_walkEntries_iff path _ entries).mp again
      have named := (FileShape.At.within (mem_shapes entry) standing).named proper
      have parts := congrArg Path.parts (congrArg Found.path isItem)
      have empty : [] = name :: names := Path.names_eq_of_parts_eq nonempty (by simp) named parts
      cases empty

theorem walkEntries_nodup (entries : List (String × FileTree))
    (proper : (FileShape.directory (shapes entries)).Proper) {path : String}
    (nonempty : path ≠ "") :
    (walkEntries path entries).Nodup :=
  match entries, proper with
  | [], _ => by
      rw [walkEntries]
      exact List.nodup_nil
  | (name, tree) :: rest, proper => by
      have own := proper.within (mem_shapes (List.mem_cons_self (a := (name, tree)) (l := rest)))
      rw [walkEntries, List.nodup_append]
      refine ⟨walkFrom_nodup tree own (Path.join_ne_empty nonempty name),
        walkEntries_nodup rest proper.tail nonempty, ?_⟩
      rintro item isIn _ isInToo rfl
      obtain ⟨names, inner, standing, rfl⟩ := (mem_walkFrom_iff _ _ tree).mp isIn
      obtain ⟨other, later, others, found, entry, standingToo, isItem⟩ :=
        (mem_walkEntries_iff path _ rest).mp isInToo
      have named := (FileShape.At.within (mem_shapes List.mem_cons_self) standing).named proper
      have namedToo := (FileShape.At.within (mem_shapes entry) standingToo).named proper.tail
      have parts := congrArg Path.parts (congrArg Found.path isItem)
      rw [← Path.extend_cons] at parts
      have equal := Path.names_eq_of_parts_eq nonempty named namedToo parts
      have again : name ∈ Rows.keys rest := by
        rw [(List.cons.inj equal).1]
        exact List.mem_map_of_mem (f := Prod.fst) entry
      have distinct := proper.distinct .here
      rw [keys_shapes, Rows.keys, List.map_cons, List.nodup_cons] at distinct
      exact distinct.1 again

end

/-- A search of a tree in memory finds all that stands at or below a path, and everything once. -/
theorem exists_walkedAs {tree inner : FileTree} {root : String}
    (standing : tree.find root = .ok inner) (proper : inner.shape.Proper) :
    root ≠ "" ∧
      ∃ found, tree.files.walk root = .ok found ∧ inner.shape.WalkedAs root found := by
  have nonempty : root ≠ "" := by
    rintro rfl
    simp [find] at standing
  refine ⟨nonempty, walkFrom root inner, ?_, walkFrom_nodup inner proper nonempty, ?_⟩
  · change (tree.find root).map (walkFrom root) = .ok (walkFrom root inner)
    rw [standing]
    rfl
  · intro item
    exact mem_walkFrom_iff root item inner

end FileTree

/-- The search for spec documents is exact and canonical.  If everything that stands at or below a
path is found, and everything once, the search gives the files there whose name has one of the
extensions, each once, so that they increase in the order of paths, which is that of the names that
lead to them, name by name.  It gives the same for every other search, in whatever order, of any
tree with the same files. -/
theorem discovery_exact_and_canonical (files : Files Id) {shape : FileShape} {root : String}
    {found : List Found} (nonempty : root ≠ "") (proper : shape.Proper)
    (searched : files.walk root = .ok found) (walked : shape.WalkedAs root found) :
    ∃ paths, files.discover root = .ok paths ∧
      (∀ path, path ∈ paths ↔
        ∃ names, shape.IsSpec root names ∧ path = Path.extend root names) ∧
      paths.Nodup ∧
      paths.Pairwise (fun first second => Path.order first second = .lt) ∧
      (∀ names others, shape.IsSpec root names → shape.IsSpec root others →
        (Path.order (Path.extend root names) (Path.extend root others) = .lt ↔ names < others)) ∧
      ∀ (further : Files Id) (alike : FileShape) (reported : List Found), alike.Proper →
        (∀ names, alike.At names .file ↔ shape.At names .file) →
        further.walk root = .ok reported → alike.WalkedAs root reported →
        further.discover root = .ok paths := by
  have increasing := walked.specPaths_increasing proper nonempty
  refine ⟨specPaths found, files.discover_ok_iff.mpr ⟨found, searched, rfl⟩,
    fun path => walked.mem_specPaths_iff proper nonempty, FileShape.nodup_of_increasing increasing,
    increasing, ?_, ?_⟩
  · intro names others isSpec isSpecToo
    exact Path.order_extend_lt_iff nonempty (isSpec.standing.named proper)
      (isSpecToo.standing.named proper)
  · intro further alike reported properToo same searchedToo walkedToo
    refine further.discover_ok_iff.mpr ⟨reported, searchedToo, ?_⟩
    refine FileShape.eq_of_increasing increasing
      (walkedToo.specPaths_increasing properToo nonempty) fun path => ?_
    have alikeSpecs (names : List String) : shape.IsSpec root names ↔ alike.IsSpec root names :=
      ⟨fun isSpec => ⟨(same names).mpr isSpec.standing, isSpec.extension⟩,
        fun isSpec => ⟨(same names).mp isSpec.standing, isSpec.extension⟩⟩
    simp only [walked.mem_specPaths_iff proper nonempty,
      walkedToo.mem_specPaths_iff properToo nonempty, alikeSpecs]

/-- What stands in a directory with documents at two levels, whose paths as texts stand in another
order than as lists of names, beside a hidden file, a directory named like a document, and a file
of another kind. -/
def FileTree.widgetFiles : FileTree :=
  .directory [("b.yaml", .file []), ("a-b.json", .file []), (".yaml", .file []),
    ("notes.YAML", .file []), ("old.yml", .directory []), ("a", .directory [("z.yml", .file [])])]

theorem discovery_exact_and_canonical_widget :
    ∃ paths,
      (FileTree.directory [("specs", .widgetFiles)]).files.discover "specs" = .ok paths ∧
      "specs/a/z.yml" ∈ paths ∧
      paths.Pairwise (fun first second => Path.order first second = .lt) := by
  have below : (FileShape.directory [("z.yml", .file)]).Proper := by
    refine .directory (by decide) ?_
    simp only [List.forall_mem_singleton]
    exact ⟨by decide, .file⟩
  have proper : FileTree.widgetFiles.shape.Proper := by
    refine .directory (by decide) ?_
    simp only [FileTree.shapes, FileTree.shape, List.forall_mem_cons]
    refine ⟨⟨by decide, .file⟩, ⟨by decide, .file⟩, ⟨by decide, .file⟩, ⟨by decide, .file⟩,
      ⟨by decide, .directory List.nodup_nil (by simp)⟩, ⟨by decide, below⟩, by simp⟩
  have standing : (FileTree.directory [("specs", .widgetFiles)]).find "specs" =
      .ok .widgetFiles := by
    have named : Path.pieces "specs" = ["specs"] :=
      Path.IsName.pieces_eq (by decide)
    have usable : ¬"specs".contains '\x00' = true := by
      simp
    rw [FileTree.find, if_neg usable, if_neg (by simp), named]
    rfl
  obtain ⟨nonempty, found, searched, walked⟩ := FileTree.exists_walkedAs standing proper
  obtain ⟨paths, discovered, exact, -, increasing, -⟩ :=
    discovery_exact_and_canonical _ nonempty proper searched walked
  refine ⟨paths, discovered, (exact _).mpr ⟨["a", "z.yml"], ⟨?_, ?_⟩, by decide +kernel⟩,
    increasing⟩
  · refine @FileShape.At.within _ "a" (.directory [("z.yml", .file)]) _ _ ?_
      (.within List.mem_cons_self .here)
    simp [FileTree.shapes, FileTree.shape]
  · exact ⟨"z.yml", rfl, "z", "yml", by decide, by decide, by decide⟩

end SuiteOutline
