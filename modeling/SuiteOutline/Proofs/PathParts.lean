import Mathlib.Data.List.Basic
import Mathlib.Data.List.TakeWhile
import SuiteOutline.Proofs.Checking

/-!
# The parts of paths

A path below another has the other's parts and then the names that lead down to it.  So paths below
one directory differ in their order exactly if they differ in these names, however the path of the
directory itself is written.
-/

namespace SuiteOutline

namespace Path

/-! ## Slashes -/

theorem split_ne_nil (characters : List Char) : split characters ≠ [] := by
  cases characters with
  | nil => simp [split]
  | cons character rest =>
      rw [split]
      split
      · simp
      · split <;> simp

theorem split_slash_cons (rest : List Char) : split ('/' :: rest) = [] :: split rest := by
  rw [split]
  cases pieces : split rest with
  | nil => exact absurd pieces (split_ne_nil rest)
  | cons piece others => rfl

theorem split_append_slash (first second : List Char) :
    split (first ++ '/' :: second) = split first ++ split second := by
  induction first with
  | nil =>
      rw [List.nil_append, split_slash_cons]
      rfl
  | cons character rest ih =>
      rw [List.cons_append, split, split, ih]
      cases pieces : split rest with
      | nil => exact absurd pieces (split_ne_nil rest)
      | cons piece others =>
          rw [List.cons_append]
          by_cases slash : character = '/'
          · simp [slash]
          · simp [slash]

theorem split_of_not_mem {characters : List Char} (noSlash : '/' ∉ characters) :
    split characters = [characters] := by
  induction characters with
  | nil => rfl
  | cons character rest ih =>
      rw [List.mem_cons, not_or] at noSlash
      rw [split, ih noSlash.2]
      have differs : (character == '/') = false := beq_false_of_ne (Ne.symm noSlash.1)
      simp [differs]

theorem pieces_append_slash (first second : String) :
    pieces (first ++ "/" ++ second) = pieces first ++ pieces second := by
  have characters : (first ++ "/" ++ second).toList = first.toList ++ '/' :: second.toList := by
    simp
  rw [pieces, characters, split_append_slash, List.map_append, ← pieces, ← pieces]

theorem pieces_ne_nil (path : String) : pieces path ≠ [] := by
  rw [pieces, ne_eq, List.map_eq_nil_iff]
  exact split_ne_nil path.toList

theorem eq_of_pieces_eq {path piece : String} (alone : pieces path = [piece]) : path = piece := by
  by_cases slash : '/' ∈ path.toList
  · obtain ⟨first, second, isPath⟩ := List.append_of_mem slash
    rw [pieces, isPath, split_append_slash] at alone
    have lengths := congrArg List.length alone
    have leading := List.length_pos_iff.mpr (split_ne_nil first)
    have trailing := List.length_pos_iff.mpr (split_ne_nil second)
    simp only [List.length_map, List.length_append, List.length_singleton] at lengths
    omega
  · rw [pieces, split_of_not_mem slash] at alone
    simpa using alone

/-! ## Names -/

/-- A text that can name an entry of a directory. -/
structure IsName (name : String) : Prop where
  ne_empty : name ≠ ""
  ne_current : name ≠ "."
  ne_parent : name ≠ ".."
  noSlash : '/' ∉ name.toList

instance decidableIsName (name : String) : Decidable (IsName name) :=
  decidable_of_iff (name ≠ "" ∧ name ≠ "." ∧ name ≠ ".." ∧ '/' ∉ name.toList)
    ⟨fun ⟨solid, notCurrent, notParent, noSlash⟩ => ⟨solid, notCurrent, notParent, noSlash⟩,
      fun isName => ⟨isName.ne_empty, isName.ne_current, isName.ne_parent, isName.noSlash⟩⟩

theorem IsName.pieces_eq {name : String} (isName : IsName name) : pieces name = [name] := by
  rw [pieces, split_of_not_mem isName.noSlash, List.map_singleton, String.ofList_toList]

theorem IsName.partOf?_eq {name : String} (isName : IsName name) :
    partOf? name = some (.named name) := by
  simp [partOf?, isName.ne_empty, isName.ne_current, isName.ne_parent]

def partsOf : List String → List Part
  | [] => []
  | first :: rest =>
      if first == "" then if rest.isEmpty then [] else .root :: rest.filterMap partOf?
      else if first == "." then .current :: rest.filterMap partOf?
      else (partOf? first).toList ++ rest.filterMap partOf?

theorem parts_eq_partsOf (path : String) : parts path = partsOf (pieces path) := by
  rw [parts]
  cases pieces path <;> rfl

/-- A name behind pieces adds a part to those that the pieces have with a slash behind them. -/
theorem partsOf_append_name {earlier : List String} (nonempty : earlier ≠ []) {name : String}
    (isName : IsName name) :
    partsOf (earlier ++ [name]) = partsOf (earlier ++ [""]) ++ [.named name] := by
  obtain ⟨first, rest, rfl⟩ := List.exists_cons_of_ne_nil nonempty
  have named : [name].filterMap partOf? = [.named name] := by simp [isName.partOf?_eq]
  have noPart : [""].filterMap partOf? = [] := rfl
  simp only [List.cons_append, partsOf, List.filterMap_append, named, noPart]
  split
  · simp
  · split <;> simp

/-- A slash at the end of a path counts for nothing, unless the path is a slash. -/
theorem partsOf_append_empty {earlier : List String} (nonempty : earlier ≠ [])
    (solid : earlier ≠ [""]) : partsOf (earlier ++ [""]) = partsOf earlier := by
  obtain ⟨first, rest, rfl⟩ := List.exists_cons_of_ne_nil nonempty
  have noPart : [""].filterMap partOf? = [] := rfl
  simp only [List.cons_append, partsOf, List.filterMap_append, noPart, List.append_nil]
  by_cases empty : first = ""
  · have others : rest ≠ [] := by
      rintro rfl
      exact solid (by rw [empty])
    simp [empty, others]
  · simp [empty]

theorem endsWith_slash_iff (path : String) :
    path.endsWith "/" = true ↔ ∃ shorter, path = shorter ++ "/" := by
  have suffix : path.endsWith "/" = true ↔ "/".toList <:+ path.toList := by
    rw [← String.endsWith_toSlice, String.Slice.endsWith_string_iff, String.copy_toSlice]
  rw [suffix]
  constructor
  · rintro ⟨shorter, isPath⟩
    exact ⟨String.ofList shorter, String.toList_injective (by simpa using isPath.symm)⟩
  · rintro ⟨shorter, rfl⟩
    exact ⟨shorter.toList, by rw [String.toList_append]⟩

theorem parts_join {path name : String} (nonempty : path ≠ "") (isName : IsName name) :
    parts (join path name) = parts path ++ [.named name] := by
  rw [join, parts_eq_partsOf, parts_eq_partsOf]
  by_cases slash : path.endsWith "/" = true
  · obtain ⟨shorter, rfl⟩ := (endsWith_slash_iff path).mp slash
    have closed : pieces (shorter ++ "/") = pieces shorter ++ [""] := by
      have := pieces_append_slash shorter ""
      rwa [String.append_empty] at this
    rw [if_pos slash, pieces_append_slash, isName.pieces_eq, closed]
    exact partsOf_append_name (pieces_ne_nil shorter) isName
  · have solid : pieces path ≠ [""] := fun alone => nonempty (eq_of_pieces_eq alone)
    rw [if_neg slash, pieces_append_slash, isName.pieces_eq,
      partsOf_append_name (pieces_ne_nil path) isName,
      partsOf_append_empty (pieces_ne_nil path) solid]

theorem join_ne_empty {path : String} (nonempty : path ≠ "") (name : String) :
    join path name ≠ "" := by
  rw [join]
  split <;> simp [nonempty]

/-! ## Paths below another -/

/-- A path followed by names, each inside what is named before it. -/
def extend (path : String) (names : List String) : String :=
  names.foldl join path

theorem extend_cons (path name : String) (names : List String) :
    extend path (name :: names) = extend (join path name) names :=
  rfl

theorem parts_extend {path : String} (nonempty : path ≠ "") {names : List String}
    (named : ∀ name ∈ names, IsName name) :
    parts (extend path names) = parts path ++ names.map .named := by
  induction names generalizing path with
  | nil => simp [extend]
  | cons name rest ih =>
      rw [List.forall_mem_cons] at named
      rw [extend_cons, ih (join_ne_empty nonempty name) named.2, parts_join nonempty named.1,
        List.map_cons, List.append_assoc, List.singleton_append]

theorem names_eq_of_parts_eq {path : String} (nonempty : path ≠ "") {names others : List String}
    (named : ∀ name ∈ names, IsName name) (namedToo : ∀ name ∈ others, IsName name)
    (same : parts (extend path names) = parts (extend path others)) : names = others := by
  rw [parts_extend nonempty named, parts_extend nonempty namedToo] at same
  have injective : Function.Injective Part.named := fun _ _ equal => Part.named.inj equal
  exact List.map_injective_iff.mpr injective (List.append_cancel_left same)

theorem fileName?_extend {path : String} (nonempty : path ≠ "") {names : List String}
    (named : ∀ name ∈ names, IsName name) :
    fileName? (extend path names) = names.getLast?.or (fileName? path) := by
  rw [fileName?, parts_extend nonempty named, List.getLast?_append, List.getLast?_map]
  cases names.getLast? <;> rfl

/-! ## Extensions -/

theorem exists_of_drop_takeWhile {characters rest : List Char} {stop first : Char}
    (left : characters.drop (characters.takeWhile (· != stop)).length = first :: rest) :
    first = stop ∧ characters = characters.takeWhile (· != stop) ++ stop :: rest := by
  have whole := List.prefix_iff_eq_append.mp (List.takeWhile_prefix (· != stop) (l := characters))
  rw [left] at whole
  have isStop : first = stop := by
    have cut := List.takeWhile_append_dropWhile (p := (· != stop)) (l := characters)
    have behind : characters.dropWhile (· != stop) = first :: rest :=
      List.append_cancel_left (cut.trans whole.symm)
    have fails := List.head?_dropWhile_not (· != stop) characters
    rw [behind] at fails
    simpa using fails
  subst isStop
  exact ⟨rfl, whole.symm⟩

/-- The extension of a name is what follows its last full stop, if something stands in front. -/
theorem extensionOf?_eq_some_iff {name extension : String} :
    extensionOf? name = some extension ↔
      ∃ stem, stem ≠ "" ∧ name = stem ++ "." ++ extension ∧ '.' ∉ extension.toList := by
  rw [extensionOf?]
  constructor
  · intro found
    split at found
    · rename_i first last before left
      obtain ⟨rfl, whole⟩ := exists_of_drop_takeWhile left
      cases found
      have forwards : name.toList = ((last :: before).reverse ++ ['.']) ++
          (name.toList.reverse.takeWhile (· != '.')).reverse := by
        have := congrArg List.reverse whole
        simpa using this
      refine ⟨String.ofList (last :: before).reverse, by simp, ?_, ?_⟩
      · apply String.toList_injective
        simpa using forwards
      · intro inside
        rw [String.toList_ofList, List.mem_reverse] at inside
        simpa using List.mem_takeWhile_imp inside
    · cases found
  · rintro ⟨stem, inFront, rfl, solid⟩
    have backwards : (stem ++ "." ++ extension).toList.reverse =
        extension.toList.reverse ++ '.' :: stem.toList.reverse := by simp
    have after : (stem ++ "." ++ extension).toList.reverse.takeWhile (· != '.') =
        extension.toList.reverse := by
      have others : ∀ character ∈ extension.toList.reverse, (character != '.') = true := by
        intro character isIn
        rw [List.mem_reverse] at isIn
        simp only [bne_iff_ne, ne_eq]
        rintro rfl
        exact solid isIn
      rw [backwards, List.takeWhile_append_of_pos others]
      simp
    obtain ⟨first, rest, isStem⟩ := List.exists_cons_of_ne_nil
      (show stem.toList.reverse ≠ [] by simpa using inFront)
    rw [after, backwards, List.drop_left, isStem]
    simp

/-- A name with one of the extensions of spec documents, and something in front of it. -/
def IsSpecName (name : String) : Prop :=
  ∃ stem extension, stem ≠ "" ∧ extension ∈ ["yaml", "yml", "json"] ∧
    name = stem ++ "." ++ extension

end Path

theorem isSpecPath_iff (path : String) :
    isSpecPath path = true ↔ ∃ name, Path.fileName? path = some name ∧ Path.IsSpecName name := by
  have plain : ∀ extension ∈ ["yaml", "yml", "json"], '.' ∉ extension.toList := by decide
  rw [isSpecPath, Path.extension?]
  constructor
  · intro accepted
    split at accepted
    · cases accepted
    · rename_i extension found
      obtain ⟨name, atEnd, isExtension⟩ := Option.bind_eq_some_iff.mp found
      obtain ⟨stem, inFront, isName, -⟩ := Path.extensionOf?_eq_some_iff.mp isExtension
      exact ⟨name, atEnd, stem, extension, inFront, List.contains_iff_mem.mp accepted, isName⟩
  · rintro ⟨name, atEnd, stem, extension, inFront, known, isName⟩
    have isExtension : Path.extensionOf? name = some extension :=
      Path.extensionOf?_eq_some_iff.mpr ⟨stem, inFront, isName, plain extension known⟩
    rw [atEnd, Option.bind_some, isExtension]
    exact List.contains_iff_mem.mpr known

end SuiteOutline
