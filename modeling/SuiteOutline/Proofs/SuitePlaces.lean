import SuiteOutline.Proofs.Compilation

/-!
# The suites of a spec in post-order

Every label that is bound to a sequence is that of a suite.  A suite extends over the positions of
its spec from its label to the end of what is in it.  In the order of their ends a suite comes
behind all suites nested in it and behind those that end before it starts.
-/

namespace SuiteOutline

variable {ν : Type}

structure SuitePlace (ν : Type := Value) where
  /-- The positions in front of the label of the suite. -/
  earlier : List (Position ν)
  /-- The labels of the suites around it, outermost first. -/
  enclosing : List String
  label : String
  entries : List (Entry ν)

namespace SuitePlace

def labels (place : SuitePlace ν) : List String :=
  place.enclosing ++ [place.label]

def position (place : SuitePlace ν) : Position ν :=
  .atLabel place.enclosing place.label (.sequence place.entries)

/-- The positions over which the suite extends. -/
def positions (place : SuitePlace ν) : List (Position ν) :=
  place.position :: (Binding.sequence place.entries).positions place.labels

/-- How many positions are in front of the suite. -/
def start (place : SuitePlace ν) : Nat :=
  place.earlier.length

/-- How many positions are in front of what comes behind the suite. -/
def stop (place : SuitePlace ν) : Nat :=
  place.start + place.positions.length

/-- The order of post-order. -/
inductive Before (first second : SuitePlace ν) : Prop where
  /-- The first suite is nested in the second. -/
  | nested (opens : second.start < first.start) (closes : first.stop ≤ second.stop)
  /-- The first suite ends before the second one starts. -/
  | apart (ends : first.stop ≤ second.start)

theorem start_lt_stop (place : SuitePlace ν) : place.start < place.stop :=
  Nat.lt_add_of_pos_right (Nat.succ_pos _)

theorem Before.ne {first second : SuitePlace ν} (before : Before first second) :
    first ≠ second := by
  rintro rfl
  have proper := first.start_lt_stop
  cases before <;> omega

def at? : List (Position ν) × Position ν → Option (SuitePlace ν)
  | (earlier, .atLabel path label (.sequence entries)) => some ⟨earlier, path, label, entries⟩
  | _ => none

theorem at?_eq_some_iff {earlier : List (Position ν)} {position : Position ν}
    {place : SuitePlace ν} :
    at? (earlier, position) = some place ↔ place.earlier = earlier ∧ place.position = position := by
  constructor
  · intro found
    cases position with
    | atEntry path passed entry => cases found
    | atLabel path label binding =>
        cases binding with
        | sequence entries =>
            cases found
            exact ⟨rfl, rfl⟩
        | _ => cases found
  · rintro ⟨rfl, rfl⟩
    rfl

end SuitePlace

mutual

/-- The suites of a spec below the suites of a path, behind positions, in post-order. -/
def Spec.suitesBehind (path : List String) (passed : List (Position ν)) :
    Spec ν → List (SuitePlace ν)
  | .mk rows => rowSuites path passed rows

def rowSuites (path : List String) (passed : List (Position ν)) :
    List (String × Binding ν) → List (SuitePlace ν)
  | [] => []
  | (label, binding) :: rest =>
      binding.suites path passed label ++
        rowSuites path
          (passed ++ .atLabel path label binding :: binding.positions (path ++ [label])) rest

/-- The suites of a label: those in what it is bound to, then its own. -/
def Binding.suites (path : List String) (passed : List (Position ν)) (label : String) :
    Binding ν → List (SuitePlace ν)
  | .callable _ => []
  | .sequence entries =>
      entrySuites (path ++ [label]) (passed ++ [.atLabel path label (.sequence entries)]) [] entries
        ++ [⟨passed, path, label, entries⟩]
  | .mapping spec =>
      spec.suitesBehind (path ++ [label]) (passed ++ [.atLabel path label (.mapping spec)])
  | .other _ => []

def entrySuites (path : List String) (passed : List (Position ν)) (earlier : List (Entry ν)) :
    List (Entry ν) → List (SuitePlace ν)
  | [] => []
  | entry :: rest =>
      entry.suites path (passed ++ [.atEntry path earlier entry]) ++
        entrySuites path (passed ++ .atEntry path earlier entry :: entry.positions path)
          (earlier ++ [entry]) rest

def Entry.suites (path : List String) (passed : List (Position ν)) : Entry ν → List (SuitePlace ν)
  | .reference _ => []
  | .hook _ => []
  | .suite spec => spec.suitesBehind path passed
  | .other _ => []

end

def Spec.suites (spec : Spec ν) : List (SuitePlace ν) :=
  spec.suitesBehind [] []

/-! ## One suite for each sequence -/

def suitesAt (passed positions : List (Position ν)) : List (SuitePlace ν) :=
  (withEarlier passed positions).filterMap SuitePlace.at?

theorem suitesAt_append (passed first second : List (Position ν)) :
    suitesAt passed (first ++ second) =
      suitesAt passed first ++ suitesAt (passed ++ first) second := by
  rw [suitesAt, withEarlier_append, List.filterMap_append]
  rfl

theorem suitesAt_cons (passed : List (Position ν)) (position : Position ν)
    (rest : List (Position ν)) :
    suitesAt passed (position :: rest) =
      (SuitePlace.at? (passed, position)).toList ++ suitesAt (passed ++ [position]) rest := by
  rw [suitesAt, withEarlier, List.filterMap_cons]
  cases SuitePlace.at? (passed, position) <;> rfl

theorem mem_suitesAt_iff {passed positions : List (Position ν)} {place : SuitePlace ν} :
    place ∈ suitesAt passed positions ↔
      (place.earlier, place.position) ∈ withEarlier passed positions := by
  rw [suitesAt, List.mem_filterMap]
  constructor
  · rintro ⟨⟨earlier, position⟩, member, found⟩
    obtain ⟨rfl, rfl⟩ := SuitePlace.at?_eq_some_iff.mp found
    exact member
  · intro member
    exact ⟨_, member, SuitePlace.at?_eq_some_iff.mpr ⟨rfl, rfl⟩⟩

mutual

theorem Spec.suitesBehind_perm (path : List String) (passed : List (Position ν)) :
    ∀ spec : Spec ν,
      (spec.suitesBehind path passed).Perm (suitesAt passed (spec.positions path))
  | .mk rows => by
      rw [Spec.suitesBehind, Spec.positions]
      exact rowSuites_perm path passed rows

theorem rowSuites_perm (path : List String) (passed : List (Position ν)) :
    ∀ rows : List (String × Binding ν),
      (rowSuites path passed rows).Perm (suitesAt passed (rowPositions path rows))
  | [] => by
      rw [rowSuites, rowPositions]
      exact .nil
  | (label, binding) :: rest => by
      rw [rowSuites, rowPositions, ← List.cons_append, suitesAt_append]
      exact (Binding.suites_perm path passed label binding).append (rowSuites_perm path _ rest)

theorem Binding.suites_perm (path : List String) (passed : List (Position ν)) (label : String) :
    ∀ binding : Binding ν,
      (binding.suites path passed label).Perm
        (suitesAt passed (.atLabel path label binding :: binding.positions (path ++ [label])))
  | .callable _ => by
      rw [Binding.suites, Binding.positions]
      exact .nil
  | .sequence entries => by
      rw [Binding.suites, Binding.positions, suitesAt_cons]
      exact List.perm_append_comm.trans
        ((entrySuites_perm (path ++ [label]) _ [] entries).append_left _)
  | .mapping spec => by
      rw [Binding.suites, Binding.positions, suitesAt_cons]
      exact Spec.suitesBehind_perm (path ++ [label]) _ spec
  | .other _ => by
      rw [Binding.suites, Binding.positions]
      exact .nil

theorem entrySuites_perm (path : List String) (passed : List (Position ν))
    (earlier : List (Entry ν)) :
    ∀ entries : List (Entry ν),
      (entrySuites path passed earlier entries).Perm
        (suitesAt passed (entryPositions path earlier entries))
  | [] => by
      rw [entrySuites, entryPositions]
      exact .nil
  | entry :: rest => by
      rw [entrySuites, entryPositions, ← List.cons_append, suitesAt_append, suitesAt_cons]
      exact (Entry.suites_perm path _ entry).append (entrySuites_perm path _ _ rest)

theorem Entry.suites_perm (path : List String) (passed : List (Position ν)) :
    ∀ entry : Entry ν, (entry.suites path passed).Perm (suitesAt passed (entry.positions path))
  | .reference _ => by
      rw [Entry.suites, Entry.positions]
      exact .nil
  | .hook _ => by
      rw [Entry.suites, Entry.positions]
      exact .nil
  | .suite spec => by
      rw [Entry.suites, Entry.positions]
      exact Spec.suitesBehind_perm path passed spec
  | .other _ => by
      rw [Entry.suites, Entry.positions]
      exact .nil

end

theorem subset_earlier_of_perm {passed positions : List (Position ν)} {places : List (SuitePlace ν)}
    (perm : places.Perm (suitesAt passed positions)) {place : SuitePlace ν}
    (isIn : place ∈ places) :
    passed ⊆ place.earlier := by
  obtain ⟨front, _, earlier_eq, _⟩ := mem_withEarlier_iff.mp
    (mem_suitesAt_iff.mp (perm.mem_iff.mp isIn))
  rw [earlier_eq]
  exact List.subset_append_left passed front

/-! ## The order -/

/-- Suites in post-order over a stretch of positions. -/
structure SuitesSpan (start stop : Nat) (places : List (SuitePlace ν)) : Prop where
  ordered : places.Pairwise SuitePlace.Before
  start_le : ∀ place ∈ places, start ≤ place.start
  stop_le : ∀ place ∈ places, place.stop ≤ stop

namespace SuitesSpan

variable {start middle stop : Nat} {first second : List (SuitePlace ν)}

theorem nil : SuitesSpan (ν := ν) start stop [] :=
  ⟨.nil, by simp, by simp⟩

theorem append (spans : SuitesSpan start middle first) (further : SuitesSpan middle stop second)
    (front : start ≤ middle) (back : middle ≤ stop) : SuitesSpan start stop (first ++ second) := by
  constructor
  · rw [List.pairwise_append]
    refine ⟨spans.ordered, further.ordered, ?_⟩
    intro place isFirst other isSecond
    have ends := spans.stop_le place isFirst
    have starts := further.start_le other isSecond
    apply SuitePlace.Before.apart
    omega
  · intro place isIn
    rcases List.mem_append.mp isIn with isFirst | isSecond
    · exact spans.start_le place isFirst
    · have starts := further.start_le place isSecond
      omega
  · intro place isIn
    rcases List.mem_append.mp isIn with isFirst | isSecond
    · have ends := spans.stop_le place isFirst
      omega
    · exact further.stop_le place isSecond

/-- A suite closes behind those in it. -/
theorem concat {place : SuitePlace ν} (spans : SuitesSpan (place.start + 1) place.stop first) :
    SuitesSpan place.start place.stop (first ++ [place]) := by
  have proper := place.start_lt_stop
  constructor
  · rw [List.pairwise_append]
    refine ⟨spans.ordered, List.pairwise_singleton _ _, ?_⟩
    intro inner isInner other isPlace
    obtain rfl := List.mem_singleton.mp isPlace
    exact .nested (spans.start_le inner isInner) (spans.stop_le inner isInner)
  · intro other isIn
    rcases List.mem_append.mp isIn with isInner | isPlace
    · have starts := spans.start_le other isInner
      omega
    · obtain rfl := List.mem_singleton.mp isPlace
      omega
  · intro other isIn
    rcases List.mem_append.mp isIn with isInner | isPlace
    · exact spans.stop_le other isInner
    · obtain rfl := List.mem_singleton.mp isPlace
      omega

theorem widen {lower : Nat} (spans : SuitesSpan start stop first) (less : lower ≤ start) :
    SuitesSpan lower stop first := by
  refine ⟨spans.ordered, ?_, spans.stop_le⟩
  intro place isIn
  have starts := spans.start_le place isIn
  omega

end SuitesSpan

mutual

theorem Spec.suitesBehind_span (path : List String) (passed : List (Position ν)) :
    ∀ spec : Spec ν,
      SuitesSpan passed.length (passed ++ spec.positions path).length
        (spec.suitesBehind path passed)
  | .mk rows => by
      rw [Spec.suitesBehind, Spec.positions]
      exact rowSuites_span path passed rows

theorem rowSuites_span (path : List String) (passed : List (Position ν)) :
    ∀ rows : List (String × Binding ν),
      SuitesSpan passed.length (passed ++ rowPositions path rows).length
        (rowSuites path passed rows)
  | [] => by
      rw [rowSuites]
      exact .nil
  | (label, binding) :: rest => by
      have others := rowSuites_span path
        (passed ++ .atLabel path label binding :: binding.positions (path ++ [label])) rest
      rw [List.append_assoc] at others
      rw [rowSuites, rowPositions]
      refine (Binding.suites_span path passed label binding).append others ?_ ?_
      · simp
      · simp

theorem Binding.suites_span (path : List String) (passed : List (Position ν)) (label : String) :
    ∀ binding : Binding ν,
      SuitesSpan passed.length
        (passed ++ .atLabel path label binding :: binding.positions (path ++ [label])).length
        (binding.suites path passed label)
  | .callable _ => by
      rw [Binding.suites]
      exact .nil
  | .sequence entries => by
      have inner := entrySuites_span (path ++ [label])
        (passed ++ [.atLabel path label (.sequence entries)]) [] entries
      have start_eq : (passed ++ [Position.atLabel path label (.sequence entries)]).length =
          (SuitePlace.mk passed path label entries).start + 1 :=
        List.length_append
      have stop_eq : (passed ++ [Position.atLabel path label (.sequence entries)] ++
            entryPositions (path ++ [label]) [] entries).length =
          (SuitePlace.mk passed path label entries).stop := by
        rw [List.append_assoc, List.length_append, SuitePlace.stop, SuitePlace.positions,
          Binding.positions]
        rfl
      rw [start_eq, stop_eq] at inner
      have whole := inner.concat
      rwa [← stop_eq, List.append_assoc] at whole
  | .mapping spec => by
      have inner := Spec.suitesBehind_span (path ++ [label])
        (passed ++ [.atLabel path label (.mapping spec)]) spec
      rw [List.append_assoc] at inner
      rw [Binding.suites, Binding.positions]
      refine inner.widen ?_
      simp
  | .other _ => by
      rw [Binding.suites]
      exact .nil

theorem entrySuites_span (path : List String) (passed : List (Position ν))
    (earlier : List (Entry ν)) :
    ∀ entries : List (Entry ν),
      SuitesSpan passed.length (passed ++ entryPositions path earlier entries).length
        (entrySuites path passed earlier entries)
  | [] => by
      rw [entrySuites]
      exact .nil
  | entry :: rest => by
      have first := Entry.suites_span path (passed ++ [.atEntry path earlier entry]) entry
      have others := entrySuites_span path
        (passed ++ .atEntry path earlier entry :: entry.positions path) (earlier ++ [entry]) rest
      rw [List.append_assoc] at first others
      rw [entrySuites, entryPositions]
      refine (first.widen ?_).append others ?_ ?_
      · simp
      · simp
      · simp

theorem Entry.suites_span (path : List String) (passed : List (Position ν)) :
    ∀ entry : Entry ν,
      SuitesSpan passed.length (passed ++ entry.positions path).length (entry.suites path passed)
  | .reference _ => by
      rw [Entry.suites]
      exact .nil
  | .hook _ => by
      rw [Entry.suites]
      exact .nil
  | .suite spec => by
      rw [Entry.suites, Entry.positions]
      exact Spec.suitesBehind_span path passed spec
  | .other _ => by
      rw [Entry.suites]
      exact .nil

end

end SuiteOutline
