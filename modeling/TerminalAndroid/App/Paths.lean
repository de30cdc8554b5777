import Mathlib.Data.List.DropRight
import Mathlib.Data.List.Infix

namespace FileUtils

abbrev slash : Nat := 47

abbrev dot : Nat := 46

abbrev Segment := { text : List Nat // slash ∉ text }

/-- The absolute path with the given segments; without any it is what precedes the segments of a path below the root. -/
def spell (segments : List Segment) : List Nat := segments.flatMap fun segment => slash :: segment.1

@[simp]
theorem spell_cons (segment : Segment) (segments : List Segment) :
    spell (segment :: segments) = slash :: segment.1 ++ spell segments := rfl

theorem spell_append (segments more : List Segment) : spell (segments ++ more) = spell segments ++ spell more :=
  List.flatMap_append

theorem spell_cases (segments : List Segment) : spell segments = [] ∨ ∃ rest, spell segments = slash :: rest := by
  cases segments with
  | nil => exact Or.inl rfl
  | cons segment segments => exact Or.inr ⟨_, rfl⟩

theorem segment_eq {a b rest tail : List Nat} (first : slash ∉ a) (second : slash ∉ b)
    (ends : tail = [] ∨ ∃ more, tail = slash :: more) (starts : a ++ slash :: rest <+: b ++ tail) :
    a = b ∧ slash :: rest <+: tail := by
  induction a generalizing b with
  | nil =>
    cases b with
    | nil => exact ⟨rfl, starts⟩
    | cons y b => exact absurd (List.mem_cons.mpr (Or.inl (List.cons_prefix_cons.mp starts).1)) second
  | cons x a ih =>
    rw [List.mem_cons, not_or] at first
    cases b with
    | nil =>
      rcases ends with rfl | ⟨more, rfl⟩
      · cases List.prefix_nil.mp starts
      · exact absurd (List.cons_prefix_cons.mp starts).1.symm first.1
    | cons y b =>
      rw [List.mem_cons, not_or] at second
      obtain ⟨rfl, later⟩ := List.cons_prefix_cons.mp starts
      obtain ⟨rfl, rest⟩ := ih first.2 second.2 later
      exact ⟨rfl, rest⟩

theorem spell_slash_starts {a b : List Segment} : spell a ++ [slash] <+: spell b ↔ a <+: b ∧ a ≠ b := by
  induction a generalizing b with
  | nil =>
    cases b with
    | nil => simp [spell]
    | cons segment b => simp [spell]
  | cons x a ih =>
    cases b with
    | nil => simp [spell]
    | cons y b =>
      have next : (spell a ++ [slash] = slash :: (spell a ++ [slash]).tail) := by
        rcases spell_cases a with empty | ⟨rest, first⟩
        · rw [empty]
          rfl
        · rw [first]
          rfl
      rw [spell_cons, spell_cons, List.cons_append, List.cons_append, List.cons_append, List.append_assoc,
        List.cons_prefix_cons, List.cons_prefix_cons]
      constructor
      · rintro ⟨-, starts⟩
        rw [next] at starts
        obtain ⟨same, starts⟩ := segment_eq x.2 y.2 (spell_cases b) starts
        rw [← next, ih] at starts
        exact ⟨⟨Subtype.ext same, starts.1⟩, fun equal => starts.2 (List.cons.inj equal).2⟩
      · rintro ⟨⟨rfl, starts⟩, other⟩
        apply And.intro rfl
        rw [List.prefix_append_right_inj, ih]
        exact ⟨starts, fun equal => other (equal ▸ rfl)⟩

theorem spell_injective {a b : List Segment} (same : spell a = spell b) : a = b := by
  have begins {a b : List Segment} (same : spell a = spell b) : a <+: b := by
    have starts : spell a ++ [slash] <+: spell (b ++ [⟨[], List.not_mem_nil⟩]) := by
      rw [spell_append, same]
      exact List.prefix_rfl
    obtain ⟨below, other⟩ := spell_slash_starts.mp starts
    rcases List.prefix_concat_iff.mp below with equal | inside
    · exact absurd equal other
    · exact inside
  exact (begins same).eq_of_length_le (begins same.symm).length_le

/-- The files of a directory, as `listFiles` lists them: links are files like any others. -/
inductive Forest
  | nil
  | file (name : Segment) (rest : Forest)
  | directory (name : Segment) (children rest : Forest)

/-- The sub file is not in the list and no path in it that exists leads through the sub file. -/
def nonIgnored (fileExists : List Nat → Bool) (ignoredSubFilePaths : List (List Nat)) (subFilePath : List Nat) : Bool :=
  !ignoredSubFilePaths.contains subFilePath &&
    !ignoredSubFilePaths.any fun ignored => (subFilePath ++ [slash]).isPrefixOf ignored && fileExists ignored

def nonIgnoredSubFileExists (fileExists : List Nat → Bool) (ignoredSubFilePaths : List (List Nat)) (parent : List Nat) :
    Forest → Bool
  | .nil => false
  | .file name rest =>
    let subFilePath := parent ++ slash :: name.1
    if nonIgnored fileExists ignoredSubFilePaths subFilePath then true
    else nonIgnoredSubFileExists fileExists ignoredSubFilePaths parent rest
  | .directory name children rest =>
    let subFilePath := parent ++ slash :: name.1
    if nonIgnored fileExists ignoredSubFilePaths subFilePath then true
    else if nonIgnoredSubFileExists fileExists ignoredSubFilePaths subFilePath children then true
    else nonIgnoredSubFileExists fileExists ignoredSubFilePaths parent rest

def Forest.paths (parent : List Segment) : Forest → List (List Segment)
  | .nil => []
  | .file name rest => (parent ++ [name]) :: rest.paths parent
  | .directory name children rest =>
    (parent ++ [name]) :: (children.paths (parent ++ [name]) ++ rest.paths parent)

section SubFiles

variable {fileExists : List Nat → Bool} {ignored : List (List Segment)}

theorem nonIgnored_iff (node : List Segment) : nonIgnored fileExists (ignored.map spell) (spell node) = true ↔
    node ∉ ignored ∧ ¬ ∃ path ∈ ignored, (node <+: path ∧ node ≠ path) ∧ fileExists (spell path) = true := by
  have listed : spell node ∈ ignored.map spell ↔ node ∈ ignored :=
    List.mem_map_of_injective fun _ _ => spell_injective
  simp [nonIgnored, listed, spell_slash_starts]

/-- The search finds a file just if something below the directory is neither listed nor an ancestor of a listed path that
    exists. -/
theorem nonIgnoredSubFileExists_iff (parent : List Segment) (files : Forest) (ignored : List (List Segment))
    (fileExists : List Nat → Bool) :
    nonIgnoredSubFileExists fileExists (ignored.map spell) (spell parent) files = true ↔
      ∃ node ∈ files.paths parent, node ∉ ignored ∧
        ¬ ∃ path ∈ ignored, (node <+: path ∧ node ≠ path) ∧ fileExists (spell path) = true := by
  have child (parent : List Segment) (name : Segment) : spell parent ++ slash :: name.1 = spell (parent ++ [name]) := by
    simp [spell]
  simp only [← nonIgnored_iff]
  induction files generalizing parent with
  | nil => simp [nonIgnoredSubFileExists, Forest.paths]
  | file name rest ih => simp [nonIgnoredSubFileExists, Forest.paths, child, ih]
  | directory name children rest ih ih' =>
    simp [nonIgnoredSubFileExists, Forest.paths, child, ih, ih', or_and_right, exists_or]

end SubFiles

/-- The names in an absolute path: neither empty segments nor `.` count. -/
def names (segments : List Segment) : List Segment := segments.filter fun segment => segment.1 ≠ [] ∧ segment.1 ≠ [dot]

def canonicalPath (names : List Segment) : List Nat := if names = [] then [slash] else spell names

/-- No name ends with a dot, and the path does not end with `.`. -/
structure Plain (segments : List Segment) : Prop where
  nonempty : segments ≠ []
  undotted : ∀ segment ∈ segments, segment.1.getLast? = some dot → segment.1 = [dot]
  ends : ∀ segment ∈ segments.getLast?, segment.1 ≠ [dot]

variable {text : List Nat} {segments : List Segment}

section InDirPaths

variable (getCanonicalPath : List Nat → Option (List Nat)) (path : List Nat) (target : List Segment)
  (dirs : List (List Segment)) (ensureUnder : Bool) (named : path ≠ [])
  (canonical : getCanonicalPath path = some (canonicalPath target)) (listed : dirs ≠ []) (plain : ∀ dir ∈ dirs, Plain dir)

include named canonical listed plain

end InDirPaths

end FileUtils
