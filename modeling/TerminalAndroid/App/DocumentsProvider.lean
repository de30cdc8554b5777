import Mathlib.Data.Nat.Digits.Lemmas

namespace TermuxDocumentsProvider

abbrev Path := List Char

def push (dirs : List Path) (component : Path) : List Path :=
  if component = [] ∨ component = ['.'] then dirs
  else if component = ['.', '.'] then dirs.dropLast
  else dirs ++ [component]

def components (current : Path) : Path → List Path
  | [] => [current]
  | c :: path => if c = '/' then current :: components [] path else components (current ++ [c]) path

def resolve (path : Path) : List Path := (components [] path).foldl push []

def Inside (root file : Path) : Prop := resolve root <+: resolve file

instance Inside.decidable {root file : Path} : Decidable (Inside root file) := inferInstanceAs (Decidable (_ <+: _))

def isChildDocument (parentDocumentId documentId : Path) : Bool := parentDocumentId.isPrefixOf documentId

def getFileForDocId (present : Path → Bool) (docId : Path) : Option Path := if present docId then some docId else none

def conflictSuffix (noConflictId : Nat) : Path :=
  ' ' :: '(' :: ((Nat.digits 10 noConflictId).reverse.map fun d => Char.ofNat (48 + d)) ++ [')']

def createDocument (present : Path → Bool) (parentDocumentId displayName : Path) : Nat → Nat → Path → Option Path
  | 0, _, _ => none
  | fuel + 1, noConflictId, newFile =>
    if present newFile then
      createDocument present parentDocumentId displayName fuel (noConflictId + 1)
        (parentDocumentId ++ '/' :: (displayName ++ conflictSuffix noConflictId))
    else some newFile

/-- No `..` leads above the `depth` directories there are. -/
def Stays : Nat → List Path → Prop
  | _, [] => True
  | depth, component :: rest =>
    if component = [] ∨ component = ['.'] then Stays depth rest
    else if component = ['.', '.'] then 0 < depth ∧ Stays (depth - 1) rest
    else Stays (depth + 1) rest

/-- What follows the root in an id begins a new component and stays below the root. -/
def Below (root rest : Path) : Prop :=
  rest = [] ∨ (∃ path, rest = '/' :: path ∧ Stays 0 (components [] path)) ∨
    ∃ base, root = base ++ ['/'] ∧ Stays 0 (components [] rest)

variable {root documentId path rest name : Path} {base extra : List Path} {current : Path}

theorem components_append : components current (path ++ '/' :: name) = components current path ++ components [] name := by
  induction path generalizing current with
  | nil => simp [components]
  | cons c path ih =>
    rw [List.cons_append, components, components]
    split
    · rw [ih, List.cons_append]
    · exact ih

theorem resolve_append : resolve (path ++ '/' :: name) = (components [] name).foldl push (resolve path) := by
  rw [resolve, components_append, List.foldl_append, resolve]

theorem Stays.foldl {list : List Path} (stays : Stays extra.length list) : base <+: list.foldl push (base ++ extra) := by
  induction list generalizing extra with
  | nil => exact List.prefix_append ..
  | cons component list ih =>
    rw [Stays] at stays
    rw [List.foldl_cons, push]
    split at stays
    · next skip =>
      rw [if_pos skip]
      exact ih stays
    next other =>
    rw [if_neg other]
    split at stays
    · next up =>
      rw [if_pos up, List.dropLast_append_of_ne_nil (List.ne_nil_of_length_pos stays.1)]
      exact ih (by simpa using stays.2)
    · next down =>
      rw [if_neg down, List.append_assoc]
      exact ih (by simpa using stays)

theorem Stays.inside (stays : Stays 0 (components [] rest)) : Inside path (path ++ '/' :: rest) := by
  rw [Inside, resolve_append]
  have kept := @Stays.foldl (resolve path) [] _ stays
  rwa [List.append_nil] at kept

theorem Below.inside (below : Below root rest) : Inside root (root ++ rest) := by
  rcases below with rfl | ⟨path, rfl, stays⟩ | ⟨base, rfl, stays⟩
  · rw [List.append_nil]
    exact List.prefix_rfl
  · exact stays.inside
  · have same : resolve (base ++ ['/']) = resolve base := resolve_append
    rw [List.append_assoc, Inside, same]
    exact stays.inside

theorem components_of_no_slash (plain : '/' ∉ name) : components current name = [current ++ name] := by
  induction name generalizing current with
  | nil => simp [components]
  | cons c name ih =>
    rw [List.mem_cons, not_or] at plain
    rw [components, if_neg (Ne.symm plain.1), ih plain.2, List.append_assoc]
    rfl

theorem Inside.child (inside : Inside root path) (plain : '/' ∉ name) (up : name ≠ ['.', '.']) :
    Inside root (path ++ '/' :: name) := by
  rw [Inside, resolve_append, components_of_no_slash plain, List.foldl_cons, List.foldl_nil, List.nil_append, push, if_neg up]
  split
  · exact inside
  · exact inside.trans (List.prefix_append ..)

theorem conflictSuffix_no_slash (n : Nat) : '/' ∉ conflictSuffix n := by
  have digits : ∀ d < 10, '/' ≠ Char.ofNat (48 + d) := by decide
  simp only [conflictSuffix, List.cons_append, List.mem_cons, List.mem_append, List.mem_map, List.mem_reverse, not_or]
  refine ⟨by decide, by decide, ?_, by decide, by simp⟩
  intro ⟨d, mem, same⟩
  exact digits d (Nat.digits_lt_base (by decide) mem) same.symm

theorem createDocument_inside {present : Path → Bool} {fuel n : Nat} {newFile file : Path} (plain : '/' ∉ name)
    (inside : Inside root path) (new : Inside root newFile)
    (created : createDocument present path name fuel n newFile = some file) : Inside root file := by
  induction fuel generalizing n newFile with
  | zero => cases created
  | succ fuel ih =>
    rw [createDocument] at created
    split at created
    · apply ih (inside.child _ _) created
      · rw [List.mem_append, not_or]
        exact ⟨plain, conflictSuffix_no_slash n⟩
      · intro same
        have mem : '(' ∈ name ++ conflictSuffix n := by simp [conflictSuffix]
        rw [same] at mem
        exact absurd mem (by decide)
    · exact Option.some.inj created ▸ new

/-- What is opened, deleted or created lies inside of the root if the id stays below it and the name is a single one. -/
theorem documents_inside (present : Path → Bool) (accepted : isChildDocument root documentId = true)
    (below : ∀ rest, documentId = root ++ rest → Below root rest) (plain : '/' ∉ name) (up : name ≠ ['.', '.']) :
    (∀ file, getFileForDocId present documentId = some file → Inside root file) ∧
      ∀ fuel file, createDocument present documentId name fuel 2 (documentId ++ '/' :: name) = some file → Inside root file := by
  rcases List.isPrefixOf_iff_prefix.mp accepted with ⟨rest, rfl⟩
  have inside := (below rest rfl).inside
  constructor
  · intro file found
    rw [getFileForDocId] at found
    split at found <;> cases found
    exact inside
  · exact fun fuel file => createDocument_inside plain inside (inside.child plain up)

theorem documents_inside_tree : Inside "/h/a".toList "/h/a/b/../c/new".toList := by
  have below : ∀ rest, "/h/a/b/../c".toList = "/h/a".toList ++ rest → Below "/h/a".toList rest := by
    intro rest same
    rw [show "/h/a/b/../c".toList = "/h/a".toList ++ "/b/../c".toList from rfl, List.append_cancel_left_eq] at same
    exact .inr (.inl ⟨"b/../c".toList, same ▸ rfl, by simp [components, Stays]⟩)
  exact (documents_inside (fun _ => false) (by decide) below (by decide : '/' ∉ "new".toList) (by decide)).2 1 _ rfl

/-- A sibling whose name begins with that of the root is accepted. -/
theorem sibling_accepted : isChildDocument "/h/a".toList "/h/ab/x".toList = true ∧ ¬ Inside "/h/a".toList "/h/ab/x".toList := by
  decide

end TermuxDocumentsProvider
