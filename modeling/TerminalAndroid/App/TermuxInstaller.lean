import Mathlib.Data.List.Infix
import TerminalAndroid.Exec.Machine

namespace TermuxInstaller

abbrev Path := List String

inductive Node
  | directory
  | file (contents : List UInt8)
  | symlink (target : String)
  deriving DecidableEq

abbrev Tree := List (Path × Node)

def Tree.put (t : Tree) (path : Path) (node : Option Node) : Tree :=
  (node.toList.map fun node => (path, node)) ++ t.filter (·.1 ≠ path)

inductive Entry
  | directory (path : Path)
  | file (path : Path) (chunks : List (List UInt8))
  | symlinksTxt (lines : List (String × Path))

inductive Operation
  | ensureDirectoryExists (path : Path)
  | create (path : Path)
  | write (path : Path) (bytes : List UInt8)
  | symlink (target : String) (path : Path)

def Operation.apply (t : Tree) : Operation → Tree
  | .ensureDirectoryExists path => (path.inits.drop 1).foldl (fun t dir => if (t.lookup dir).isSome then t else t.put dir (some .directory)) t
  | .create path => t.put path (some (.file []))
  | .write path bytes =>
    match t.lookup path with
    | some (.file contents) => t.put path (some (.file (contents ++ bytes)))
    | _ => t
  | .symlink target path => t.put path (some (.symlink target))

def Entry.operations : Entry → List Operation
  | .directory path => [.ensureDirectoryExists path]
  | .file path chunks => .ensureDirectoryExists path.dropLast :: .create path :: chunks.map (.write path)
  | .symlinksTxt lines => lines.map fun line => .ensureDirectoryExists line.2.dropLast

def Entry.symlinks : Entry → List (String × Path)
  | .symlinksTxt lines => lines
  | _ => []

def operations (archive : List Entry) : List Operation :=
  archive.flatMap (·.operations) ++ (archive.flatMap (·.symlinks)).map fun line => .symlink line.1 line.2

def extracted (archive : List Entry) : Tree := (operations archive).foldl Operation.apply []

def ignoredSubFiles : List Path := [["tmp"], ["etc", "termux", "termux.env.tmp"], ["etc", "termux", "termux.env"]]

def environmentFiles : List Path :=
  [["etc"], ["etc", "termux"], ["etc", "termux", "termux.env.tmp"], ["etc", "termux", "termux.env"]]

def isTermuxPrefixDirectoryEmpty (t : Tree) : Bool :=
  t.all fun file => ignoredSubFiles.any fun ignored =>
    file.1 = ignored || (file.1.isPrefixOf ignored && (t.lookup ignored).isSome)

inductive Phase
  | stopped
  | deletingStaging
  | deletingPrefix
  | makingStaging
  | makingPrefix
  | extracting (rest : List Operation)
  | environment
  | whenDone

structure State where
  staging : Option Tree
  prefixDir : Option Tree
  phase : Phase := .stopped

inductive Event
  | setup
  | remove (path : Path)
  | next
  | writeEnvironment (path : Path) (node : Option Node)
  | kill

def removeLeaf (t : Tree) (path : Path) : Option Tree :=
  if (t.lookup path).isSome ∧ ∀ file ∈ t, path <+: file.1 → file.1 = path then some (t.put path none) else none

/-- `setupBootstrapIfNeeded` and the installer thread, which may be killed between any two operations. -/
def step (archive : List Entry) (s : State) : Event → Option State
  | .kill => some { s with phase := .stopped }
  | .setup =>
    match s.phase, s.prefixDir with
    | .stopped, some t => some { s with phase := if isTermuxPrefixDirectoryEmpty t then .deletingStaging else .whenDone }
    | .stopped, none => some { s with phase := .deletingStaging }
    | _, _ => none
  | .remove path =>
    match s.phase with
    | .deletingStaging => (s.staging.bind (removeLeaf · path)).map fun t => { s with staging := some t }
    | .deletingPrefix => (s.prefixDir.bind (removeLeaf · path)).map fun t => { s with prefixDir := some t }
    | _ => none
  | .next =>
    match s.phase with
    | .deletingStaging => if s.staging.getD [] = [] then some { s with staging := none, phase := .deletingPrefix } else none
    | .deletingPrefix => if s.prefixDir.getD [] = [] then some { s with prefixDir := none, phase := .makingStaging } else none
    | .makingStaging => some { s with staging := some [], phase := .makingPrefix }
    | .makingPrefix => some { s with prefixDir := some [], phase := .extracting (operations archive) }
    | .extracting (operation :: rest) =>
      some { s with staging := s.staging.map (Operation.apply · operation), phase := .extracting rest }
    | .extracting [] =>
      -- without symlinks an exception is thrown, else the staging directory is renamed
      if archive.flatMap (·.symlinks) = [] then some { s with phase := .stopped }
      else some { s with staging := none, prefixDir := s.staging, phase := .environment }
    | _ => none
  | .writeEnvironment path node =>
    match s.phase with
    | .environment =>
      if path ∈ environmentFiles then some { s with prefixDir := s.prefixDir.map (·.put path node) } else none
    | _ => none

/-- All of the archive and nothing else, but for the environment files. -/
def Complete (archive : List Entry) (t : Tree) : Prop := ∀ path ∉ environmentFiles, t.lookup path = (extracted archive).lookup path

def Bare (prefixDir : Option Tree) : Prop := ∀ t, prefixDir = some t → ∀ file ∈ t, file.1 = ["tmp"]

variable {archive : List Entry} {s s' : State} {event : Event} {t : Tree} {path q : Path}

def Sound (archive : List Entry) (s : State) : Prop :=
  match s.phase with
  | .stopped => Bare s.prefixDir ∨ ∃ t, s.prefixDir = some t ∧ Complete archive t
  | .deletingStaging | .deletingPrefix => Bare s.prefixDir
  | .makingStaging => s.prefixDir = none
  | .makingPrefix => s.prefixDir = none ∧ s.staging = some []
  | .extracting rest => s.prefixDir = some [] ∧
      ∃ done, operations archive = done ++ rest ∧ s.staging = some (done.foldl Operation.apply [])
  | .environment | .whenDone => ∃ t, s.prefixDir = some t ∧ Complete archive t

theorem Bare.removeLeaf {t' : Tree} (bare : Bare (some t)) (removed : removeLeaf t path = some t') : Bare (some t') := by
  unfold TermuxInstaller.removeLeaf at removed
  split at removed <;> cases removed
  intro _ same file mem
  cases same
  exact bare t rfl file (List.mem_filter.mp mem).1

theorem next_sound (sound : Sound archive s) (stepped : step archive s .next = some s') : Sound archive s' := by
  simp only [step] at stepped
  split at stepped
  · next phase =>
    split at stepped <;> cases stepped
    simpa [Sound, phase] using sound
  · split at stepped <;> cases stepped
    simp [Sound]
  · next phase =>
    cases stepped
    simpa [Sound, phase] using sound
  · next phase =>
    cases stepped
    simp only [Sound, phase] at sound
    exact ⟨rfl, [], rfl, sound.2⟩
  · next operation rest phase =>
    cases stepped
    simp only [Sound, phase] at sound
    rcases sound with ⟨made, done, all, staging⟩
    refine ⟨made, done ++ [operation], by simp [all], ?_⟩
    rw [staging, List.foldl_append]
    rfl
  · next phase =>
    simp only [Sound, phase] at sound
    rcases sound with ⟨made, done, all, staging⟩
    split at stepped <;> cases stepped
    · exact .inl fun t found file mem => by simp_all
    · rw [List.append_nil] at all
      exact ⟨_, staging, fun _ _ => by rw [extracted, all]⟩
  · cases stepped

end TermuxInstaller
