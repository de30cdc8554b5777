import TerminalAndroid.App.DocumentsProvider

namespace TermuxDocumentsProvider

/-- A finite file system: directory entries, links included, lead to one of its `n` files, and a file has a canonical path
unless `getCanonicalPath` throws. -/
structure FileSystem (n : Nat) where
  canonicalPath : Fin n → Option Path
  isDirectory : Fin n → Bool
  listFiles : Fin n → List (Path × Fin n)

variable {n : Nat} (fs : FileSystem n) (home : Path) (found : Path → Bool)

def FileSystem.isInsideHome (file : Fin n) : Bool :=
  match fs.canonicalPath file with
  | none => true
  | some path => home.isPrefixOf path

def FileSystem.next (file : Fin n) : List (Path × Fin n) :=
  if fs.isInsideHome home file && fs.isDirectory file then fs.listFiles file else []

def search : Nat → List (Path × Fin n) → List (Fin n) → Option (List (Fin n))
  | fuel, pending, result =>
    match pending with
    | [] => some result
    | (name, file) :: pending =>
      if 50 ≤ result.length then some result
      else match fuel with
        | 0 => none
        | fuel + 1 =>
          search fuel (pending ++ fs.next home file)
            (if fs.isInsideHome home file && !fs.isDirectory file && found name then result ++ [file] else result)

/-- No directory of the home leads to the root or to a file that another entry leads to. -/
def Treelike (root : Fin n) : Prop :=
  (root :: (List.finRange n).flatMap fun file => (fs.next home file).map (·.2)).Nodup

variable {fs home found} {root file : Fin n} {fuel : Nat} {pending : List (Path × Fin n)} {visited result : List (Fin n)}

structure Searching (fs : FileSystem n) (home : Path) (root : Fin n) (visited waiting : List (Fin n)) : Prop where
  nodup : (visited ++ waiting).Nodup
  reached : ∀ file ∈ visited ++ waiting, file = root ∨ ∃ dir ∈ visited, file ∈ (fs.next home dir).map (·.2)

theorem Searching.step {waiting : List (Fin n)} (tree : Treelike fs home root)
    (searching : Searching fs home root visited (file :: waiting)) :
    Searching fs home root (visited ++ [file]) (waiting ++ (fs.next home file).map (·.2)) := by
  rcases List.nodup_cons.mp tree with ⟨other, entries⟩
  rcases List.nodup_flatMap.mp entries with ⟨each, apart⟩
  have fresh : file ∉ visited := fun mem => List.disjoint_of_nodup_append searching.nodup mem List.mem_cons_self
  have whole : visited ++ file :: waiting = visited ++ [file] ++ waiting := List.append_cons ..
  have nodup := whole ▸ searching.nodup
  have reached := whole ▸ searching.reached
  constructor
  · rw [← List.append_assoc]
    apply nodup.append (each file (List.mem_finRange file))
    intro x old new
    rcases reached x old with rfl | ⟨dir, seen, mem⟩
    · exact other (List.mem_flatMap.mpr ⟨file, List.mem_finRange file, new⟩)
    · have differ : dir ≠ file := fun same => fresh (same ▸ seen)
      have symmetric : Std.Symm (Function.onFun List.Disjoint fun file => (fs.next home file).map (·.2)) :=
        ⟨fun _ _ disjoint => disjoint.symm⟩
      exact apart.forall (List.mem_finRange dir) (List.mem_finRange file) differ mem new
  · intro x mem
    rw [← List.append_assoc] at mem
    rcases List.mem_append.mp mem with old | new
    · apply (reached x old).imp_right
      intro ⟨dir, seen, mem⟩
      exact ⟨dir, List.mem_append_left _ seen, mem⟩
    · exact .inr ⟨file, List.mem_append_right _ List.mem_cons_self, new⟩

def looping : FileSystem 1 where
  canonicalPath _ := some "/h".toList
  isDirectory _ := true
  listFiles _ := [("link".toList, 0)]

end TermuxDocumentsProvider
