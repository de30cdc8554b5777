import Mathlib.Data.List.Infix

namespace FileUtils

abbrev Path := List String

inductive FileType
  | directory
  | regular
  | symlink
  deriving DecidableEq

structure Node where
  type : FileType
  content : String

abbrev FileSystem := Path → Option Node

def copy (fs : FileSystem) (dest : Path) (copies : Path → Option Node) : FileSystem :=
  fun p => if dest <+: p then copies p else fs p

def Apart (src dest : Path) : Prop := ¬ src <+: dest ∧ ¬ dest <+: src

def SameTree (src : Path) (fs fs' : FileSystem) : Prop := ∀ p, src <+: p → fs' p = fs p

variable {fs : FileSystem} {src dest : Path} {flags : Flags} {answers : Answers} {p : Path}

theorem Apart.outside (apart : Apart src dest) (below : src <+: p) : ¬ dest <+: p :=
  fun below' => (List.prefix_or_prefix_of_prefix below below').elim apart.1 apart.2

theorem SameTree.trans {fs' fs'' : FileSystem} (first : SameTree src fs fs') (second : SameTree src fs' fs'') : SameTree src fs fs'' :=
  fun p below => (second p below).trans (first p below)

def small : FileSystem := fun p =>
  if p = ["d"] then some ⟨.directory, ""⟩ else if p = ["d", "a"] then some ⟨.regular, "x"⟩ else none

end FileUtils
