import Mathlib.Data.List.Nodup
import Mathlib.Data.Rat.Init

namespace SettingsBackup

/-- What a preference file holds; the finite floats are rational numbers. -/
inductive Value
  | string (s : String)
  | boolean (b : Bool)
  | integer (n : Int32)
  | long (n : Int64)
  | float (x : Rat)
  | stringSet (items : List String)
  deriving DecidableEq

/-- A JSON value as it is parsed; `other` is anything else, with its text. -/
inductive Json
  | string (s : String)
  | boolean (b : Bool)
  | whole (n : Int)
  | fraction (x : Rat)
  | array (items : List String)
  | other (text : String)

def toJson : Value → Json
  | .string s => .string s
  | .boolean b => .boolean b
  | .integer n => .whole n.toInt
  | .long n => .whole n.toInt
  | .float x => if x.den = 1 then .whole x.num else .fraction x
  | .stringSet items => .array items

/-- A number without a fraction is an `Integer` where it fits. -/
def fromJson : Json → Value
  | .string s => .string s
  | .boolean b => .boolean b
  | .whole n => if -2147483648 ≤ n ∧ n ≤ 2147483647 then .integer (.ofInt n) else .long (.ofInt n)
  | .fraction x => .float x
  | .array items => .stringSet items
  | .other text => .string text

abbrev Entries (α : Type) := List (String × α)

abbrev Preferences := String → Entries Value

def preferenceFileBasenames : List String :=
  ["com.termux.merged_preferences", "com.termux.api_preferences", "com.termux.boot_preferences", "com.termux.window_preferences",
    "com.termux.styling_preferences", "com.termux.tasker_preferences", "com.termux.widget_preferences"]

def put (entries : Entries Value) (entry : String × Json) : Entries Value :=
  entries.filter (·.1 ≠ entry.1) ++ [(entry.1, fromJson entry.2)]

abbrev Document := List (String × Option (Entries Json))

def exportFiles (p : Preferences) : Document :=
  preferenceFileBasenames.map fun basename => (basename, some ((p basename).map fun e => (e.1, toJson e.2)))

def importFiles : Document → Preferences → Preferences × Bool
  | [], p => (p, false)
  | (_, none) :: _, p => (p, true)
  | (basename, some entries) :: rest, p => importFiles rest (Function.update p basename (entries.foldl put (p basename)))

def doImport : Option Document → Preferences → Preferences × Bool
  | none, p => (p, true)
  | some root, p => importFiles root p

variable {p : Preferences} {root : Document} {basename : String} {entries : Entries Json}

section RoundTrip

/-- The number format tells the type of the value. -/
def Value.Telling : Value → Prop
  | .long n => ¬ (-2147483648 ≤ n.toInt ∧ n.toInt ≤ 2147483647)
  | .float x => x.den ≠ 1
  | _ => True

theorem fromJson_toJson_iff (v : Value) : fromJson (toJson v) = v ↔ v.Telling := by
  cases v with
  | integer n =>
    have low := n.le_toInt
    have high := n.toInt_lt
    simp only [toJson, fromJson, Value.Telling, iff_true]
    rw [if_pos (by omega), Int32.ofInt_toInt]
  | long n =>
    simp only [toJson, fromJson, Value.Telling]
    split <;> simp_all
  | float x =>
    simp only [toJson, Value.Telling]
    split
    · next whole =>
      simp only [fromJson]
      split <;> simp [whole]
    · next fraction => simp [fromJson, fraction]
  | _ => exact iff_of_true rfl trivial

theorem foldl_put {done : Entries Value} (apart : ∀ e ∈ entries, e.1 ∉ done.map Prod.fst) (nodup : (entries.map Prod.fst).Nodup) :
    entries.foldl put done = done ++ entries.map fun e => (e.1, fromJson e.2) := by
  induction entries generalizing done with
  | nil => simp
  | cons e entries ih =>
    rw [List.forall_mem_cons] at apart
    rw [List.map_cons, List.nodup_cons] at nodup
    have kept : done.filter (·.1 ≠ e.1) = done :=
      List.filter_eq_self.mpr fun d mem => decide_eq_true fun same => apart.1 (same ▸ List.mem_map_of_mem mem)
    rw [List.foldl_cons, put, kept, ih _ nodup.2]
    · simp
    · intro e' mem
      rw [List.map_append, List.mem_append, not_or]
      exact ⟨apart.2 e' mem, fun same => nodup.1 (List.mem_singleton.mp same ▸ List.mem_map_of_mem mem)⟩

theorem importFiles_map {names : List String} (g : String → Entries Json) (nodup : names.Nodup) :
    (importFiles (names.map fun f => (f, some (g f))) p).1 basename =
      if basename ∈ names then (g basename).foldl put (p basename) else p basename := by
  induction names generalizing p with
  | nil => simp [importFiles]
  | cons name names ih =>
    rw [List.nodup_cons] at nodup
    rw [List.map_cons, importFiles, ih nodup.2]
    by_cases same : basename = name
    · subst same
      simp [nodup.1]
    · simp [same]

theorem map_eq_self_iff {α : Type} {f : α → α} {l : List α} : l.map f = l ↔ ∀ a ∈ l, f a = a := by
  induction l with
  | nil => simp
  | cons a l ih => simp [ih]

/-- The import into empty preferences restores what was exported just if each value shows its type. -/
theorem import_export_iff (p : Preferences) (distinct : ∀ basename, ((p basename).map Prod.fst).Nodup) :
    (∀ basename ∈ preferenceFileBasenames, (doImport (some (exportFiles p)) fun _ => []).1 basename = p basename) ↔
      ∀ basename ∈ preferenceFileBasenames, ∀ e ∈ p basename, e.2.Telling := by
  apply forall₂_congr
  intro basename listed
  rw [doImport, exportFiles, importFiles_map _ (by decide), if_pos listed,
    foldl_put (fun _ _ => List.not_mem_nil) (by rw [List.map_map]; exact distinct basename), List.nil_append, List.map_map, map_eq_self_iff]
  apply forall₂_congr
  intro e _
  rw [← fromJson_toJson_iff]
  exact ⟨fun same => congrArg Prod.snd same, fun same => Prod.ext rfl same⟩

theorem import_export_boot :
    let p : Preferences := fun basename => if basename = "com.termux.boot_preferences" then [("size", .integer 12)] else []
    ∀ basename ∈ preferenceFileBasenames, (doImport (some (exportFiles p)) fun _ => []).1 basename = p basename := by
  refine (import_export_iff _ fun basename => ?_).mpr fun basename _ e mem => ?_
  · split <;> simp
  · split at mem <;> simp_all [Value.Telling]

/-- A small `Long` comes back as an `Integer`. -/
theorem import_export_long :
    let p : Preferences := fun basename => if basename = "com.termux.boot_preferences" then [("time", .long 5)] else []
    (doImport (some (exportFiles p)) fun _ => []).1 "com.termux.boot_preferences" = [("time", .integer 5)] := by
  decide

end RoundTrip

section Confined

def applied (root : Document) : Document := root.takeWhile (·.2.isSome)

/-- Only listed files get entries, and none gets any if a file is no object. -/
def Confined (root : Document) : Prop :=
  (∀ basename entries, (basename, some entries) ∈ applied root → entries ≠ [] → basename ∈ preferenceFileBasenames) ∧
    (applied root ≠ root → ∀ basename entries, (basename, some entries) ∈ applied root → entries = [])

end Confined

end SettingsBackup
