import TerminalAndroid.Exec.Java
import TerminalAndroid.Terminal.WcWidth

open Java

namespace WcWidth

/-- The loop of `intable` with its array accesses; `none` if it does not end within `fuel` rounds. -/
def searchLoop (table : List (Nat × Nat)) (c : Nat) : Nat → Int → Int → Option (Except Throwable Bool)
  | 0, _, _ => none
  | fuel + 1, bot, top =>
    if bot ≤ top then
      let mid := (bot + top) / 2
      match table[mid.toNat]? with
      | none => some (.error .indexOutOfBounds)
      | some interval =>
        if interval.2 < c then searchLoop table c fuel (mid + 1) top
        else if c < interval.1 then searchLoop table c fuel bot (mid - 1)
        else some (.ok true)
    else some (.ok false)

/-- `intable` as the virtual machine runs it: on a table without intervals the first access throws. -/
def search (table : List (Nat × Nat)) (c : Nat) : Option (Except Throwable Bool) :=
  match table with
  | [] => some (.error .indexOutOfBounds)
  | first :: _ => if c < first.1 then some (.ok false) else searchLoop table c (table.length + 1) 0 (table.length - 1)

def Ordered (table : List (Nat × Nat)) : Prop :=
  (∀ interval ∈ table, interval.1 ≤ interval.2) ∧ table.Pairwise fun interval later => interval.2 < later.1

def Covers (interval : Nat × Nat) (c : Nat) : Prop := interval.1 ≤ c ∧ c ≤ interval.2

variable {table : List (Nat × Nat)} {c fuel : Nat} {bot top : Int}

theorem searchLoop_eq (lower : 0 ≤ bot) (upper : top < table.length) (enough : top - bot + 1 ≤ fuel) :
    searchLoop table c (fuel + 1) bot top = some (.ok (intableLoop table c fuel bot top)) := by
  induction fuel generalizing bot top with
  | zero => rw [searchLoop, if_neg (by omega), intableLoop]
  | succ fuel ih =>
    rw [searchLoop, intableLoop]
    by_cases more : bot ≤ top
    · have inside : ((bot + top) / 2).toNat < table.length := by omega
      simp only [if_pos more, List.getElem?_eq_getElem inside, List.getD_eq_getElem _ _ inside]
      split
      · exact ih (by omega) upper (by omega)
      · split
        · exact ih lower (by omega) (by omega)
        · rfl
    · rw [if_neg more, if_neg more]

theorem Ordered.getElem (ordered : Ordered table) {i j : Nat} (before : i < j) (inside : j < table.length) :
    table[i].1 ≤ table[i].2 ∧ table[i].2 < table[j].1 ∧ table[j].1 ≤ table[j].2 :=
  ⟨ordered.1 _ (List.getElem_mem _), List.pairwise_iff_getElem.mp ordered.2 i j _ inside before,
    ordered.1 _ (List.getElem_mem inside)⟩

def Between (table : List (Nat × Nat)) (c : Nat) (bot top : Int) : Prop :=
  ∀ k (inside : k < table.length), Covers table[k] c → bot ≤ k ∧ k ≤ top

theorem Between.right (between : Between table c bot top) (ordered : Ordered table) {mid : Nat}
    (inside : mid < table.length) (below : table[mid].2 < c) : Between table c (mid + 1) top := by
  intro k inside' covers
  have := between k inside' covers
  have := covers.2
  rcases Nat.lt_trichotomy k mid with before | rfl | after
  · have := ordered.getElem before inside
    omega
  · omega
  · omega

theorem Between.left (between : Between table c bot top) (ordered : Ordered table) {mid : Nat}
    (inside : mid < table.length) (above : c < table[mid].1) : Between table c bot (mid - 1) := by
  intro k inside' covers
  have := between k inside' covers
  have := covers.1
  rcases Nat.lt_trichotomy k mid with before | rfl | after
  · omega
  · omega
  · have := ordered.getElem after inside'
    omega

theorem Between.not_covered (between : Between table c bot top) (empty : top < bot) :
    ¬ ∃ interval ∈ table, Covers interval c := by
  rintro ⟨interval, member, covers⟩
  rcases List.getElem_of_mem member with ⟨k, inside, rfl⟩
  have := between k inside covers
  omega

theorem intableLoop_iff (ordered : Ordered table) (lower : 0 ≤ bot) (upper : top < table.length)
    (enough : top - bot + 1 ≤ fuel) (between : Between table c bot top) :
    intableLoop table c fuel bot top = true ↔ ∃ interval ∈ table, Covers interval c := by
  induction fuel generalizing bot top with
  | zero => simpa [intableLoop] using between.not_covered (by omega)
  | succ fuel ih =>
    rw [intableLoop]
    by_cases more : bot ≤ top
    · have inside : ((bot + top) / 2).toNat < table.length := by omega
      have middle : (((bot + top) / 2).toNat : Int) = (bot + top) / 2 := by omega
      simp only [if_pos more, List.getD_eq_getElem _ _ inside]
      split
      · next below => exact ih (by omega) upper (by omega) (middle ▸ between.right ordered inside below)
      · split
        · next above => exact ih lower (by omega) (by omega) (middle ▸ between.left ordered inside above)
        · next reaches starts =>
          have covers : Covers table[((bot + top) / 2).toNat] c := ⟨by omega, by omega⟩
          exact iff_of_true rfl ⟨_, List.getElem_mem inside, covers⟩
    · rw [if_neg more]
      simpa using between.not_covered (by omega)

theorem intable_iff (ordered : Ordered table) (c : Nat) :
    intable table c = true ↔ ∃ interval ∈ table, Covers interval c := by
  rw [intable]
  split
  · next below =>
    have before : Between table c 0 (-1) := by
      intro k inside covers
      rw [List.getD_eq_getElem _ _ (by omega)] at below
      rcases Nat.eq_zero_or_pos k with rfl | positive
      · exact absurd covers.1 (by omega)
      · have := ordered.getElem positive inside
        have := covers.1
        omega
    simpa using before.not_covered (by omega)
  · exact intableLoop_iff ordered (Int.le_refl 0) (by omega) (by omega) fun k inside _ => ⟨by omega, by omega⟩

/-- The search ends, and returns true exactly for the code points that an interval of the table covers. It reads no
    interval that is not there unless there is none at all. -/
theorem search_iff {table : List (Nat × Nat)} (ordered : Ordered table) (c : Nat) :
    ∃ result, search table c = some result ∧ (result = .ok true ↔ ∃ interval ∈ table, Covers interval c) ∧
      (table ≠ [] → result = .ok (intable table c)) := by
  rcases table with _ | ⟨first, table⟩
  · exact ⟨_, rfl, by simp, fun some => absurd rfl some⟩
  · have ends : search (first :: table) c = some (.ok (intable (first :: table) c)) := by
      rw [search, intable, List.getD_cons_zero]
      split
      · rfl
      · exact searchLoop_eq (Int.le_refl 0) (Int.sub_one_lt_of_le (Int.le_refl _)) (by omega)
    refine ⟨_, ends, ?_, fun _ => rfl⟩
    rw [← intable_iff ordered c]
    exact ⟨Except.ok.inj, congrArg Except.ok⟩

theorem search_iff_wide : search [(4352, 4447), (8986, 8987)] 8986 = some (.ok true) := by
  have ordered : Ordered [(4352, 4447), (8986, 8987)] := by simp [Ordered]
  rcases search_iff ordered 8986 with ⟨result, ends, covered, _⟩
  rw [ends, covered.mpr ⟨(8986, 8987), by simp, by simp [Covers]⟩]

end WcWidth
