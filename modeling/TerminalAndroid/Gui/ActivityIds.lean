import Mathlib.Data.List.Nodup
import Mathlib.Logic.Function.Iterate
import TerminalAndroid.Exec.Machine

namespace TermuxGui

structure Ids where
  activityID : Nat := 0
  activities : List Nat := []
  overlays : List Nat := []
  deriving DecidableEq

def idModulus : Nat := 2147483648

def nextID (id : Nat) : Nat := if id + 1 = idModulus then 0 else id + 1

/-- The loop of `generateActivityID`; it never ends if all ids are taken by activities. -/
def freeID (activities : List Nat) : Nat → Nat → Option Nat
  | 0, _ => none
  | fuel + 1, id => if id ∈ activities then freeID activities fuel (nextID id) else some id

def generateActivityID (s : Ids) : Option (Nat × Ids) :=
  (freeID s.activities idModulus s.activityID).map fun aid => (aid, { s with activityID := nextID aid })

inductive IdEvent
  | newActivity
  | newOverlay
  | finish (id : Nat)

def idStep (s : Ids) : IdEvent → Option Ids
  | .newActivity => (generateActivityID s).map fun (aid, s) => { s with activities := aid :: s.activities }
  | .newOverlay => (generateActivityID s).map fun (aid, s) => { s with overlays := aid :: s.overlays }
  | .finish id => some { s with activities := s.activities.erase id, overlays := s.overlays.erase id }

/-- Before the counter comes to the id of a live overlay it comes to one that no activity has. -/
def Ids.Clear (s : Ids) : Prop :=
  ∀ o ∈ s.overlays, ∃ before, nextID^[before] s.activityID ∉ s.activities ∧ ∀ k ≤ before, nextID^[k] s.activityID ≠ o

def Clear (s : Ids) : IdEvent → Prop
  | .finish _ => True
  | _ => s.Clear

def Ids.Distinct (s : Ids) : Prop := (s.activities ++ s.overlays).Nodup

variable {s s' : Ids} {activities : List Nat} {fuel id aid : Nat}

theorem freeID_spec (found : freeID activities fuel id = some aid) :
    aid ∉ activities ∧ ∃ n, nextID^[n] id = aid ∧ ∀ k < n, nextID^[k] id ∈ activities := by
  induction fuel generalizing id with
  | zero => cases found
  | succ fuel ih =>
    rw [freeID] at found
    split at found
    · next taken =>
      rcases ih found with ⟨free, n, here, skipped⟩
      refine ⟨free, n + 1, here, fun k small => ?_⟩
      rcases k with _ | k
      · exact taken
      · exact skipped k (Nat.lt_of_succ_lt_succ small)
    · next free =>
      cases found
      exact ⟨free, 0, rfl, fun k small => absurd small (Nat.not_lt_zero k)⟩

theorem generateActivityID_fresh (clear : s.Clear) (made : generateActivityID s = some (aid, s')) :
    aid ∉ s.activities ∧ aid ∉ s.overlays ∧ s' = { s with activityID := nextID aid } := by
  rcases Option.map_eq_some_iff.mp made with ⟨_, found, same⟩
  cases same
  rcases freeID_spec found with ⟨free, n, here, skipped⟩
  refine ⟨free, fun live => ?_, rfl⟩
  rcases clear aid live with ⟨before, vacant, apart⟩
  rcases Nat.lt_or_ge before n with small | large
  · exact vacant (skipped before small)
  · exact apart n large here

theorem idStep_distinct {event : IdEvent} (distinct : s.Distinct) (clear : Clear s event) (stepped : idStep s event = some s') :
    s'.Distinct := by
  unfold Ids.Distinct at *
  cases event with
  | newActivity =>
    rcases Option.map_eq_some_iff.mp stepped with ⟨⟨aid, _⟩, made, rfl⟩
    rcases generateActivityID_fresh clear made with ⟨free, apart, rfl⟩
    exact List.nodup_cons.mpr ⟨fun mem => (List.mem_append.mp mem).elim free apart, distinct⟩
  | newOverlay =>
    rcases Option.map_eq_some_iff.mp stepped with ⟨⟨aid, _⟩, made, rfl⟩
    rcases generateActivityID_fresh clear made with ⟨free, apart, rfl⟩
    exact List.nodup_middle.mpr (List.nodup_cons.mpr ⟨fun mem => (List.mem_append.mp mem).elim free apart, distinct⟩)
  | finish id =>
    cases stepped
    exact distinct.sublist ((List.erase_sublist ..).append (List.erase_sublist ..))

/-- The live ids are different in every run in which the counter never comes to the id of a live overlay. -/
theorem ids_distinct {events : List IdEvent} (meets : Machine.Meets idStep Clear {} events)
    (ran : Machine.run idStep {} events = some s) : s.Distinct :=
  Machine.keeps (fun _ _ _ distinct clear stepped => idStep_distinct distinct clear stepped)
    (by decide : (([] : List Nat) ++ []).Nodup) meets ran

section Empty

variable {overlays : List Nat}

theorem freeID_empty : freeID [] idModulus id = some id := by
  rw [show idModulus = 2147483647 + 1 from rfl, freeID, if_neg List.not_mem_nil]

theorem newActivity_empty : idStep ⟨id, [], overlays⟩ .newActivity = some ⟨nextID id, [id], overlays⟩ := by
  rw [idStep, generateActivityID, freeID_empty]
  rfl

theorem newOverlay_empty : idStep ⟨id, [], overlays⟩ .newOverlay = some ⟨nextID id, [], id :: overlays⟩ := by
  rw [idStep, generateActivityID, freeID_empty]
  rfl

end Empty

theorem ids_distinct_two : Ids.Distinct ⟨2, [1], [0]⟩ := by
  refine @ids_distinct _ [.newOverlay, .newActivity] ?_ ?_
  · apply (Machine.meets_cons_iff newOverlay_empty).mpr
    refine ⟨fun _ mem => absurd mem List.not_mem_nil, (Machine.meets_cons_iff newActivity_empty).mpr ⟨fun o live => ?_, trivial⟩⟩
    rw [List.mem_singleton.mp live]
    exact ⟨0, List.not_mem_nil, by decide⟩
  · exact Machine.run_cons_iff.mpr ⟨_, newOverlay_empty, Machine.run_cons_iff.mpr ⟨_, newActivity_empty, rfl⟩⟩

def churn : Nat → Nat → List IdEvent
  | 0, _ => []
  | n + 1, id => .newActivity :: .finish id :: churn n (id + 1)

theorem run_churn {n : Nat} {rest : List IdEvent} (positive : 0 < id) (small : id + n < idModulus) :
    Machine.run idStep ⟨id, [], [0]⟩ (churn n id ++ rest) = Machine.run idStep ⟨id + n, [], [0]⟩ rest := by
  induction n generalizing id with
  | zero => rfl
  | succ n ih =>
    have next : nextID id = id + 1 := if_neg (by omega)
    have later := ih (by omega : 0 < id + 1) (by omega)
    rw [Nat.add_assoc, Nat.add_comm 1 n] at later
    rw [← later]
    have apart : [0].erase id = [0] := List.erase_of_not_mem (by simp; omega)
    have back : idStep ⟨id + 1, [id], [0]⟩ (.finish id) = some ⟨id + 1, [], [0]⟩ := by simp [idStep, apart]
    have made : idStep ⟨id, [], [0]⟩ .newActivity = some ⟨id + 1, [id], [0]⟩ := next ▸ newActivity_empty
    simp only [churn, List.cons_append, Machine.run, made, back]

/-- The counter wraps around, and an activity gets the id of the overlay. -/
theorem ids_collide : ∃ events s, Machine.run idStep {} events = some s ∧ ¬ s.Distinct := by
  refine ⟨.newOverlay :: (churn 2147483646 1 ++ [.newActivity, .finish 2147483647, .newActivity]), ⟨1, [0], [0]⟩, ?_,
    (by decide : ¬ [0, 0].Nodup)⟩
  apply Machine.run_cons_iff.mpr ⟨_, newOverlay_empty, _⟩
  apply (run_churn Nat.one_pos (by decide)).trans
  apply Machine.run_cons_iff.mpr ⟨_, newActivity_empty, _⟩
  exact Machine.run_cons_iff.mpr ⟨⟨0, [], [0]⟩, rfl, Machine.run_cons_iff.mpr ⟨_, newActivity_empty, rfl⟩⟩

end TermuxGui
