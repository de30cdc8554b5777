import Mathlib.Data.List.Nodup
import TerminalAndroid.Exec.Machine

namespace UpdateInstaller

variable {Sha : Type}

/-- An install intent: the download, what the latest `startDownload` had recorded when it was launched, whether the download
had succeeded and the hash of its file. -/
structure Launch (Sha : Type) where
  id : Nat
  latest : Option (Nat × Option Sha)
  successful : Bool
  actual : Option Sha

structure State (Sha : Type) where
  downloadId : Option Nat := none
  expectedSha256 : Option Sha := none
  ids : List Nat := []
  latest : Option (Nat × Option Sha) := none
  launched : List (Launch Sha) := []

inductive Event (Sha : Type)
  | startDownload (enqueued : Option Nat) (sha256 : Option Sha)
  | complete (id : Nat) (successful hasUri : Bool) (actual : Option Sha)

def State.clear (s : State Sha) : State Sha := { s with downloadId := none, expectedSha256 := none }

/-- `startDownload`, where enqueueing may fail, and `onReceive` with what the `DownloadManager` and the file say. -/
def step (equalsIgnoreCase : Sha → Sha → Bool) (s : State Sha) : Event Sha → Option (State Sha)
  | .startDownload none _ => some s
  | .startDownload (some id) sha256 =>
    some { s with downloadId := some id, expectedSha256 := sha256, ids := id :: s.ids, latest := some (id, sha256) }
  | .complete id successful hasUri actual =>
    if s.downloadId ≠ some id then some s
    else if !successful || !hasUri then some s.clear
    else if s.expectedSha256.all fun expected => actual.any (equalsIgnoreCase · expected) then
      some ({ s with launched := ⟨id, s.latest, successful, actual⟩ :: s.launched } : State Sha).clear
    else some s.clear

def Unique (s : State Sha) : Event Sha → Prop
  | .startDownload (some id) _ => id ∉ s.ids
  | _ => True

/-- The intent is for the latest record, whose download succeeded and whose hash, if there is one, fits. -/
def Launch.Right (equalsIgnoreCase : Sha → Sha → Bool) (l : Launch Sha) : Prop :=
  l.successful = true ∧ ∃ sha256, l.latest = some (l.id, sha256) ∧
    ∀ expected, sha256 = some expected → ∃ actual, l.actual = some actual ∧ equalsIgnoreCase actual expected = true

structure Safe (equalsIgnoreCase : Sha → Sha → Bool) (s : State Sha) : Prop where
  stored : ∀ id, s.downloadId = some id → s.latest = some (id, s.expectedSha256) ∧ id ∈ s.ids ∧ id ∉ s.launched.map (·.id)
  known : ∀ l ∈ s.launched, l.id ∈ s.ids
  once : (s.launched.map (·.id)).Nodup
  right : ∀ l ∈ s.launched, l.Right equalsIgnoreCase

variable {equalsIgnoreCase : Sha → Sha → Bool} {s s' : State Sha} {event : Event Sha}

theorem Safe.clear (safe : Safe equalsIgnoreCase s) : Safe equalsIgnoreCase s.clear :=
  ⟨fun _ stored => (by cases stored), safe.known, safe.once, safe.right⟩

theorem Safe.step (safe : Safe equalsIgnoreCase s) (unique : Unique s event)
    (stepped : step equalsIgnoreCase s event = some s') : Safe equalsIgnoreCase s' := by
  cases event with
  | startDownload enqueued sha256 =>
    cases enqueued with
    | none =>
      cases stepped
      exact safe
    | some id =>
      cases stepped
      refine ⟨fun id' stored => ?_, fun l mem => List.mem_cons_of_mem _ (safe.known l mem), safe.once, safe.right⟩
      cases stored
      refine ⟨rfl, List.mem_cons_self, fun mem => unique ?_⟩
      rcases List.mem_map.mp mem with ⟨l, launched, rfl⟩
      exact safe.known l launched
  | complete id successful hasUri actual =>
    simp only [UpdateInstaller.step] at stepped
    split at stepped
    · cases stepped
      exact safe
    next mine =>
    rw [not_not] at mine
    rcases safe.stored id mine with ⟨latest, given, fresh⟩
    split at stepped
    · cases stepped
      exact safe.clear
    next there =>
    split at stepped
    · next fits =>
      cases stepped
      have success : successful = true := by
        cases successful
        · exact absurd rfl there
        · rfl
      apply Safe.mk (fun _ stored => by cases stored)
      · exact List.forall_mem_cons.mpr ⟨given, safe.known⟩
      · exact List.nodup_cons.mpr ⟨fresh, safe.once⟩
      · apply List.forall_mem_cons.mpr ⟨⟨success, s.expectedSha256, latest, _⟩, safe.right⟩
        intro expected found
        rw [found, Option.all_some] at fits
        cases actual with
        | none => cases fits
        | some actual => exact ⟨actual, rfl, fits⟩
    · cases stepped
      exact safe.clear

theorem start_safe : Safe equalsIgnoreCase {} where
  stored _ stored := by cases stored
  known _ mem := absurd mem List.not_mem_nil
  once := List.nodup_nil
  right _ mem := absurd mem List.not_mem_nil

/-- At most one intent is launched for a download, and each of them is right. -/
theorem install_launched_safely {events : List (Event Sha)}
    (meets : Machine.Meets (step equalsIgnoreCase) Unique {} events)
    (ran : Machine.run (step equalsIgnoreCase) {} events = some s) :
    (s.launched.map (·.id)).Nodup ∧ ∀ l ∈ s.launched, l.Right equalsIgnoreCase := by
  have safe : Safe equalsIgnoreCase s := Machine.keeps
    (fun _ _ _ safe unique stepped => Safe.step safe unique stepped) start_safe meets ran
  exact ⟨safe.once, safe.right⟩

theorem install_launched_safely_verified :
    (Machine.run (step (· == ·)) {} [.startDownload (some 7) (some 5), .complete 7 true true (some 5),
      .complete 7 true true (some 5)]).map (·.launched.map (·.id)) = some [7] ∧
      ∀ l ∈ [(⟨7, some (7, some 5), true, some 5⟩ : Launch Nat)], l.Right (· == ·) :=
  ⟨rfl, (@install_launched_safely Nat (· == ·) _ [.startDownload (some 7) (some 5), .complete 7 true true (some 5),
    .complete 7 true true (some 5)] (by simp [Machine.Meets, step, Unique, State.clear]) rfl).2⟩

end UpdateInstaller
