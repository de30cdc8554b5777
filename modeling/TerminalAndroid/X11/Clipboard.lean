import Mathlib.Data.List.Perm.Basic
import TerminalAndroid.Exec.Machine

namespace Lorie.Clipboard

inductive Atom
  | targets
  | timestamp
  | string
  | text
  | utf8String
  | other (atom : Nat)
  deriving DecidableEq

structure Request where
  serial : Nat
  target : Atom
  property : Option Atom
  deriving DecidableEq

structure Notify where
  serial : Nat
  property : Option Atom
  stored : Option Atom
  deriving DecidableEq

/-- `cachedData`, the list at `lorieDataTargetHead` and what was sent to the clients. -/
structure Selection where
  cachedData : Option (List UInt8)
  dataTargets : List Request
  notified : List Notify
  deriving DecidableEq

inductive Result
  | badMatch
  | queued
  | success (stored : Atom)

/-- `lorieConvertSelection`: what it does about the data, and what is stored under `realProperty`. -/
def convertSelection (r : Request) (data : Option (List UInt8)) : Result :=
  let realProperty := r.property.getD r.target
  if r.target = .targets then .success realProperty
  else if r.target = .timestamp then .success realProperty
  else if data = none then
    if r.target ≠ .string ∧ r.target ≠ .text ∧ r.target ≠ .utf8String then .badMatch else .queued
  else if r.target = .string ∨ r.target = .text then .success realProperty
  else if r.target = .utf8String then .success realProperty
  else .badMatch

def answer (s : Selection) (r : Request) : Selection :=
  match convertSelection r s.cachedData with
  | .badMatch => { s with notified := ⟨r.serial, none, none⟩ :: s.notified }
  | .queued => { s with dataTargets := r :: s.dataTargets }
  | .success stored => { s with notified := ⟨r.serial, r.property, some stored⟩ :: s.notified }

inductive Event
  | convert (r : Request)
  | announce
  | data (data : List UInt8)

def handle (s : Selection) : Event → Selection
  | .convert r => answer s r
  | .announce => { s with cachedData := none }
  | .data data => s.dataTargets.foldl answer { s with cachedData := some data, dataTargets := [] }

def step (s : Selection) (event : Event) : Option Selection := some (handle s event)

def start : Selection := ⟨none, [], []⟩

def serials (events : List Event) : List Nat :=
  events.filterMap fun
    | .convert r => some r.serial
    | _ => none

def Selection.serials (s : Selection) : List Nat := s.dataTargets.map (·.serial) ++ s.notified.map (·.serial)

def Truthful (s : Selection) : Prop :=
  (∀ r ∈ s.dataTargets, r.property ≠ none) ∧ ∀ n ∈ s.notified, n.property = none ↔ n.stored = none

def Named (_ : Selection) : Event → Prop
  | .convert r => r.property ≠ none
  | _ => True

variable {s : Selection} {r : Request}

theorem answer_serials : (answer s r).serials.Perm (r.serial :: s.serials) := by
  unfold answer
  split
  · exact List.perm_middle
  · exact .refl _
  · exact List.perm_middle

theorem answer_truthful (named : r.property ≠ none) (truthful : Truthful s) : Truthful (answer s r) := by
  unfold answer
  split
  · exact ⟨truthful.1, List.forall_mem_cons.mpr ⟨iff_of_true rfl rfl, truthful.2⟩⟩
  · exact ⟨List.forall_mem_cons.mpr ⟨named, truthful.1⟩, truthful.2⟩
  · exact ⟨truthful.1, List.forall_mem_cons.mpr ⟨iff_of_false named (Option.some_ne_none _), truthful.2⟩⟩

theorem answer_with_data {data : List UInt8} (cached : s.cachedData = some data) :
    (answer s r).cachedData = some data ∧ (answer s r).dataTargets = s.dataTargets := by
  unfold answer
  split
  · exact ⟨cached, rfl⟩
  · next queued =>
    unfold convertSelection at queued
    grind
  · exact ⟨cached, rfl⟩

variable {requests : List Request}

theorem answers_with_data {data : List UInt8} (cached : s.cachedData = some data) :
    (requests.foldl answer s).dataTargets = s.dataTargets := by
  induction requests generalizing s with
  | nil => rfl
  | cons r requests ih => exact (ih (answer_with_data cached).1).trans (answer_with_data cached).2

theorem answers_serials :
    (requests.foldl answer s).serials.Perm (requests.map (·.serial) ++ s.serials) := by
  induction requests generalizing s with
  | nil => exact .refl _
  | cons r requests ih =>
    apply ih.trans
    apply (List.Perm.append_left _ answer_serials).trans
    exact List.perm_middle

theorem answers_truthful (named : ∀ r ∈ requests, r.property ≠ none) (truthful : Truthful s) :
    Truthful (requests.foldl answer s) := by
  induction requests generalizing s with
  | nil => exact truthful
  | cons r requests ih =>
    rw [List.forall_mem_cons] at named
    exact ih named.2 (answer_truthful named.1 truthful)

theorem handle_truthful {event : Event} (truthful : Truthful s) (named : Named s event) : Truthful (handle s event) := by
  cases event with
  | convert r => exact answer_truthful named truthful
  | announce => exact truthful
  | data data => exact answers_truthful truthful.1 ⟨fun _ mem => absurd mem List.not_mem_nil, truthful.2⟩

theorem run_serials {events : List Event} {t : Selection} (ran : Machine.run step s events = some t) :
    t.serials.Perm (serials events ++ s.serials) := by
  induction events generalizing s with
  | nil =>
    cases ran
    exact .refl _
  | cons event events ih =>
    rcases Machine.run_cons_iff.mp ran with ⟨_, stepped, ran⟩
    cases stepped
    apply (ih ran).trans
    cases event with
    | convert r => exact (List.Perm.append_left _ answer_serials).trans List.perm_middle
    | announce => exact .refl _
    | data data => exact List.Perm.append_left _ answers_serials

/-- Every request waits or has got one answer, the next data answers all that wait, and an answer says `None` just if
nothing was stored, as long as the requests name a property. -/
theorem convertSelection_answered {events : List Event} (meets : Machine.Meets step Named start events)
    (ran : Machine.run step start events = some s) :
    s.serials.Perm (serials events) ∧ (∀ data, (handle s (.data data)).dataTargets = []) ∧
      ∀ n ∈ s.notified, n.property = none ↔ n.stored = none := by
  have truthful : Truthful s := Machine.keeps
    (fun _ _ _ truthful named stepped => Option.some.inj stepped ▸ handle_truthful truthful named)
    ⟨fun _ mem => absurd mem List.not_mem_nil, fun _ mem => absurd mem List.not_mem_nil⟩ meets ran
  have answered := run_serials ran
  exact ⟨List.append_nil (serials events) ▸ answered, fun _ => answers_with_data rfl, truthful.2⟩

theorem convertSelection_answered_text :
    let r : Request := ⟨1, .string, some (.other 7)⟩
    (handle (handle start (.convert r)) (.data [65])).notified = [⟨1, some (.other 7), some (.other 7)⟩] ∧
      ∀ n ∈ (handle (handle start (.convert r)) (.data [65])).notified, n.property = none ↔ n.stored = none :=
  ⟨by decide, (@convertSelection_answered _ [.convert ⟨1, .string, some (.other 7)⟩, .data [65]]
    ⟨by simp [Named], trivial, trivial⟩ rfl).2.2⟩

/-- A request without a property is served under its target, and the answer says that it was refused. -/
theorem convertSelection_denies : (handle start (.convert ⟨1, .targets, none⟩)).notified = [⟨1, none, some .targets⟩] := by
  decide

end Lorie.Clipboard
