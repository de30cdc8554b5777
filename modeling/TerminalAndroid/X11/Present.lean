import Mathlib.Algebra.Group.Nat.Defs
import Mathlib.Data.List.Nodup
import Mathlib.Data.List.Perm.Basic
import TerminalAndroid.Exec.Machine

namespace Lorie.Present

/-- A vblank of the queue. The `ticket` is not in the source: it tells apart vblanks queued under one id. -/
structure Vblank where
  id : Nat
  msc : Nat
  ticket : Nat
  deriving DecidableEq, Repr

inductive Notice
  | vblank (vblank : Vblank) (msc : Nat)
  | flip (event_id msc : Nat)
  deriving DecidableEq, Repr

def Notice.queued? : Notice → Option Vblank
  | .vblank queued _ => some queued
  | .flip _ _ => none

/-- The frame counter and the vblanks of the screen. `queued` and `aborted` record what was ever queued and what
    `loriePresentAbortVblank` took out of the queue. -/
structure Screen where
  current_msc : Nat
  vblank_queue : List Vblank
  notices : List Notice
  queued : List Vblank
  aborted : List Vblank
  deriving DecidableEq, Repr

def Screen.new : Screen := ⟨0, [], [], [], []⟩

def Screen.notified (s : Screen) : List Vblank := s.notices.filterMap Notice.queued?

/-- The counter is a `uint64_t`. -/
def nextMsc (msc : Nat) : Nat := (msc + 1) % 2 ^ 64

def loriePresentGetUstMsc (s : Screen) : Nat := s.current_msc

/-- `xorg_list_add` puts the vblank in front. Without memory for it nothing is queued. -/
def loriePresentQueueVblank (event_id msc : Nat) (allocated : Bool) (s : Screen) : Screen :=
  if allocated then
    let vblank := ⟨event_id, msc, s.queued.length⟩
    { s with vblank_queue := vblank :: s.vblank_queue, queued := vblank :: s.queued }
  else s

def loriePresentAbortVblank (id : Nat) (s : Screen) : Screen :=
  { s with
    vblank_queue := s.vblank_queue.eraseP (·.id == id)
    aborted := (s.vblank_queue.find? (·.id == id)).toList ++ s.aborted }

def loriePerformVblanks (s : Screen) : Screen :=
  { s with
    vblank_queue := s.vblank_queue.filter fun vblank => !decide (vblank.msc ≤ s.current_msc)
    notices := s.notices ++
      (s.vblank_queue.filter fun vblank => decide (vblank.msc ≤ s.current_msc)).map (.vblank · s.current_msc) }

def lorieRedraw (s : Screen) : Screen :=
  loriePerformVblanks { s with current_msc := nextMsc s.current_msc }

def loriePresentAfterFlip (event_id target_msc : Nat) (s : Screen) : Screen :=
  let current_msc := min (nextMsc s.current_msc) target_msc
  { s with current_msc := current_msc, notices := s.notices ++ [.flip event_id current_msc] }

inductive Event
  | redraw
  | queueVblank (event_id msc : Nat) (allocated : Bool)
  | abortVblank (id : Nat)
  | afterFlip (event_id target_msc : Nat)
  deriving DecidableEq, Repr

def step (s : Screen) : Event → Option Screen
  | .redraw => some (lorieRedraw s)
  | .queueVblank event_id msc allocated => some (loriePresentQueueVblank event_id msc allocated s)
  | .abortVblank id => some (loriePresentAbortVblank id s)
  | .afterFlip event_id target_msc => some (loriePresentAfterFlip event_id target_msc s)

/-- The counter can go on, and a flip does not name a frame of the past. -/
def Forward (s : Screen) : Event → Prop
  | .redraw => s.current_msc + 1 < 2 ^ 64
  | .afterFlip _ target_msc => s.current_msc + 1 < 2 ^ 64 ∧ s.current_msc ≤ target_msc
  | .queueVblank _ _ _ => True
  | .abortVblank _ => True

instance (s : Screen) : ∀ event, Decidable (Forward s event)
  | .redraw => inferInstanceAs (Decidable (_ < _))
  | .afterFlip _ _ => inferInstanceAs (Decidable (_ ∧ _))
  | .queueVblank _ _ _ => isTrue trivial
  | .abortVblank _ => isTrue trivial

variable {s s' : Screen} {event : Event} {vblank : Vblank}

theorem nextMsc_of_lt {msc : Nat} (below : msc + 1 < 2 ^ 64) : nextMsc msc = msc + 1 := Nat.mod_eq_of_lt below

theorem msc_le_of_step (forward : Forward s event) (stepped : step s event = some s') :
    s.current_msc ≤ s'.current_msc := by
  cases event with
  | redraw =>
    cases stepped
    simp only [lorieRedraw, loriePerformVblanks, nextMsc_of_lt forward]
    omega
  | queueVblank event_id msc allocated =>
    cases stepped
    cases allocated <;> exact Nat.le_refl _
  | abortVblank id =>
    cases stepped
    exact Nat.le_refl _
  | afterFlip event_id target_msc =>
    cases stepped
    simp only [loriePresentAfterFlip, nextMsc_of_lt forward.1]
    have := forward.2
    omega

structure Screen.Accounts (s : Screen) : Prop where
  parts : List.Perm (s.vblank_queue ++ s.notified ++ s.aborted) s.queued
  tickets : ∀ vblank ∈ s.queued, vblank.ticket < s.queued.length
  nodup : s.queued.Nodup

theorem new_accounts : Screen.new.Accounts :=
  ⟨List.Perm.refl _, (fun _ member => by cases member), List.nodup_nil⟩

theorem notified_flip (notices : List Notice) (event_id msc : Nat) :
    (notices ++ [Notice.flip event_id msc]).filterMap Notice.queued? = notices.filterMap Notice.queued? := by
  rw [List.filterMap_append]
  exact List.append_nil _

theorem notified_vblanks (notices : List Notice) (vblanks : List Vblank) (msc : Nat) :
    (notices ++ vblanks.map (Notice.vblank · msc)).filterMap Notice.queued? =
      notices.filterMap Notice.queued? ++ vblanks := by
  rw [List.filterMap_append, List.filterMap_map]
  congr 1
  exact List.filterMap_some

theorem Screen.Accounts.queue (accounts : s.Accounts) (event_id msc : Nat) (allocated : Bool) :
    (loriePresentQueueVblank event_id msc allocated s).Accounts := by
  cases allocated with
  | false => exact accounts
  | true =>
    constructor
    · exact accounts.parts.cons _
    · intro vblank member
      rcases List.mem_cons.mp member with rfl | member
      · exact Nat.lt_succ_self _
      · exact Nat.lt_succ_of_lt (accounts.tickets vblank member)
    · apply List.nodup_cons.mpr
      constructor
      · intro member
        exact Nat.lt_irrefl _ (accounts.tickets _ member)
      · exact accounts.nodup

theorem perm_eraseP_find (p : Vblank → Bool) (queue : List Vblank) :
    List.Perm (queue.eraseP p ++ (queue.find? p).toList) queue := by
  induction queue with
  | nil => exact List.Perm.refl _
  | cons vblank queue ih =>
    cases found : p vblank with
    | true =>
      simp only [List.eraseP_cons_of_pos found, List.find?_cons, found, Option.toList_some]
      exact List.perm_append_singleton vblank queue
    | false =>
      have stays : ¬ p vblank = true := by simp [found]
      simp only [List.eraseP_cons_of_neg stays, List.find?_cons, found, List.cons_append]
      exact ih.cons vblank

theorem Screen.Accounts.abort (accounts : s.Accounts) (id : Nat) : (loriePresentAbortVblank id s).Accounts := by
  constructor
  · refine List.Perm.trans ?_ accounts.parts
    calc s.vblank_queue.eraseP (·.id == id) ++ s.notified ++ ((s.vblank_queue.find? (·.id == id)).toList ++ s.aborted)
        = s.vblank_queue.eraseP (·.id == id) ++ (s.notified ++ (s.vblank_queue.find? (·.id == id)).toList) ++
            s.aborted := by simp
      List.Perm _ (s.vblank_queue.eraseP (·.id == id) ++ ((s.vblank_queue.find? (·.id == id)).toList ++ s.notified) ++
            s.aborted) := (List.perm_append_comm.append_left _).append_right _
      _ = s.vblank_queue.eraseP (·.id == id) ++ (s.vblank_queue.find? (·.id == id)).toList ++ s.notified ++
            s.aborted := by simp
      List.Perm _ (s.vblank_queue ++ s.notified ++ s.aborted) :=
          ((perm_eraseP_find _ s.vblank_queue).append_right _).append_right _
  · exact accounts.tickets
  · exact accounts.nodup

theorem Screen.Accounts.perform (accounts : s.Accounts) : (loriePerformVblanks s).Accounts := by
  constructor
  · refine List.Perm.trans ?_ accounts.parts
    simp only [loriePerformVblanks, notified, notified_vblanks]
    apply List.Perm.append_right
    refine List.Perm.trans (List.perm_append_comm.append_left _) ?_
    rw [← List.append_assoc]
    apply List.Perm.append_right
    refine List.Perm.trans List.perm_append_comm ?_
    exact List.filter_append_perm _ _
  · exact accounts.tickets
  · exact accounts.nodup

theorem Screen.Accounts.step (accounts : s.Accounts) (stepped : step s event = some s') : s'.Accounts := by
  cases event with
  | redraw =>
    cases stepped
    exact Screen.Accounts.perform (s := { s with current_msc := nextMsc s.current_msc })
      ⟨accounts.parts, accounts.tickets, accounts.nodup⟩
  | queueVblank event_id msc allocated =>
    cases stepped
    exact accounts.queue event_id msc allocated
  | abortVblank id =>
    cases stepped
    exact accounts.abort id
  | afterFlip event_id target_msc =>
    cases stepped
    constructor
    · simp only [loriePresentAfterFlip, notified, notified_flip]
      exact accounts.parts
    · exact accounts.tickets
    · exact accounts.nodup

theorem mem_queued_step (member : vblank ∈ s.queued) (stepped : step s event = some s') : vblank ∈ s'.queued := by
  cases event with
  | redraw =>
    cases stepped
    exact member
  | queueVblank event_id msc allocated =>
    cases stepped
    cases allocated with
    | false => exact member
    | true => exact List.mem_cons_of_mem _ member
  | abortVblank id =>
    cases stepped
    exact member
  | afterFlip event_id target_msc =>
    cases stepped
    exact member

structure Screen.Left (s : Screen) (vblank : Vblank) : Prop where
  accounts : s.Accounts
  queued : vblank ∈ s.queued
  left : vblank ∉ s.vblank_queue

theorem Screen.Left.step (left : s.Left vblank) (stepped : step s event = some s') : s'.Left vblank := by
  refine ⟨left.accounts.step stepped, mem_queued_step left.queued stepped, ?_⟩
  intro member
  apply left.left
  cases event with
  | redraw =>
    cases stepped
    exact (List.mem_filter.mp member).1
  | queueVblank event_id msc allocated =>
    cases stepped
    cases allocated with
    | false => exact member
    | true =>
      rcases List.mem_cons.mp member with rfl | member
      · exact absurd (left.accounts.tickets _ left.queued) (Nat.lt_irrefl _)
      · exact member
  | abortVblank id =>
    cases stepped
    exact List.mem_of_mem_eraseP member
  | afterFlip event_id target_msc =>
    cases stepped
    exact member

structure Screen.Due (s : Screen) (vblank : Vblank) : Prop where
  accounts : s.Accounts
  queued : vblank ∈ s.queued
  reached : vblank.msc ≤ s.current_msc

theorem Screen.Due.step (due : s.Due vblank) (forward : Forward s event) (stepped : step s event = some s') :
    s'.Due vblank :=
  ⟨due.accounts.step stepped, mem_queued_step due.queued stepped,
    Nat.le_trans due.reached (msc_le_of_step forward stepped)⟩

theorem Screen.Due.redraw (due : s.Due vblank) (forward : Forward s .redraw) : (lorieRedraw s).Left vblank := by
  have next : (lorieRedraw s).Due vblank := due.step forward rfl
  refine ⟨next.accounts, next.queued, ?_⟩
  intro member
  have late := (List.mem_filter.mp member).2
  simp only [nextMsc_of_lt forward, Bool.not_eq_true', decide_eq_false_iff_not] at late
  have := due.reached
  omega

theorem Screen.Due.run {events : List Event} (due : s.Due vblank) (meets : Machine.Meets Present.step Forward s events)
    (ran : Machine.run Present.step s events = some s') (redraws : Event.redraw ∈ events) : s'.Left vblank := by
  induction events generalizing s with
  | nil => cases redraws
  | cons event events ih =>
    rcases Machine.run_cons_iff.mp ran with ⟨middle, stepped, ran'⟩
    rcases (Machine.meets_cons_iff stepped).mp meets with ⟨forward, meets'⟩
    by_cases first : event = .redraw
    · subst first
      cases stepped
      exact Machine.keeps (P := fun t => t.Left vblank) (fun _ _ _ left _ stepped => left.step stepped)
        (due.redraw forward) meets' ran'
    · apply ih (due.step forward stepped) meets' ran'
      rcases List.mem_cons.mp redraws with same | rest
      · exact absurd same.symm first
      · exact rest

theorem Screen.Accounts.count (accounts : s.Accounts) (member : vblank ∈ s.queued) :
    s.vblank_queue.count vblank + s.notified.count vblank + s.aborted.count vblank = 1 := by
  have whole := accounts.parts.count_eq vblank
  rw [List.count_append, List.count_append] at whole
  rw [whole]
  exact List.count_eq_one_of_mem accounts.nodup member

/-- In a run of steps forward the reported counter never falls, no vblank is notified twice, and one that is not
    aborted was notified once the counter had reached its frame and a redraw followed. -/
theorem vblanks_notified_once {before after : List Event} {s' : Screen}
    (meets : Machine.Meets step Forward .new (before ++ after)) (ran : Machine.run step .new before = some s)
    (ran' : Machine.run step s after = some s') :
    loriePresentGetUstMsc s ≤ loriePresentGetUstMsc s' ∧
      ∀ vblank ∈ s.queued, s'.notified.count vblank ≤ 1 ∧
        (vblank.msc ≤ loriePresentGetUstMsc s → Event.redraw ∈ after → vblank ∉ s'.aborted →
          s'.notified.count vblank = 1) := by
  rcases (Machine.meets_append_iff ran).mp meets with ⟨first, rest⟩
  have accounts : s.Accounts :=
    Machine.keeps (fun _ _ _ accounts _ stepped => accounts.step stepped) new_accounts first ran
  constructor
  · exact Machine.keeps (P := fun t => s.current_msc ≤ t.current_msc)
      (fun _ _ _ below forward stepped => Nat.le_trans below (msc_le_of_step forward stepped)) (Nat.le_refl _) rest ran'
  · intro vblank member
    have kept : s'.Accounts ∧ vblank ∈ s'.queued :=
      Machine.keeps (P := fun t => t.Accounts ∧ vblank ∈ t.queued)
        (fun _ _ _ held _ stepped => ⟨held.1.step stepped, mem_queued_step held.2 stepped⟩) ⟨accounts, member⟩ rest ran'
    have count := kept.1.count kept.2
    constructor
    · omega
    · intro reached redraws kept'
      have left := Screen.Due.run ⟨accounts, member, reached⟩ rest ran' redraws
      rw [List.count_eq_zero_of_not_mem left.left, List.count_eq_zero_of_not_mem kept'] at count
      omega

theorem vblanks_notified_once_by_redraw :
    ∃ s s', Machine.run step .new [.queueVblank 7 1 true, .afterFlip 8 5] = some s ∧
      Machine.run step s [.redraw] = some s' ∧ loriePresentGetUstMsc s ≤ loriePresentGetUstMsc s' ∧
      s'.notified.count ⟨7, 1, 0⟩ = 1 := by
  refine ⟨_, _, rfl, rfl, ?_⟩
  have meets : Machine.Meets step Forward .new ([.queueVblank 7 1 true, .afterFlip 8 5] ++ [.redraw]) := by decide
  have notified := vblanks_notified_once meets rfl rfl
  exact ⟨notified.1, (notified.2 ⟨7, 1, 0⟩ (by decide)).2 (by decide) (by decide) (by decide)⟩

/-- A flip for a frame of the past takes the counter back, and a vblank that was due has to wait. -/
theorem flip_takes_counter_back :
    ∃ s s', Machine.run step .new [.redraw, .redraw, .redraw, .queueVblank 5 3 true] = some s ∧
      Machine.run step s [.afterFlip 7 1, .redraw] = some s' ∧ loriePresentGetUstMsc s' < loriePresentGetUstMsc s ∧
      (⟨5, 3, 0⟩ : Vblank) ∈ s.queued ∧ 3 ≤ loriePresentGetUstMsc s ∧ s'.aborted = [] ∧
      s'.notified.count ⟨5, 3, 0⟩ = 0 :=
  ⟨_, _, rfl, rfl, by decide⟩

end Lorie.Present
