import Mathlib.Data.List.GetD
import Mathlib.Data.Nat.ModEq

/-! A ring that one thread fills and another one empties without a lock. The indices count up and wrap around;
    the slots hold records that are written and read field by field. -/

namespace Spsc

variable {ι α : Type}

/-- The number of slots and the range of the indices, which wrap around after a whole number of turns. -/
structure Shape where
  capacity : Nat
  modulus : Nat
  positive : 0 < capacity
  smaller : capacity < modulus
  divides : capacity ∣ modulus

/-- Which fields a record has to have written, and which fields reading a slot copies. -/
structure Layout (ι α : Type) where
  fields : (ι → α) → List ι
  all : List ι
  complete : ∀ record i, i ∈ fields record → i ∈ all

structure Ring (ι α : Type) where
  writeIndex : Nat
  readIndex : Nat
  slots : Nat → ι → α

inductive Producer (ι α : Type)
  | idle
  | loaded (writeIndex : Nat)
  | filling (writeIndex : Nat) (record : ι → α) (todo : List ι)

inductive Consumer (ι α : Type)
  | idle
  | copying (copy : ι → α) (todo : List ι)

structure State (ι α : Type) where
  ring : Ring ι α
  producer : Producer ι α
  consumer : Consumer ι α
  published : List (ι → α)
  taken : List (ι → α)

def Shape.distance (shape : Shape) (writeIndex readIndex : Nat) : Nat :=
  (writeIndex + (shape.modulus - readIndex)) % shape.modulus

def Shape.next (shape : Shape) (index : Nat) : Nat := (index + 1) % shape.modulus

def Shape.slot (shape : Shape) (index : Nat) : Nat := index % shape.capacity

def Ring.put [DecidableEq ι] (ring : Ring ι α) (slot : Nat) (i : ι) (value : α) : Ring ι α :=
  { ring with slots := Function.update ring.slots slot (Function.update (ring.slots slot) i value) }

def load (s : State ι α) : Option (State ι α) :=
  match s.producer with
  | .idle => some { s with producer := .loaded s.ring.writeIndex }
  | _ => none

def check (shape : Shape) (layout : Layout ι α) (record : ι → α) (s : State ι α) : Option (State ι α) :=
  match s.producer with
  | .loaded writeIndex =>
    some { s with
      producer := if shape.capacity ≤ shape.distance writeIndex s.ring.readIndex then .idle
        else .filling writeIndex record (layout.fields record) }
  | _ => none

def fill [DecidableEq ι] (shape : Shape) (s : State ι α) : Option (State ι α) :=
  match s.producer with
  | .filling writeIndex record (i :: todo) =>
    some { s with
      ring := s.ring.put (shape.slot writeIndex) i (record i)
      producer := .filling writeIndex record todo }
  | _ => none

def publish (shape : Shape) (s : State ι α) : Option (State ι α) :=
  match s.producer with
  | .filling writeIndex record [] =>
    some { s with
      ring := { s.ring with writeIndex := shape.next writeIndex }
      producer := .idle
      published := s.published ++ [record] }
  | _ => none

def start (layout : Layout ι α) (garbage : ι → α) (s : State ι α) : Option (State ι α) :=
  match s.consumer with
  | .idle =>
    if s.ring.readIndex = s.ring.writeIndex then none else some { s with consumer := .copying garbage layout.all }
  | _ => none

def copy [DecidableEq ι] (shape : Shape) (s : State ι α) : Option (State ι α) :=
  match s.consumer with
  | .copying copy (i :: todo) =>
    some { s with
      consumer := .copying (Function.update copy i (s.ring.slots (shape.slot s.ring.readIndex) i)) todo }
  | _ => none

def advance (shape : Shape) (s : State ι α) : Option (State ι α) :=
  match s.consumer with
  | .copying copy [] =>
    some { s with
      ring := { s.ring with readIndex := shape.next s.ring.readIndex }
      consumer := .idle
      taken := s.taken ++ [copy] }
  | _ => none

section Inversion

variable {shape : Shape} {layout : Layout ι α} {record : ι → α} {s s' : State ι α}

theorem load_eq (ran : load s = some s') :
    s.producer = .idle ∧ s' = { s with producer := .loaded s.ring.writeIndex } := by
  unfold load at ran
  split at ran <;> cases ran
  exact ⟨‹_›, rfl⟩

theorem check_eq (ran : check shape layout record s = some s') :
    ∃ writeIndex, s.producer = .loaded writeIndex ∧
      s' = { s with
        producer := if shape.capacity ≤ shape.distance writeIndex s.ring.readIndex then .idle
          else .filling writeIndex record (layout.fields record) } := by
  unfold check at ran
  split at ran <;> cases ran
  exact ⟨_, ‹_›, rfl⟩

theorem fill_eq [DecidableEq ι] (ran : fill shape s = some s') :
    ∃ writeIndex record i todo, s.producer = .filling writeIndex record (i :: todo) ∧
      s' = { s with
        ring := s.ring.put (shape.slot writeIndex) i (record i)
        producer := .filling writeIndex record todo } := by
  unfold fill at ran
  split at ran <;> cases ran
  exact ⟨_, _, _, _, ‹_›, rfl⟩

theorem publish_eq (ran : publish shape s = some s') :
    ∃ writeIndex record, s.producer = .filling writeIndex record [] ∧
      s' = { s with
        ring := { s.ring with writeIndex := shape.next writeIndex }
        producer := .idle
        published := s.published ++ [record] } := by
  unfold publish at ran
  split at ran <;> cases ran
  exact ⟨_, _, ‹_›, rfl⟩

theorem start_eq {garbage : ι → α} (ran : start layout garbage s = some s') :
    s.consumer = .idle ∧ s.ring.readIndex ≠ s.ring.writeIndex ∧
      s' = { s with consumer := .copying garbage layout.all } := by
  unfold start at ran
  split at ran
  · split at ran <;> cases ran
    exact ⟨‹_›, ‹_›, rfl⟩
  · cases ran

theorem copy_eq [DecidableEq ι] (ran : copy shape s = some s') :
    ∃ copied i todo, s.consumer = .copying copied (i :: todo) ∧
      s' = { s with
        consumer := .copying (Function.update copied i (s.ring.slots (shape.slot s.ring.readIndex) i)) todo } := by
  unfold copy at ran
  split at ran <;> cases ran
  exact ⟨_, _, _, ‹_›, rfl⟩

theorem advance_eq (ran : advance shape s = some s') :
    ∃ copied, s.consumer = .copying copied [] ∧
      s' = { s with
        ring := { s.ring with readIndex := shape.next s.ring.readIndex }
        consumer := .idle
        taken := s.taken ++ [copied] } := by
  unfold advance at ran
  split at ran <;> cases ran
  exact ⟨_, ‹_›, rfl⟩

end Inversion

def Layout.Agree (layout : Layout ι α) (record other : ι → α) : Prop :=
  ∀ i ∈ layout.fields record, other i = record i

variable {shape : Shape} {layout : Layout ι α} {ring : Ring ι α} {published taken : List (ι → α)} {s s' : State ι α}

structure Fifo (shape : Shape) (layout : Layout ι α) (ring : Ring ι α) (published taken : List (ι → α)) : Prop where
  write : ring.writeIndex = published.length % shape.modulus
  read : ring.readIndex = taken.length % shape.modulus
  ordered : taken.length ≤ published.length
  bounded : published.length ≤ taken.length + shape.capacity
  took : ∀ (k : Nat) (record copy : ι → α), published[k]? = some record → taken[k]? = some copy →
    layout.Agree record copy
  waits : ∀ (k : Nat) (record : ι → α), taken.length ≤ k → published[k]? = some record →
    layout.Agree record (ring.slots (shape.slot k))

def Fills (shape : Shape) (layout : Layout ι α) (s : State ι α) : Producer ι α → Prop
  | .idle => True
  | .loaded writeIndex => writeIndex = s.ring.writeIndex
  | .filling writeIndex record todo =>
    writeIndex = s.ring.writeIndex ∧ s.published.length < s.taken.length + shape.capacity ∧
      ∀ i ∈ layout.fields record, i ∉ todo → s.ring.slots (shape.slot s.published.length) i = record i

def Empties (layout : Layout ι α) (s : State ι α) : Consumer ι α → Prop
  | .idle => True
  | .copying copy todo =>
    ∃ record, s.published[s.taken.length]? = some record ∧ ∀ i ∈ layout.fields record, i ∉ todo → copy i = record i

structure Runs (shape : Shape) (layout : Layout ι α) (s : State ι α) : Prop where
  fifo : Fifo shape layout s.ring s.published s.taken
  fills : Fills shape layout s s.producer
  empties : Empties layout s s.consumer

theorem slot_mod (shape : Shape) (n : Nat) : shape.slot (n % shape.modulus) = shape.slot n :=
  Nat.mod_mod_of_dvd n shape.divides

theorem next_mod (shape : Shape) (n : Nat) : shape.next (n % shape.modulus) = (n + 1) % shape.modulus :=
  Nat.mod_add_mod n shape.modulus 1

theorem slot_ne (shape : Shape) {k n : Nat} (below : k < n) (near : n < k + shape.capacity) :
    shape.slot k ≠ shape.slot n := by
  intro same
  have positive := shape.positive
  have divides : shape.capacity ∣ n - k := (Nat.modEq_iff_dvd' (Nat.le_of_lt below)).mp same
  have := Nat.le_of_dvd (by omega) divides
  omega

theorem Fifo.distance (fifo : Fifo shape layout ring published taken) :
    shape.distance ring.writeIndex ring.readIndex = published.length - taken.length := by
  have smaller := shape.smaller
  have := fifo.ordered
  have := fifo.bounded
  rw [Shape.distance, fifo.write, fifo.read]
  have bound : taken.length % shape.modulus < shape.modulus := Nat.mod_lt _ (by omega)
  have whole := Nat.div_add_mod taken.length shape.modulus
  have split : published.length + (shape.modulus - taken.length % shape.modulus) =
      (published.length - taken.length) + shape.modulus * (taken.length / shape.modulus + 1) := by
    rw [Nat.mul_add]
    omega
  rw [Nat.mod_add_mod, split, Nat.add_mul_mod_self_left, Nat.mod_eq_of_lt (by omega)]

theorem Fifo.empty_iff (fifo : Fifo shape layout ring published taken) :
    ring.readIndex = ring.writeIndex ↔ taken.length = published.length := by
  constructor
  · intro same
    have distance := fifo.distance
    have smaller := shape.smaller
    have bound : ring.writeIndex < shape.modulus := by
      rw [fifo.write]
      exact Nat.mod_lt _ (by omega)
    rw [same, Shape.distance, Nat.add_sub_cancel' (Nat.le_of_lt bound), Nat.mod_self] at distance
    have := fifo.ordered
    omega
  · intro same
    rw [fifo.read, fifo.write, same]

theorem Fifo.put [DecidableEq ι] (fifo : Fifo shape layout ring published taken)
    (room : published.length < taken.length + shape.capacity) (i : ι) (value : α) :
    Fifo shape layout (ring.put (shape.slot published.length) i value) published taken := by
  refine ⟨fifo.write, fifo.read, fifo.ordered, fifo.bounded, fifo.took, ?_⟩
  intro k record waiting found
  have below : k < published.length := (List.getElem?_eq_some_iff.mp found).1
  have apart := slot_ne shape below (by omega)
  simp only [Ring.put, Function.update_of_ne apart]
  exact fifo.waits k record waiting found

theorem Fifo.publish (fifo : Fifo shape layout ring published taken)
    (room : published.length < taken.length + shape.capacity) {record : ι → α}
    (written : layout.Agree record (ring.slots (shape.slot published.length))) :
    Fifo shape layout { ring with writeIndex := shape.next ring.writeIndex } (published ++ [record]) taken := by
  have ordered := fifo.ordered
  constructor
  · simp only [fifo.write, next_mod, List.length_append, List.length_singleton]
  · exact fifo.read
  · grind
  · grind
  · intro k other copy found copied
    exact fifo.took k other copy (by grind) copied
  · intro k other waiting found
    rw [List.getElem?_append] at found
    split at found
    · exact fifo.waits k other waiting found
    · obtain rfl : k = published.length := by grind
      grind

theorem Fifo.advance (fifo : Fifo shape layout ring published taken) {record copy : ι → α}
    (oldest : published[taken.length]? = some record) (agree : layout.Agree record copy) :
    Fifo shape layout { ring with readIndex := shape.next ring.readIndex } published (taken ++ [copy]) := by
  have bounded := fifo.bounded
  constructor
  · exact fifo.write
  · simp only [fifo.read, next_mod, List.length_append, List.length_singleton]
  · grind
  · grind
  · intro k other copy' found copied
    rw [List.getElem?_append] at copied
    split at copied
    · exact fifo.took k other copy' found copied
    · obtain rfl : k = taken.length := by grind
      grind
  · intro k other waiting found
    exact fifo.waits k other (by grind) found

theorem Fifo.slot_write (fifo : Fifo shape layout ring published taken) :
    shape.slot ring.writeIndex = shape.slot published.length := by
  rw [fifo.write, slot_mod]

theorem Fifo.slot_read (fifo : Fifo shape layout ring published taken) :
    shape.slot ring.readIndex = shape.slot taken.length := by
  rw [fifo.read, slot_mod]

theorem Runs.load (runs : Runs shape layout s) (ran : load s = some s') : Runs shape layout s' := by
  rcases load_eq ran with ⟨_, rfl⟩
  exact ⟨runs.fifo, rfl, runs.empties⟩

theorem Runs.check {record : ι → α} (runs : Runs shape layout s) (ran : check shape layout record s = some s') :
    Runs shape layout s' := by
  rcases check_eq ran with ⟨writeIndex, producer, rfl⟩
  have fills := runs.fills
  rw [producer] at fills
  have same : writeIndex = s.ring.writeIndex := fills
  subst same
  refine ⟨runs.fifo, ?_, runs.empties⟩
  dsimp only
  split
  · trivial
  · rename_i room
    rw [runs.fifo.distance] at room
    have ordered := runs.fifo.ordered
    refine ⟨rfl, ?_, fun i field missing => absurd field missing⟩
    dsimp only
    omega

theorem Runs.fill [DecidableEq ι] (runs : Runs shape layout s) (ran : fill shape s = some s') :
    Runs shape layout s' := by
  rcases fill_eq ran with ⟨writeIndex, record, i, todo, producer, rfl⟩
  have fills := runs.fills
  rw [producer] at fills
  rcases fills with ⟨same, room, written⟩
  subst same
  rw [runs.fifo.slot_write]
  refine ⟨runs.fifo.put room i (record i), ⟨rfl, room, ?_⟩, runs.empties⟩
  intro j field rest
  simp only [Ring.put, Function.update_self]
  by_cases new : j = i
  · rw [new, Function.update_self]
  · rw [Function.update_of_ne new]
    exact written j field (by grind)

theorem Runs.publish (runs : Runs shape layout s) (ran : publish shape s = some s') : Runs shape layout s' := by
  rcases publish_eq ran with ⟨writeIndex, record, producer, rfl⟩
  have fills := runs.fills
  rw [producer] at fills
  rcases fills with ⟨same, room, written⟩
  subst same
  refine ⟨runs.fifo.publish room fun i field => written i field List.not_mem_nil, trivial, ?_⟩
  have empties := runs.empties
  cases consumer : s.consumer with
  | idle => trivial
  | copying copied todo =>
    rw [consumer] at empties
    rcases empties with ⟨oldest, found, agree⟩
    refine ⟨oldest, ?_, agree⟩
    exact (List.getElem?_append_left (List.getElem?_eq_some_iff.mp found).1).trans found

theorem Runs.start {garbage : ι → α} (runs : Runs shape layout s) (ran : start layout garbage s = some s') :
    Runs shape layout s' := by
  rcases start_eq ran with ⟨_, nonempty, rfl⟩
  rw [Ne, runs.fifo.empty_iff] at nonempty
  have below : s.taken.length < s.published.length := Nat.lt_of_le_of_ne runs.fifo.ordered nonempty
  refine ⟨runs.fifo, runs.fills, s.published[s.taken.length], List.getElem?_eq_getElem below, ?_⟩
  intro i field missing
  exact absurd (layout.complete _ i field) missing

theorem Runs.copy [DecidableEq ι] (runs : Runs shape layout s) (ran : copy shape s = some s') :
    Runs shape layout s' := by
  rcases copy_eq ran with ⟨copied, i, todo, consumer, rfl⟩
  have empties := runs.empties
  rw [consumer] at empties
  rcases empties with ⟨oldest, found, agree⟩
  refine ⟨runs.fifo, runs.fills, oldest, found, ?_⟩
  intro j field rest
  by_cases new : j = i
  · rw [new, Function.update_self, runs.fifo.slot_read]
    exact runs.fifo.waits _ oldest (Nat.le_refl _) found i (new ▸ field)
  · rw [Function.update_of_ne new]
    exact agree j field (by grind)

theorem Runs.copied {copied : ι → α} (runs : Runs shape layout s) (consumer : s.consumer = .copying copied []) :
    ∃ record, s.published[s.taken.length]? = some record ∧ layout.Agree record copied := by
  have empties := runs.empties
  rw [consumer] at empties
  rcases empties with ⟨oldest, found, agree⟩
  exact ⟨oldest, found, fun i field => agree i field List.not_mem_nil⟩

theorem Runs.advance (runs : Runs shape layout s) (ran : advance shape s = some s') : Runs shape layout s' := by
  rcases advance_eq ran with ⟨copied, consumer, rfl⟩
  rcases runs.copied consumer with ⟨oldest, found, agree⟩
  refine ⟨runs.fifo.advance found agree, ?_, trivial⟩
  have fills := runs.fills
  cases producer : s.producer with
  | idle => trivial
  | loaded writeIndex =>
    rw [producer] at fills
    exact fills
  | filling writeIndex record todo =>
    rw [producer] at fills
    rcases fills with ⟨same, room, written⟩
    refine ⟨same, ?_, written⟩
    simp only [List.length_append, List.length_singleton]
    omega

end Spsc
