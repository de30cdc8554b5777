import Mathlib.Data.List.Chain
import TerminalAndroid.Exec.Machine
import TerminalAndroid.X11.EventWire

namespace Lorie.Server

open Framing

def handled (e : List UInt8) : Bool :=
  match typeOf e with
  | some .screenSize | some .touch | some .stylus | some .stylusEnable | some .mouse | some .key | some .unicode
  | some .clipboardEnable | some .clipboardAnnounce | some .clipboardSend | some .rendererWakeupCond
  | some .gpuCopyDone | some .lockKeysState => true
  | _ => false

def payloadSize (e : List UInt8) : Nat :=
  match typeOf e with
  | some .screenSize => nameSizeOf e
  | some .clipboardSend => countOf e
  -- `ancil_recv_fd` receives one byte together with the descriptor
  | some .rendererWakeupCond => 1
  | _ => 0

def format : Format UInt8 := ⟨eventSize, by decide, payloadSize⟩

structure Message where
  frame : Frame UInt8
  framed : format.Framed frame
  isHandled : handled frame.head = true

section Senders

def sendClipboardEvent (text : List UInt8) (isArray : text.length < 2 ^ 31) : Message where
  frame := ⟨clipboardSendEvent text.length, text⟩
  framed := by
    refine ⟨length_clipboardSendEvent _, ?_⟩
    change text.length = countOf (clipboardSendEvent text.length)
    rw [countOf_clipboardSendEvent, Nat.mod_eq_of_lt (by omega)]
  isHandled := rfl

/-- `sendWindowChange`: the name is left out where the window has no size. -/
def windowName (width height : Int) (jname : Option CString) : List UInt8 :=
  match jname with
  | none => []
  | some name => if width ≤ 0 ∨ height ≤ 0 then [] else name.bytes

def sendWindowChange (width height framerate : Int) (jname : Option CString)
    (isString : (windowName width height jname).length < 2 ^ 64) : Message where
  frame :=
    let name := windowName width height jname
    ⟨screenSizeEvent (UInt16.ofInt width) (UInt16.ofInt height) (UInt16.ofInt framerate) name.length, name⟩
  framed := by
    refine ⟨length_screenSizeEvent .., ?_⟩
    change (windowName width height jname).length = nameSizeOf (screenSizeEvent _ _ _ _)
    rw [nameSizeOf_screenSizeEvent, Nat.mod_eq_of_lt isString]
  isHandled := rfl

/-- What `connect` writes: `ancil_send_fd` sends one exclamation mark with the descriptor. -/
def sendWakeupCond : Message where
  frame := ⟨event .rendererWakeupCond [], [33]⟩
  framed := by decide
  isHandled := rfl

/-- The types that `sendEvent` and `sendTextEvent` write with nothing behind them. -/
def isPlain : EventType → Bool
  | .touch | .stylus | .stylusEnable | .mouse | .key | .unicode | .clipboardEnable | .clipboardAnnounce
  | .lockKeysState => true
  | _ => false

def sendEvent (type : EventType) (fields : List UInt8) (plain : isPlain type = true)
    (fits : fields.length ≤ eventSize - 1) : Message where
  frame := ⟨event type fields, []⟩
  framed := by
    refine ⟨length_event type fits, ?_⟩
    change 0 = payloadSize (event type fields)
    cases type <;> first | rfl | cases plain
  isHandled := by
    cases type <;> first | rfl | cases plain

def notifyGpuCopyDone : Message where
  frame := ⟨event .gpuCopyDone [], []⟩
  framed := by decide
  isHandled := rfl

end Senders

section Writers

inductive Write where
  | header (message : Message)
  | payload (text : List UInt8)
  | copyDone

def Write.bytes : Write → List UInt8
  | .header message => message.frame.head
  | .payload text => text
  | .copyDone => notifyGpuCopyDone.frame.head

def Write.message? : Write → Option Message
  | .header message => some message
  | .payload _ => none
  | .copyDone => some notifyGpuCopyDone

def Write.byRenderer : Write → Bool
  | .copyDone => true
  | _ => false

def Message.writes (message : Message) : List Write :=
  .header message :: if message.frame.body = [] then [] else [.payload message.frame.body]

/-- The writes of the main thread for its messages, with any number of notices of the renderer's thread anywhere
between them. -/
def Interleaves (messages : List Message) (writes : List Write) : Prop :=
  writes.filter (!·.byRenderer) = messages.flatMap Message.writes

def written (writes : List Write) : List UInt8 := writes.flatMap Write.bytes

def sent (writes : List Write) : List (Frame UInt8) := (writes.filterMap Write.message?).map Message.frame

/-- No notice comes right behind a header that a payload belongs to, unless the payload reads as notices itself. -/
def Undisturbed : Write → Write → Prop
  | .header message, .copyDone => Repeats notifyGpuCopyDone.frame.head message.frame.body
  | _, _ => True

instance : ∀ first second, Decidable (Undisturbed first second)
  | .header message, .copyDone => inferInstanceAs (Decidable (Repeats _ message.frame.body))
  | .header _, .header _ | .header _, .payload _ | .payload _, _ | .copyDone, _ => isTrue trivial

inductive Blocks : List Write → Prop where
  | nil : Blocks []
  | copyDone {writes} (rest : Blocks writes) : Blocks (.copyDone :: writes)
  | bare {writes} (message : Message) (bare : message.frame.body = []) (rest : Blocks writes) :
      Blocks (.header message :: writes)
  | full {writes} (message : Message) (notices : Nat) (rest : Blocks writes) :
      Blocks (.header message :: (List.replicate notices .copyDone ++ .payload message.frame.body :: writes))

variable {messages : List Message} {writes : List Write}

theorem eq_notices_append {main : Write} {mains : List Write} (isMain : main.byRenderer = false)
    (filtered : writes.filter (!·.byRenderer) = main :: mains) :
    ∃ notices rest, writes = List.replicate notices .copyDone ++ main :: rest ∧ rest.filter (!·.byRenderer) = mains := by
  induction writes with
  | nil => cases filtered
  | cons write writes ih =>
    cases write with
    | copyDone =>
      obtain ⟨notices, rest, rfl, same⟩ := ih filtered
      exact ⟨notices + 1, rest, rfl, same⟩
    | _ =>
      obtain ⟨rfl, same⟩ := List.cons.inj filtered
      exact ⟨0, writes, rfl, same⟩

theorem Blocks.notices (notices : Nat) (blocks : Blocks writes) :
    Blocks (List.replicate notices .copyDone ++ writes) := by
  induction notices with
  | zero => exact blocks
  | succ notices ih => exact .copyDone ih

theorem Interleaves.blocks (interleaves : Interleaves messages writes) : Blocks writes := by
  unfold Interleaves at interleaves
  induction messages generalizing writes with
  | nil =>
    induction writes with
    | nil => exact .nil
    | cons write writes ih =>
      cases write with
      | copyDone => exact .copyDone (ih interleaves)
      | _ => cases interleaves
  | cons message messages ih =>
    rw [List.flatMap_cons, Message.writes, List.cons_append] at interleaves
    obtain ⟨notices, rest, rfl, same⟩ := eq_notices_append rfl interleaves
    apply Blocks.notices
    by_cases bare : message.frame.body = []
    · rw [if_pos bare, List.nil_append] at same
      exact .bare message bare (ih same)
    · rw [if_neg bare, List.singleton_append] at same
      obtain ⟨between, others, rfl, sameOthers⟩ := eq_notices_append rfl same
      exact .full message between (ih sameOthers)

theorem isChain_copyDone : (Write.copyDone :: writes).IsChain Undisturbed ↔ writes.IsChain Undisturbed := by
  rw [List.isChain_cons]
  exact and_iff_right fun _ _ => trivial

theorem isChain_bare {message : Message} (bare : message.frame.body = []) :
    (Write.header message :: writes).IsChain Undisturbed ↔ writes.IsChain Undisturbed := by
  rw [List.isChain_cons]
  apply and_iff_right
  intro next _
  cases next with
  | copyDone =>
    change Repeats _ message.frame.body
    rw [bare]
    rfl
  | _ => trivial

theorem isChain_notices (notices : Nat) (text : List UInt8) :
    (List.replicate notices Write.copyDone ++ .payload text :: writes).IsChain Undisturbed ↔
      writes.IsChain Undisturbed := by
  induction notices with
  | zero =>
    rw [List.replicate_zero, List.nil_append, List.isChain_cons]
    exact and_iff_right fun _ _ => trivial
  | succ notices ih => rw [List.replicate_succ, List.cons_append, isChain_copyDone, ih]

theorem isChain_full {message : Message} (notices : Nat) :
    (Write.header message ::
        (List.replicate notices .copyDone ++ .payload message.frame.body :: writes)).IsChain Undisturbed ↔
      (notices = 0 ∨ Repeats notifyGpuCopyDone.frame.head message.frame.body) ∧ writes.IsChain Undisturbed := by
  rw [List.isChain_cons, isChain_notices]
  apply and_congr_left
  intro _
  cases notices with
  | zero => simp [Undisturbed]
  | succ notices => simp [Undisturbed, List.replicate_succ]

theorem written_cons (write : Write) (writes : List Write) :
    written (write :: writes) = write.bytes ++ written writes := List.flatMap_cons

theorem flat_sent_header (message : Message) (writes : List Write) :
    flat (sent (.header message :: writes)) = message.frame.head ++ (message.frame.body ++ flat (sent writes)) := flat_cons

theorem sent_payload (text : List UInt8) (writes : List Write) : sent (.payload text :: writes) = sent writes := rfl

theorem flat_sent_copyDone (writes : List Write) :
    flat (sent (.copyDone :: writes)) = notifyGpuCopyDone.frame.head ++ flat (sent writes) := flat_cons

theorem written_notices (notices : Nat) (writes : List Write) :
    written (List.replicate notices .copyDone ++ writes) =
      (List.replicate notices notifyGpuCopyDone.frame.head).flatten ++ written writes := by
  induction notices with
  | zero => rfl
  | succ notices ih =>
    rw [List.replicate_succ, List.cons_append, written_cons, ih, List.replicate_succ, List.flatten_cons, List.append_assoc]
    rfl

theorem flat_sent_notices (notices : Nat) (writes : List Write) :
    flat (sent (List.replicate notices .copyDone ++ writes)) =
      (List.replicate notices notifyGpuCopyDone.frame.head).flatten ++ flat (sent writes) := by
  induction notices with
  | zero => rfl
  | succ notices ih =>
    rw [List.replicate_succ, List.cons_append, flat_sent_copyDone, ih, List.replicate_succ, List.flatten_cons,
      List.append_assoc]

theorem moved_iff (notices : Nat) (text bytes rest : List UInt8) :
    (List.replicate notices notifyGpuCopyDone.frame.head).flatten ++ (text ++ bytes) =
        text ++ ((List.replicate notices notifyGpuCopyDone.frame.head).flatten ++ rest) ↔
      (notices = 0 ∨ Repeats notifyGpuCopyDone.frame.head text) ∧ bytes = rest := by
  have swap : notices = 0 ∨ Repeats notifyGpuCopyDone.frame.head text →
      (List.replicate notices notifyGpuCopyDone.frame.head).flatten ++ text =
        text ++ (List.replicate notices notifyGpuCopyDone.frame.head).flatten := by
    rintro (rfl | repeats)
    · exact (List.append_nil text).symm
    · exact repeats.comm notices
  constructor
  · intro same
    have repeats : notices = 0 ∨ Repeats notifyGpuCopyDone.frame.head text := by
      cases notices with
      | zero => exact Or.inl rfl
      | succ notices =>
        rw [List.replicate_succ, List.flatten_cons, List.append_assoc, List.append_assoc] at same
        exact Or.inr (repeats_of_moved (by decide) notices same)
    rw [← List.append_assoc, ← List.append_assoc, swap repeats, List.append_cancel_left_eq] at same
    exact ⟨repeats, same⟩
  · rintro ⟨repeats, rfl⟩
    rw [← List.append_assoc, ← List.append_assoc, swap repeats]

theorem Blocks.written_iff (blocks : Blocks writes) :
    written writes = flat (sent writes) ↔ writes.IsChain Undisturbed := by
  induction blocks with
  | nil => exact iff_of_true rfl List.IsChain.nil
  | copyDone rest ih =>
    rw [isChain_copyDone, ← ih, written_cons, flat_sent_copyDone, Write.bytes, List.append_cancel_left_eq]
  | bare message bare rest ih =>
    rw [isChain_bare bare, ← ih, written_cons, flat_sent_header, bare, Write.bytes, List.nil_append,
      List.append_cancel_left_eq]
  | full message notices rest ih =>
    rw [isChain_full, ← ih, ← moved_iff, written_cons, flat_sent_header, written_notices, written_cons, flat_sent_notices,
      sent_payload, Write.bytes, Write.bytes, List.append_cancel_left_eq]

theorem Blocks.length_written (blocks : Blocks writes) : (written writes).length = (flat (sent writes)).length := by
  induction blocks with
  | nil => rfl
  | copyDone rest ih =>
    rw [written_cons, flat_sent_copyDone, Write.bytes, List.length_append, List.length_append, ih]
  | bare message bare rest ih =>
    rw [written_cons, flat_sent_header, bare, Write.bytes, List.nil_append, List.length_append, List.length_append, ih]
  | full message notices rest ih =>
    rw [written_cons, flat_sent_header, written_notices, written_cons, flat_sent_notices, sent_payload]
    simp only [Write.bytes, List.length_append, ih]
    omega

theorem framed_of_sent {frame : Frame UInt8} (mem : frame ∈ sent writes) :
    format.Framed frame ∧ handled frame.head = true := by
  obtain ⟨message, _, rfl⟩ := List.mem_map.mp mem
  exact ⟨message.framed, message.isHandled⟩

end Writers

section Reader

/-- The X server's side of the connection: the bytes not read yet, the event whose payload is being read, and the
events handled so far. -/
structure Reader where
  unread : List UInt8
  held : List UInt8
  decoded : List (Frame UInt8)
deriving DecidableEq

inductive Read where
  | bytes (count : Nat)
  -- the clipboard is read from `conn_fd`, which may be another connection by then
  | elsewhere (data : List UInt8)
deriving DecidableEq

def Reader.handle (s : Reader) (frame : Frame UInt8) : Reader :=
  { s with decoded := if handled frame.head then s.decoded ++ [frame] else s.decoded }

/-- The first `read`, at `again`: a part of an event is dropped. Once the event is handled the function reads on or is
called again, and either way its next `read` is this one. -/
def readEvent (s : Reader) (count : Nat) : Option Reader :=
  if s.held = [] ∧ 0 < count ∧ count ≤ eventSize ∧ count ≤ s.unread.length then
    let e := s.unread.take count
    let rest := s.unread.drop count
    if count < eventSize then some { s with unread := rest }
    else if payloadSize e = 0 then some ({ s with unread := rest }.handle ⟨e, []⟩)
    else some { s with unread := rest, held := e }
  else none

/-- What the buffer of a payload holds after its one `read`: it was filled with zeros before. -/
def filled (size : Nat) (data : List UInt8) : List UInt8 := data ++ List.replicate (size - data.length) 0

def readPayload (s : Reader) (count : Nat) : Option Reader :=
  if s.held ≠ [] ∧ 0 < count ∧ count ≤ payloadSize s.held ∧ count ≤ s.unread.length then
    some ({ s with unread := s.unread.drop count, held := [] }.handle
      ⟨s.held, filled (payloadSize s.held) (s.unread.take count)⟩)
  else none

def readElsewhere (s : Reader) (data : List UInt8) : Option Reader :=
  if typeOf s.held = some .clipboardSend ∧ data.length ≤ payloadSize s.held then
    some ({ s with held := [] }.handle ⟨s.held, filled (payloadSize s.held) data⟩)
  else none

def step (s : Reader) : Read → Option Reader
  | .bytes count => if s.held = [] then readEvent s count else readPayload s count
  | .elsewhere data => readElsewhere s data

def start (stream : List UInt8) : Reader := ⟨stream, [], []⟩

def Whole (s : Reader) : Read → Prop
  | .bytes count => count = if s.held = [] then eventSize else payloadSize s.held
  | .elsewhere _ => False

instance (s : Reader) (read : Read) : Decidable (Whole s read) := by
  unfold Whole
  split <;> infer_instance

structure Parses (stream : List UInt8) (s : Reader) (frames : List (Frame UInt8)) : Prop where
  framed : ∀ frame ∈ frames, format.Framed frame
  decoded : s.decoded = frames.filter (handled ·.head)
  awaiting : format.Awaiting s.held
  parts : stream = flat frames ++ (s.held ++ s.unread)

variable {stream : List UInt8} {s s' : Reader} {count : Nat} {frames : List (Frame UInt8)}

theorem parses_start (stream : List UInt8) : Parses stream (start stream) [] :=
  ⟨(fun _ mem => by cases mem), rfl, Or.inl rfl, rfl⟩

theorem filled_take (full : count ≤ s.unread.length) : filled count (s.unread.take count) = s.unread.take count := by
  rw [filled, List.length_take, Nat.min_eq_left full, Nat.sub_self, List.replicate_zero, List.append_nil]

theorem decoded_handle (frame : Frame UInt8) (decoded : s.decoded = frames.filter (handled ·.head)) :
    (s.handle frame).decoded = (frames ++ [frame]).filter (handled ·.head) := by
  rw [List.filter_append, List.filter_singleton, ← decoded]
  unfold Reader.handle
  dsimp only
  cases handled frame.head with
  | false => exact (List.append_nil _).symm
  | true => rfl

theorem Parses.handle {frame : Frame UInt8} (parses : Parses stream s frames) (framed : format.Framed frame)
    (unread : s.held ++ s.unread = frame.head ++ (frame.body ++ s'.unread)) (held : s'.held = [])
    (decoded : s'.decoded = s.decoded) : Parses stream (s'.handle frame) (frames ++ [frame]) where
  framed := by
    intro other mem
    rcases List.mem_append.mp mem with old | new
    · exact parses.framed other old
    · rw [List.mem_singleton.mp new]
      exact framed
  decoded := decoded_handle frame (decoded.trans parses.decoded)
  awaiting := Or.inl held
  parts := by
    change _ = _ ++ (s'.held ++ s'.unread)
    rw [parses.parts, unread, flat_append, flat_cons, flat_nil, held, List.append_nil, List.nil_append, List.append_assoc,
      List.append_assoc]

theorem Parses.readEvent (parses : Parses stream s frames) (ran : readEvent s eventSize = some s') :
    ∃ frames, Parses stream s' frames := by
  unfold Server.readEvent at ran
  split at ran
  case isFalse => cases ran
  case isTrue can =>
    dsimp only at ran
    rw [if_neg (Nat.lt_irrefl _)] at ran
    have length : (s.unread.take eventSize).length = eventSize := by
      rw [List.length_take, Nat.min_eq_left can.2.2.2]
    split at ran
    case isTrue none =>
      cases ran
      refine ⟨_, parses.handle ⟨length, none.symm⟩ ?_ can.1 rfl⟩
      rw [can.1]
      exact (List.take_append_drop ..).symm
    case isFalse some =>
      cases ran
      refine ⟨frames, parses.framed, parses.decoded, Or.inr ⟨length, Nat.pos_of_ne_zero some⟩, ?_⟩
      dsimp only
      rw [List.take_append_drop, parses.parts, can.1, List.nil_append]

theorem Parses.readPayload (parses : Parses stream s frames) (ran : readPayload s (payloadSize s.held) = some s') :
    ∃ frames, Parses stream s' frames := by
  unfold Server.readPayload at ran
  split at ran
  case isFalse => cases ran
  case isTrue can =>
    cases ran
    rcases parses.awaiting with empty | ⟨length, _⟩
    · exact absurd empty can.1
    rw [filled_take can.2.2.2]
    have taken : (s.unread.take (payloadSize s.held)).length = payloadSize s.held := by
      rw [List.length_take, Nat.min_eq_left can.2.2.2]
    refine ⟨_, parses.handle ⟨length, taken⟩ ?_ rfl rfl⟩
    dsimp only
    rw [List.take_append_drop]

theorem Parses.step (read : Read) (parses : ∃ frames, Parses stream s frames) (whole : Whole s read)
    (stepped : step s read = some s') : ∃ frames, Parses stream s' frames := by
  obtain ⟨frames, parses⟩ := parses
  cases read with
  | elsewhere data => cases whole
  | bytes count =>
    unfold Server.step at stepped
    change count = _ at whole
    dsimp only at stepped
    split at stepped
    · next none =>
      rw [if_pos none] at whole
      exact parses.readEvent (whole ▸ stepped)
    · next some =>
      rw [if_neg some] at whole
      exact parses.readPayload (whole ▸ stepped)

end Reader

section Connection

variable {messages : List Message} {writes : List Write} {reads : List Read} {s : Reader}

/-- Where every read gets what it asks for, what has been decoded once all bytes are read is what was sent exactly if
no notice came between a header and its payload. -/
theorem handleLorieEvents_decodes_iff (interleaves : Interleaves messages writes)
    (whole : Machine.Meets step Whole (start (written writes)) reads)
    (ran : Machine.run step (start (written writes)) reads = some s) (finished : s.unread = []) :
    s.decoded = sent writes ↔ writes.IsChain Undisturbed := by
  have blocks := interleaves.blocks
  obtain ⟨frames, parses⟩ := Machine.keeps (P := fun s => ∃ frames, Parses (written writes) s frames)
    (fun _ read _ parses whole stepped => Parses.step read parses whole stepped) ⟨[], parses_start _⟩ whole ran
  have parts := parses.parts
  rw [finished, List.append_nil] at parts
  rw [← blocks.written_iff, parses.decoded]
  constructor
  · intro same
    have lengths := blocks.length_written
    rw [← same, parts, List.length_append] at lengths
    have all := filter_eq_of_length_flat (handled ·.head) parses.framed (by omega)
    rw [all] at same lengths
    rw [parts, same, List.length_eq_zero_iff.mp (show s.held.length = 0 by omega), List.append_nil]
  · intro same
    obtain ⟨rfl, _⟩ := flat_unique parses.framed (fun _ mem => (framed_of_sent mem).1) parses.awaiting (parts.symm.trans same)
    rw [List.filter_eq_self]
    exact fun _ mem => (framed_of_sent mem).2

theorem handleLorieEvents_decodes_clipboard :
    let text := sendClipboardEvent [65] (by decide)
    let writes := [.copyDone, .header text, .payload [65], .copyDone]
    Interleaves [text] writes ∧ ∃ reads s, Machine.Meets step Whole (start (written writes)) reads ∧
      Machine.run step (start (written writes)) reads = some s ∧ s.unread = [] ∧ s.decoded = sent writes := by
  have meets : Machine.Meets step Whole
      (start (written [.copyDone, .header (sendClipboardEvent [65] (by decide)), .payload [65], .copyDone]))
      [.bytes 24, .bytes 24, .bytes 1, .bytes 24] := by decide
  have interleaves : Interleaves [sendClipboardEvent [65] (by decide)]
      [.copyDone, .header (sendClipboardEvent [65] (by decide)), .payload [65], .copyDone] := rfl
  refine ⟨interleaves, _, _, meets, rfl, rfl, ?_⟩
  exact (handleLorieEvents_decodes_iff interleaves meets rfl rfl).mpr
    (by decide)

/-- The notice of a finished copy comes between the header of a clipboard text and the text: its first byte is taken
for the text, and the rest of it is read as an event of no known type. -/
theorem notice_splits_clipboard :
    let text := sendClipboardEvent [65] (by decide)
    let writes := [.header text, .copyDone, .payload [65]]
    Interleaves [text] writes ∧ ∃ reads s, Machine.run step (start (written writes)) reads = some s ∧
      s.unread = [] ∧ s.decoded = [⟨text.frame.head, [17]⟩] ∧ s.decoded ≠ sent writes :=
  ⟨rfl, [.bytes 24, .bytes 1, .bytes 24], _, rfl, rfl, by decide, by decide⟩

end Connection

end Lorie.Server
