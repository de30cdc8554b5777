import TerminalAndroid.Framing.Frames

namespace Lorie

open Framing

inductive EventType where
  | unknown | sharedServerState | addBuffer | removeBuffer | screenSize | touch | mouse | key | stylus | stylusEnable
  | unicode | clipboardEnable | clipboardAnnounce | clipboardRequest | clipboardSend | windowFocusChanged
  | rendererWakeupCond | gpuCopyDone | lockKeysState
deriving DecidableEq, Repr

namespace EventType

def all : List EventType :=
  [unknown, sharedServerState, addBuffer, removeBuffer, screenSize, touch, mouse, key, stylus, stylusEnable, unicode,
    clipboardEnable, clipboardAnnounce, clipboardRequest, clipboardSend, windowFocusChanged, rendererWakeupCond,
    gpuCopyDone, lockKeysState]

def code (type : EventType) : UInt8 := UInt8.ofNat (all.idxOf type)

def ofCode (code : UInt8) : Option EventType := all[code.toNat]?

end EventType

structure CString where
  bytes : List UInt8
  noNul : 0 ∉ bytes
deriving DecidableEq

/-- `sizeof(lorieEvent)` on a 64-bit machine: the screen size with its length and its pointer is the longest member. -/
def eventSize : Nat := 24

def event (type : EventType) (fields : List UInt8) : List UInt8 :=
  type.code :: (fields ++ List.replicate (eventSize - 1 - fields.length) 0)

def clipboardSendEvent (count : Nat) : List UInt8 := event .clipboardSend (List.replicate 3 0 ++ numberBytes 4 count)

def removeBufferEvent (id : UInt64) : List UInt8 := event .removeBuffer (List.replicate 7 0 ++ numberBytes 8 id.toNat)

def screenSizeEvent (width height framerate : UInt16) (nameSize : Nat) : List UInt8 :=
  event .screenSize
    ([0] ++ numberBytes 2 width.toNat ++ numberBytes 2 height.toNat ++ numberBytes 2 framerate.toNat ++ numberBytes 8 nameSize)

def typeOf (e : List UInt8) : Option EventType := e.head?.bind EventType.ofCode

def countOf (e : List UInt8) : Nat := byteNumber ((e.drop 4).take 4)

def idOf (e : List UInt8) : UInt64 := UInt64.ofNat (byteNumber ((e.drop 8).take 8))

def nameSizeOf (e : List UInt8) : Nat := byteNumber ((e.drop 8).take 8)

theorem length_event {fields : List UInt8} (type : EventType) (fits : fields.length ≤ eventSize - 1) :
    (event type fields).length = eventSize := by
  rw [event, List.length_cons, List.length_append, List.length_replicate]
  unfold eventSize at *
  omega

theorem number_event (type : EventType) {before : List UInt8} {offset : Nat} (width n : Nat)
    (start : offset = before.length + 1) :
    byteNumber (((event type (before ++ numberBytes width n)).drop offset).take width) = n % 256 ^ width := by
  rw [event, start, List.drop_succ_cons, List.append_assoc, List.drop_left, List.take_left' (length_numberBytes ..),
    byteNumber_numberBytes]

@[simp] theorem length_clipboardSendEvent (count : Nat) : (clipboardSendEvent count).length = eventSize :=
  length_event _ (by rw [List.length_append, length_numberBytes]; decide)

@[simp] theorem length_screenSizeEvent (width height framerate : UInt16) (nameSize : Nat) :
    (screenSizeEvent width height framerate nameSize).length = eventSize :=
  length_event _ (by simp only [List.length_append, length_numberBytes, List.length_singleton]; decide)

theorem countOf_clipboardSendEvent (count : Nat) : countOf (clipboardSendEvent count) = count % 2 ^ 32 :=
  number_event .clipboardSend 4 count rfl

theorem nameSizeOf_screenSizeEvent (width height framerate : UInt16) (nameSize : Nat) :
    nameSizeOf (screenSizeEvent width height framerate nameSize) = nameSize % 2 ^ 64 := by
  apply number_event .screenSize 8 nameSize
  simp only [List.length_append, length_numberBytes, List.length_singleton]

end Lorie
