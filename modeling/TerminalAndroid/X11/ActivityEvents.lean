import Mathlib.Algebra.GroupWithZero.Nat
import Mathlib.Data.List.TakeWhile
import TerminalAndroid.X11.EventWire

namespace Lorie.Activity

open Framing

inductive Message where
  | clipboard (data : CString)
  | requestClipboard
  | removeBuffer (id : UInt64)
  | focusChanged
deriving DecidableEq

def Message.bytes : Message → List UInt8
  | .clipboard data => clipboardSendEvent data.bytes.length ++ data.bytes
  | .requestClipboard => event .clipboardRequest []
  | .removeBuffer id => removeBufferEvent id
  | .focusChanged => event .windowFocusChanged []

inductive Call where
  | setClipboardText (text : List UInt8)
  | requestClipboard
  | addBuffer
  | removeBuffer (id : UInt64)
  | resetIme
deriving DecidableEq

def Message.call : Message → Call
  | .clipboard data => .setClipboardText data.bytes
  | .requestClipboard => .requestClipboard
  | .removeBuffer id => .removeBuffer id
  | .focusChanged => .resetIme

section Decoder

-- How many of the unread bytes LorieBuffer_recvHandleFromUnixSocket takes. No message here carries a buffer, so it
-- runs only where the decoder has lost its place.
variable (recvHandle : List UInt8 → Nat)

/-- One pass from `again` to the next look at the socket, or `none` where a read waits for ever. -/
def pass (unread : List UInt8) : Option (List Call × List UInt8) :=
  let e := unread.take eventSize
  let rest := unread.drop eventSize
  if unread.length < eventSize then some ([], [])
  else
    match typeOf e with
    | some .clipboardSend =>
      if countOf e = 0 then some ([], rest)
      else if rest = [] then none
      else
        -- the array has room for the final zero, and the read asks for the whole array
        let clipboard := (rest.take (countOf e + 1)).take (countOf e)
        some ([.setClipboardText (clipboard.takeWhile (· != 0))], rest.drop (countOf e + 1))
    | some .clipboardRequest => some ([.requestClipboard], rest)
    -- one byte comes with a file descriptor, and none of the bytes sent here has one
    | some .sharedServerState => if rest = [] then none else some ([], rest.drop 1)
    | some .addBuffer => some ([.addBuffer], rest.drop (recvHandle rest))
    | some .removeBuffer => some ([.removeBuffer (idOf e)], rest)
    | some .windowFocusChanged => some ([.resetIme], rest)
    | _ => some ([], rest)

variable {recvHandle} {unread rest : List UInt8} {calls : List Call}

variable (recvHandle)

def passes : Nat → List UInt8 → List Call
  | 0, _ => []
  | fuel + 1, unread =>
    if unread = [] then []
    else
      match pass recvHandle unread with
      | none => []
      | some (calls, rest) => calls ++ passes fuel rest

variable {recvHandle} {fuel more : Nat}

end Decoder

section Messages

variable {recvHandle : List UInt8 → Nat} {messages : List Message}

end Messages

end Lorie.Activity
