import Mathlib.Tactic.Common

namespace TermuxGui.ConnectionHandler

/-- What `run` meets: whether the sockets connect and whose they are, the bytes on the main socket before the peer closes
it, whether the answer can be written, after how many turns of the handshake the service is destroyed, and whether
`handleConnection` ends with an exception. -/
structure Peer where
  connects : Bool
  sameUid : Bool
  sent : List UInt8
  writable : Bool
  destroyed : Option Nat
  throws : Bool

def accepted (protocol : UInt8) : Bool :=
  let pversion := (protocol &&& 0xf0) >>> 4
  let ptype := protocol &&& 0x0f
  !((ptype != 1 && ptype != 0) || (ptype == 1 && pversion != 0) || (ptype == 0 && pversion != 0))

/-- The loop around `main.inputStream.read()`, which returns -1 at the end of the stream: the byte, or an exception.
There is no result while it turns. -/
def handshake (p : Peer) : Nat → Nat → Option (Option UInt8)
  | 0, _ => none
  | fuel + 1, turn =>
    if p.destroyed.any (· ≤ turn) then some none
    else match p.sent with
      | protocol :: _ => some (some protocol)
      | [] => handshake p fuel (turn + 1)

def watched (p : Peer) : Option UInt8 → Bool
  | none => false
  | some protocol => p.writable && (!accepted protocol || !p.throws)

def run (p : Peer) (fuel : Nat) : Option Bool :=
  if !p.connects then some false
  else if !p.sameUid then some true
  else (handshake p fuel 0).map (watched p)

variable {p : Peer} {fuel turn d : Nat}

end TermuxGui.ConnectionHandler
