import TerminalAndroid.Session.ByteQueue

open Java ByteQueue

namespace TerminalSession

def writeCodePoint (prependEscape : Bool) (codePoint : Int) : Except Throwable (List UInt8) :=
  if 1114111 < codePoint ∨ (0xD800 ≤ codePoint ∧ codePoint ≤ 0xDFFF) then
    .error (.illegalArgument ("Invalid code point: " ++ toString codePoint))
  else
    let c : BitVec 32 := .ofInt 32 codePoint
    let byte (x : BitVec 32) : UInt8 := .ofBitVec (x.setWidth 8)
    let escape : List UInt8 := if prependEscape then [27] else []
    .ok <| escape ++
      if codePoint ≤ 0b1111111 then [byte c]
      else if codePoint ≤ 0b11111111111 then [byte (0b11000000 ||| c.sshiftRight 6), byte (0b10000000 ||| c &&& 0b111111)]
      else if codePoint ≤ 0b1111111111111111 then
        [byte (0b11100000 ||| c.sshiftRight 12), byte (0b10000000 ||| c.sshiftRight 6 &&& 0b111111),
          byte (0b10000000 ||| c &&& 0b111111)]
      else
        [byte (0b11110000 ||| c.sshiftRight 18), byte (0b10000000 ||| c.sshiftRight 12 &&& 0b111111),
          byte (0b10000000 ||| c.sshiftRight 6 &&& 0b111111), byte (0b10000000 ||| c &&& 0b111111)]

inductive Message
  | newInput
  | processExited (exitCode : Int)
  deriving DecidableEq, Repr

inductive Reader
  | reading
  | writing (locals : Writing)
  | sending
  | done
  deriving DecidableEq, Repr

inductive Main
  | idle
  | exiting (exitCode : Int)
  | cleaned (exitCode : Int)
  deriving DecidableEq, Repr

inductive Append
  | output (bytes : List UInt8)
  | completed (exitCode : Int)
  deriving DecidableEq, Repr

/-- The threads of a session, the queue between them, the messages of the main thread in the order they were sent,
    what was appended to the emulator so far, and, for the statements, every byte the reader has read. -/
structure Session where
  queue : ByteQueue
  reader : Reader
  waited : Bool
  messages : List Message
  main : Main
  appended : List Append
  received : List UInt8

def queueSize : Nat := 64 * 1024
def readerSize : Nat := 4096
def receiveSize : Nat := 64 * 1024

def Session.new : Session where
  queue := ByteQueue.create queueSize
  reader := .reading
  waited := false
  messages := []
  main := .idle
  appended := []
  received := []

def outputOf (bytesRead : Int) (receiveBuffer : List UInt8) : List Append :=
  if 0 < bytesRead then [.output (receiveBuffer.take bytesRead.toNat)] else []

/-- The steps of the threads. The reader's buffer and the number of bytes it gets are arbitrary, and it may find the
    end of the stream, or an error, at any time. -/
inductive Step : Session → Session → Prop
  | reads {s : Session} {buffer : List UInt8} {count : Nat} (idle : s.reader = .reading)
      (size : buffer.length = readerSize) (some : 1 ≤ count) (most : count ≤ readerSize) :
      Step s { s with reader := .writing ⟨buffer, 0, count⟩, received := s.received ++ buffer.take count }
  | ends {s : Session} (idle : s.reader = .reading) : Step s { s with reader := .done }
  | stores {s : Session} {locals locals' : Writing} {notifies : Bool} {queue' : ByteQueue}
      (busy : s.reader = .writing locals)
      (ran : (write locals).run s.queue = .ok (.waits locals' notifies) queue') :
      Step s { s with queue := queue', reader := .writing locals' }
  | stored {s : Session} {locals : Writing} {value notifies : Bool} {queue' : ByteQueue}
      (busy : s.reader = .writing locals)
      (ran : (write locals).run s.queue = .ok (.returns value notifies) queue') :
      Step s { s with queue := queue', reader := if value then .sending else .done }
  | sends {s : Session} (busy : s.reader = .sending) :
      Step s { s with reader := .reading, messages := s.messages ++ [.newInput] }
  | exits {s : Session} (exitCode : Int) (running : s.waited = false) :
      Step s { s with waited := true, messages := s.messages ++ [.processExited exitCode] }
  | handles {s : Session} {message : Message} {messages : List Message} {receiveBuffer buffer : List UInt8}
      {bytesRead : Int} {notifies : Bool} {queue' : ByteQueue} (idle : s.main = .idle)
      (next : s.messages = message :: messages) (size : receiveBuffer.length = receiveSize)
      (ran : (ByteQueue.read receiveBuffer false).run s.queue = .ok (.returns (bytesRead, buffer) notifies) queue') :
      Step s { s with
        queue := queue'
        messages := messages
        appended := s.appended ++ outputOf bytesRead buffer
        main := match message with
          | .newInput => .idle
          | .processExited exitCode => .exiting exitCode }
  | cleans {s : Session} {exitCode : Int} {queue' : ByteQueue} (busy : s.main = .exiting exitCode)
      (ran : ByteQueue.close.run s.queue = .ok () queue') :
      Step s { s with queue := queue', main := .cleaned exitCode }
  | completes {s : Session} {exitCode : Int} (busy : s.main = .cleaned exitCode) :
      Step s { s with main := .idle, appended := s.appended ++ [.completed exitCode] }

end TerminalSession
