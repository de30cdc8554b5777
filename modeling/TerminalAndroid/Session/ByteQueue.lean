import TerminalAndroid.Exec.Java

open Java

/-- A circular byte buffer. Its lock and the threads that wait for it are added where threads run. -/
structure ByteQueue where
  mBuffer : List UInt8
  mHead : Int
  mStoredBytes : Int
  mOpen : Bool
  deriving DecidableEq, Repr

abbrev QueueM := EStateM Throwable ByteQueue

/-- How a thread leaves the lock: it returns, or it calls `wait()` with the given local variables. `notifies`
    says that it called `notify()` before. -/
inductive Leave (α β : Type)
  | returns (value : α) (notifies : Bool)
  | waits (locals : β) (notifies : Bool)
  deriving DecidableEq, Repr

namespace ByteQueue

def create (size : Nat) : ByteQueue where
  mBuffer := List.replicate size 0
  mHead := 0
  mStoredBytes := 0
  mOpen := true

def close : QueueM Unit := modify fun queue => { queue with mOpen := false }

def readLoop : Nat → List UInt8 → Int → Int → Int → QueueM (Int × List UInt8)
  | fuel, buffer, length, offset, totalRead => do
    let queue ← get
    if 0 < length ∧ 0 < queue.mStoredBytes then
      match fuel with
      | 0 => throw .stackOverflow
      | fuel + 1 =>
        let bufferLength : Int := queue.mBuffer.length
        let oneRun := min (bufferLength - queue.mHead) queue.mStoredBytes
        let bytesToCopy := min length oneRun
        let buffer ← arraycopy queue.mBuffer queue.mHead buffer offset bytesToCopy
        let head := queue.mHead + bytesToCopy
        set { queue with
          mHead := if bufferLength ≤ head then 0 else head
          mStoredBytes := queue.mStoredBytes - bytesToCopy }
        readLoop fuel buffer (length - bytesToCopy) (offset + bytesToCopy) (totalRead + bytesToCopy)
    else pure (totalRead, buffer)

def read (buffer : List UInt8) (block : Bool) : QueueM (Leave (Int × List UInt8) Unit) := do
  let queue ← get
  if queue.mStoredBytes = 0 ∧ queue.mOpen then
    if block then pure (.waits () false) else pure (.returns (0, buffer) false)
  else if ¬ queue.mOpen then pure (.returns (-1, buffer) false)
  else
    let result ← readLoop buffer.length buffer buffer.length 0 0
    pure (.returns result (decide ((queue.mBuffer.length : Int) = queue.mStoredBytes)))

structure Writing where
  buffer : List UInt8
  offset : Int
  lengthToWrite : Int
  deriving DecidableEq, Repr

def writeRun (buffer : List UInt8) : Nat → Int → Int → QueueM Int
  | fuel, offset, bytesToWriteBeforeWaiting => do
    if 0 < bytesToWriteBeforeWaiting then
      match fuel with
      | 0 => throw .stackOverflow
      | fuel + 1 =>
        let queue ← get
        let bufferLength : Int := queue.mBuffer.length
        let behind := queue.mHead + queue.mStoredBytes
        let tail := if bufferLength ≤ behind then behind - bufferLength else behind
        let oneRun := if bufferLength ≤ behind then queue.mHead - tail else bufferLength - tail
        let bytesToCopy := min oneRun bytesToWriteBeforeWaiting
        let stored ← arraycopy buffer offset queue.mBuffer tail bytesToCopy
        set { queue with
          mBuffer := stored
          mStoredBytes := queue.mStoredBytes + bytesToCopy }
        writeRun buffer fuel (offset + bytesToCopy) (bytesToWriteBeforeWaiting - bytesToCopy)
    else pure offset

def writeLoop : Nat → Writing → Bool → QueueM (Leave Bool Writing)
  | fuel, writing, notified => do
    if 0 < writing.lengthToWrite then
      let queue ← get
      if (queue.mBuffer.length : Int) = queue.mStoredBytes ∧ queue.mOpen then pure (.waits writing notified)
      else if ¬ queue.mOpen then pure (.returns false notified)
      else
        match fuel with
        | 0 => throw .stackOverflow
        | fuel + 1 =>
          let bytesToWriteBeforeWaiting := min writing.lengthToWrite (queue.mBuffer.length - queue.mStoredBytes)
          let offset ← writeRun writing.buffer bytesToWriteBeforeWaiting.toNat writing.offset bytesToWriteBeforeWaiting
          writeLoop fuel
            { writing with offset := offset, lengthToWrite := writing.lengthToWrite - bytesToWriteBeforeWaiting }
            (notified || decide (queue.mStoredBytes = 0))
    else pure (.returns true notified)

def startWrite (buffer : List UInt8) (offset lengthToWrite : Int) : Except Throwable Writing :=
  if (buffer.length : Int) < lengthToWrite + offset then .error (.illegalArgument "length + offset > buffer.length")
  else if lengthToWrite ≤ 0 then .error (.illegalArgument "length <= 0")
  else .ok ⟨buffer, offset, lengthToWrite⟩

def write (writing : Writing) : QueueM (Leave Bool Writing) := writeLoop writing.lengthToWrite.toNat writing false

end ByteQueue
