import TerminalAndroid.Session.Fifo
import TerminalAndroid.Emulator.Utf8

open Java Utf16 ByteQueue Exec

namespace TerminalSession

/-- What the main thread needs of a session to write to its process: the process, and the bytes that the queue to it
    has taken so far. -/
structure Outgoing where
  mShellPid : Int
  taken : List UInt8
  deriving DecidableEq, Repr

abbrev OutgoingM := EStateM Throwable Outgoing

def queueWrite (buffer : List UInt8) (offset lengthToWrite : Int) : OutgoingM Unit := do
  let writing ← liftResult (startWrite buffer offset lengthToWrite)
  modify fun s => { s with taken := s.taken ++ writing.rest }

def write (data : List UInt8) (offset count : Int) : OutgoingM Unit := do
  let s ← get
  if 0 < s.mShellPid then queueWrite data offset count

/-- `String.getBytes(UTF_8)`: an unpaired surrogate becomes a question mark. -/
def getBytes : List Nat → List UInt8
  | [] => []
  | [c] => if isHighSurrogate c || isLowSurrogate c then [63] else (utf8 c).map UInt8.ofNat
  | c :: d :: rest =>
    if isHighSurrogate c && isLowSurrogate d then (utf8 (toCodePoint c d)).map UInt8.ofNat ++ getBytes rest
    else if isHighSurrogate c || isLowSurrogate c then 63 :: getBytes (d :: rest)
    else (utf8 c).map UInt8.ofNat ++ getBytes (d :: rest)

def writeText (data : List Nat) : OutgoingM Unit :=
  let bytes := getBytes data
  write bytes 0 bytes.length

def sendCodePoint (prependEscape : Bool) (codePoint : Int) : OutgoingM Unit := do
  let bytes ← liftResult (writeCodePoint prependEscape codePoint)
  write bytes 0 bytes.length

variable {s : Outgoing}

def Outgoing.taking (s : Outgoing) (bytes : List UInt8) : Outgoing := { s with taken := s.taken ++ bytes }

theorem Outgoing.taking_append (s : Outgoing) (first second : List UInt8) :
    (s.taking first).taking second = s.taking (first ++ second) := by
  simp only [taking, List.append_assoc]

theorem run_write (running : 0 < s.mShellPid) (data : List UInt8) :
    (write data 0 data.length).run s =
      if data = [] then .error (.illegalArgument "length <= 0") s else .ok () (s.taking data) := by
  have entered : (write data 0 data.length).run s = (queueWrite data 0 data.length).run s := by
    simp only [write, EStateM.run_bind, EStateM.run_get, running, if_true]
  rw [entered]
  cases data with
  | nil => rfl
  | cons byte rest =>
    have started : startWrite (byte :: rest) 0 (byte :: rest).length = .ok ⟨byte :: rest, 0, (byte :: rest).length⟩ := by
      unfold startWrite
      rw [if_neg (by omega), if_neg (by rw [List.length_cons]; omega)]
    have whole : Writing.rest ⟨byte :: rest, 0, (byte :: rest).length⟩ = byte :: rest := by
      simp only [Writing.rest, Int.toNat_zero, List.drop_zero, Int.toNat_natCast, List.take_length]
    rw [queueWrite, started, if_neg (List.cons_ne_nil _ _)]
    simp only [EStateM.run_bind, run_liftResult_ok, EStateM.run_modify, whole, Outgoing.taking]

theorem utf8_ne_nil (codePoint : Nat) : utf8 codePoint ≠ [] := by
  unfold utf8
  split_ifs <;> simp

theorem getBytes_eq_nil {text : List Nat} : getBytes text = [] ↔ text = [] := by
  match text with
  | [] => simp [getBytes]
  | [c] =>
    simp only [getBytes]
    split <;> simp [utf8_ne_nil]
  | c :: d :: rest =>
    simp only [getBytes]
    split_ifs <;> simp [utf8_ne_nil]

theorem run_writeText (running : 0 < s.mShellPid) (text : List Nat) :
    (writeText text).run s =
      if text = [] then .error (.illegalArgument "length <= 0") s else .ok () (s.taking (getBytes text)) := by
  have written := run_write running (getBytes text)
  simp only [getBytes_eq_nil] at written
  exact written

def encodeUtf8 (points : List Char) : List UInt8 := points.flatMap String.utf8EncodeChar

def decodeUtf8 (bytes : List UInt8) : Option (List Char) := bytes.toByteArray.utf8Decode?.map Array.toList

theorem decodeUtf8_encodeUtf8 (points : List Char) : decodeUtf8 (encodeUtf8 points) = some points := by
  rw [decodeUtf8, encodeUtf8, ← List.utf8Encode, List.utf8Decode?_utf8Encode, Option.map_some]

theorem toNat_charOfNat {codePoint : Nat} (scalar : codePoint.isValidChar) : (Char.ofNat codePoint).toNat = codePoint := by
  rw [Char.ofNat, dif_pos scalar]
  rfl

theorem encodeUtf8_injective : Function.Injective encodeUtf8 := by
  intro first second same
  have decoded := decodeUtf8_encodeUtf8 first
  rw [same, decodeUtf8_encodeUtf8] at decoded
  exact (Option.some.inj decoded).symm

theorem utf8_eq_utf8EncodeChar {codePoint : Nat} (scalar : codePoint.isValidChar) :
    (utf8 codePoint).map UInt8.ofNat = String.utf8EncodeChar (Char.ofNat codePoint) := by
  have value : (Char.ofNat codePoint).val.toNat = codePoint := toNat_charOfNat scalar
  simp only [Nat.isValidChar] at scalar
  unfold utf8 String.utf8EncodeChar
  simp only [value]
  by_cases one : codePoint < 0x80
  · rw [if_pos one, if_pos (by omega)]
    rfl
  by_cases two : codePoint < 0x800
  · rw [if_neg one, if_pos two, if_neg (by omega), if_pos (by omega), Nat.mod_eq_of_lt (by omega : codePoint / 64 < 32)]
    simp only [List.map_cons, List.map_nil, Nat.add_comm]
  by_cases three : codePoint < 0x10000
  · rw [if_neg one, if_neg two, if_pos three, if_neg (by omega), if_neg (by omega), if_pos (by omega),
      Nat.mod_eq_of_lt (by omega : codePoint / 4096 < 16)]
    simp only [List.map_cons, List.map_nil, Nat.add_comm]
  · rw [if_neg one, if_neg two, if_neg three, if_neg (by omega), if_neg (by omega), if_neg (by omega),
      Nat.mod_eq_of_lt (by omega : codePoint / 262144 < 8)]
    simp only [List.map_cons, List.map_nil, Nat.add_comm]

theorem encodeUtf8_cons {codePoint : Nat} (scalar : codePoint.isValidChar) (points : List Nat) :
    encodeUtf8 ((codePoint :: points).map Char.ofNat) =
      (utf8 codePoint).map UInt8.ofNat ++ encodeUtf8 (points.map Char.ofNat) := by
  rw [utf8_eq_utf8EncodeChar scalar]
  rfl

end TerminalSession
