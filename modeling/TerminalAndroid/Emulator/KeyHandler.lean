import TerminalAndroid.Emulator.State

namespace KeyHandler

inductive Key
  | dpadUp
  | dpadDown
  | dpadRight
  | dpadLeft
  | moveHome
  | moveEnd
  | f (number : Nat)
  | del
  | pageUp
  | pageDown
  | tab
  | forwardDel
  | insert
  | numpadEnter
  deriving DecidableEq, Repr

/-- The keys by name, with `KEYMOD_SHIFT`, the only modifier that occurs. -/
def termcapToKeycode : List (String × Key × Bool) :=
  [("%i", .dpadRight, true), ("#2", .moveHome, true), ("#4", .dpadLeft, true), ("*7", .moveEnd, true),
    ("k1", .f 1, false), ("k2", .f 2, false), ("k3", .f 3, false), ("k4", .f 4, false), ("k5", .f 5, false),
    ("k6", .f 6, false), ("k7", .f 7, false), ("k8", .f 8, false), ("k9", .f 9, false), ("k;", .f 10, false),
    ("F1", .f 11, false), ("F2", .f 12, false), ("F3", .f 1, true), ("F4", .f 2, true), ("F5", .f 3, true),
    ("F6", .f 4, true), ("F7", .f 5, true), ("F8", .f 6, true), ("F9", .f 7, true), ("FA", .f 8, true),
    ("FB", .f 9, true), ("FC", .f 10, true), ("FD", .f 11, true), ("FE", .f 12, true), ("kb", .del, false),
    ("kd", .dpadDown, false), ("kh", .moveHome, false), ("kl", .dpadLeft, false), ("kr", .dpadRight, false),
    ("K1", .moveHome, false), ("K3", .pageUp, false), ("K4", .moveEnd, false), ("K5", .pageDown, false),
    ("ku", .dpadUp, false), ("kB", .tab, true), ("kD", .forwardDel, false), ("kDN", .dpadDown, true),
    ("kF", .dpadDown, true), ("kI", .insert, false), ("kP", .pageUp, false), ("kN", .pageDown, false),
    ("kR", .dpadUp, true), ("kUP", .dpadUp, true), ("@7", .moveEnd, false), ("@8", .numpadEnter, false)]

def transformForModifiers (start : String) (shift : Bool) (lastChar : String) : String :=
  if shift then start ++ ";2" ++ lastChar else start ++ lastChar

def cursorKey (shift cursorApp : Bool) (lastChar : String) : String :=
  if shift then transformForModifiers "\x1b[1" shift lastChar
  else if cursorApp then "\x1bO" ++ lastChar
  else "\x1b[" ++ lastChar

def getCode (key : Key) (shift cursorApp keypadApplication : Bool) : Option String :=
  match key with
  | .dpadUp => some (cursorKey shift cursorApp "A")
  | .dpadDown => some (cursorKey shift cursorApp "B")
  | .dpadRight => some (cursorKey shift cursorApp "C")
  | .dpadLeft => some (cursorKey shift cursorApp "D")
  | .moveHome => some (cursorKey shift cursorApp "H")
  | .moveEnd => some (cursorKey shift cursorApp "F")
  | .f 1 => some (if shift then transformForModifiers "\x1b[1" shift "P" else "\x1bOP")
  | .f 2 => some (if shift then transformForModifiers "\x1b[1" shift "Q" else "\x1bOQ")
  | .f 3 => some (if shift then transformForModifiers "\x1b[1" shift "R" else "\x1bOR")
  | .f 4 => some (if shift then transformForModifiers "\x1b[1" shift "S" else "\x1bOS")
  | .f 5 => some (transformForModifiers "\x1b[15" shift "~")
  | .f 6 => some (transformForModifiers "\x1b[17" shift "~")
  | .f 7 => some (transformForModifiers "\x1b[18" shift "~")
  | .f 8 => some (transformForModifiers "\x1b[19" shift "~")
  | .f 9 => some (transformForModifiers "\x1b[20" shift "~")
  | .f 10 => some (transformForModifiers "\x1b[21" shift "~")
  | .f 11 => some (transformForModifiers "\x1b[23" shift "~")
  | .f 12 => some (transformForModifiers "\x1b[24" shift "~")
  | .f _ => none
  | .insert => some (transformForModifiers "\x1b[2" shift "~")
  | .forwardDel => some (transformForModifiers "\x1b[3" shift "~")
  | .pageUp => some (transformForModifiers "\x1b[5" shift "~")
  | .pageDown => some (transformForModifiers "\x1b[6" shift "~")
  | .del => some "\x7f"
  | .tab => some (if shift then "\x1b[Z" else "\t")
  | .numpadEnter => some (if keypadApplication then transformForModifiers "\x1bO" shift "M" else "\n")

def getCodeFromTermcap (termcap : List Nat) (cursorKeysApplication keypadApplication : Bool) : Option (List Nat) :=
  match termcapToKeycode.find? fun entry => TerminalEmulator.chars entry.1 == termcap with
  | none => none
  | some (_, key, shift) => (getCode key shift cursorKeysApplication keypadApplication).map TerminalEmulator.chars

end KeyHandler
