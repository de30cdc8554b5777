import TerminalAndroid.Emulator.State

open Java

def Java.toInt (x : Int) : Int := x.bmod 0x100000000

/-- Rounding to the 53-bit significand of a `double`, ties to even, for a positive rational in the normal range. -/
def Java.roundDouble (x : Rat) : Rat :=
  let unit : Rat := (2 : Rat) ^ (Int.log 2 x - 52)
  let down := (x / unit).floor
  let rest := x / unit - down
  (if 1 / 2 < rest ∨ (rest = 1 / 2 ∧ down % 2 = 1) then down + 1 else down) * unit

namespace Host

def parseDigits (host : Host) (radix : Nat) : List Nat → Nat → Option Nat
  | [], value => some value
  | c :: text, value => (host.digit c radix).bind fun digit => parseDigits host radix text (value * radix + digit)

def parseInt (host : Host) (radix : Nat) (text : List Nat) : Option Int :=
  match text with
  | [] => none
  | c :: rest =>
    let negative := c = '-'.toNat
    let digits := if negative ∨ c = '+'.toNat then rest else text
    if digits = [] then none
    else
      (host.parseDigits radix digits 0).bind fun value =>
        let value : Int := if negative then -value else value
        if -0x80000000 ≤ value ∧ value ≤ 0x7fffffff then some value else none

end Host

namespace TerminalColors

def substring (text : List Nat) (start stop : Int) : Except Throwable (List Nat) :=
  if start < 0 ∨ text.length < stop ∨ stop < start then .error .indexOutOfBounds
  else .ok ((text.drop start.toNat).take (stop - start).toNat)

theorem substring_drop {text middle after : List Nat} {first : Nat} {stop : Int} (here : text.drop first = middle ++ after)
    (inside : first ≤ text.length) (last : stop = first + middle.length) : substring text first stop = .ok middle := by
  have length := congrArg List.length here
  rw [List.length_drop, List.length_append] at length
  have size : (stop - first).toNat = middle.length := by omega
  rw [substring, if_neg (by omega), Int.toNat_natCast, here, size, List.take_left]

theorem substring_middle {before middle after : List Nat} {start stop : Int} (first : start = before.length)
    (last : stop = before.length + middle.length) :
    substring (before ++ (middle ++ after)) start stop = .ok middle := by
  subst first
  exact substring_drop List.drop_left (by simp) last

/-- `(int) (Integer.parseInt(component, 16) * mult)`: the factor is a `double` and so is the product. -/
def component (host : Host) (componentLength : Int) (text : List Nat) : Option Int :=
  (host.parseInt 16 text).map fun value =>
    let mult := roundDouble (255 / ((2 : Rat) ^ (componentLength * 4) - 1))
    if value = 0 then 0
    else if 0 < value then (roundDouble (value * mult)).floor
    else -(roundDouble (-value * mult)).floor

/-- `parse` without its `catch`; `none` stands for an exception that it catches. -/
def parseColor (host : Host) (c : List Nat) : Option (BitVec 32) := do
  let first ← c.head?
  let skips : Option (Int × Int) :=
    if first = '#'.toNat then some (1, 0)
    else if (TerminalEmulator.chars "rgb:").isPrefixOf c then some (4, 1)
    else none
  match skips with
  | none => some 0
  | some (skipInitial, skipBetween) =>
    let charsForColors := c.length - skipInitial - 2 * skipBetween
    if charsForColors.tmod 3 ≠ 0 then some 0
    else
      let componentLength := charsForColors.tdiv 3
      let position1 := skipInitial + componentLength + skipBetween
      let position2 := position1 + componentLength + skipBetween
      let rString ← (substring c skipInitial (skipInitial + componentLength)).toOption
      let gString ← (substring c position1 (position1 + componentLength)).toOption
      let bString ← (substring c position2 (position2 + componentLength)).toOption
      let r ← component host componentLength rString
      let g ← component host componentLength gString
      let b ← component host componentLength bString
      some ((0xFF : BitVec 32) <<< 24 ||| BitVec.ofInt 32 r <<< 16 ||| BitVec.ofInt 32 g <<< 8 ||| BitVec.ofInt 32 b)

def parse (host : Host) (c : List Nat) : BitVec 32 := (parseColor host c).getD 0

end TerminalColors

namespace TerminalEmulator

def setCurrentColor (index : Int) (color : BitVec 32) : EmulatorM Unit := do
  if inside : 0 ≤ index ∧ index < TextStyle.numIndexedColors then
    modify fun e => { e with mColors := e.mColors.set index.toNat color (by omega) }
  else throw .indexOutOfBounds

def tryParseColor (host : Host) (intoIndex : Int) (textParameter : List Nat) : EmulatorM Unit := do
  let c := TerminalColors.parse host textParameter
  if c ≠ 0 then setCurrentColor intoIndex c

def resetColor (host : Host) (index : Int) : EmulatorM Unit := do
  let color ← readArray host.defaultColors.toList index
  setCurrentColor index color

end TerminalEmulator
