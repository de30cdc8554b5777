import TerminalAndroid.Text.Fields

namespace AmSocketServer

inductive Outcome
  | readFails (error : List Nat)
  | parseFails (error : List Nat)
  | runFails (stdout stderr error : List Nat)
  | runs (stdout stderr : List Nat)

def sanitizeExitCode (exitCode : Int) : Nat := if exitCode < 0 ∨ 255 < exitCode then 1 else exitCode.toNat

def digits (exitCode : Nat) : List Nat := (Nat.toDigits 10 exitCode).map Char.toNat

def result (exitCode : Int) (stdout stderr : List Nat) : List Nat :=
  digits (sanitizeExitCode exitCode) ++ 0 :: (stdout ++ 0 :: stderr)

structure Answer where
  exitCode : Nat
  stdout : List Nat
  stderr : List Nat

structure Answer.Plain (a : Answer) : Prop where
  exitCode : a.exitCode < 256
  stdout : 0 ∉ a.stdout
  stderr : 0 ∉ a.stderr

/-- `exit_code\0stdout\0stderr`, which the documentation ends with one more NUL. -/
def Answer.message (a : Answer) : List Nat := digits a.exitCode ++ 0 :: (a.stdout ++ 0 :: a.stderr)

def Outcome.answer : Outcome → Answer
  | .readFails error | .parseFails error => ⟨1, [], error⟩
  | .runFails stdout stderr error => ⟨1, stdout, if stderr ≠ [] then stderr ++ 10 :: 10 :: error else error⟩
  | .runs stdout stderr => ⟨0, stdout, stderr⟩

end AmSocketServer
