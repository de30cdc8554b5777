import TerminalAndroid.Emulator.Redraw

open Java Exec

namespace TerminalEmulator

inductive EditingOp
  | insertCharacters
  | deleteCharacters
  | insertLines
  | deleteLines
  | scrollUp
  | scrollDown
  | eraseCharacters
  | eraseInDisplay
  | eraseInLine
  | insertColumns
  | deleteColumns
  | copyRectangularArea
  | eraseRectangularArea
  | fillRectangularArea
  | backIndex
  | forwardIndex
  | reverseIndex
  | index
  | nextLine
  | lineFeed
  deriving DecidableEq, Repr

namespace EditingOp

variable {e : TerminalEmulator} {host : Host}

def sequence : EditingOp → Option EscapeState × Nat
  | insertCharacters => (some .csi, '@'.toNat)
  | deleteCharacters => (some .csi, 'P'.toNat)
  | insertLines => (some .csi, 'L'.toNat)
  | deleteLines => (some .csi, 'M'.toNat)
  | scrollUp => (some .csi, 'S'.toNat)
  | scrollDown => (some .csi, 'T'.toNat)
  | eraseCharacters => (some .csi, 'X'.toNat)
  | eraseInDisplay => (some .csi, 'J'.toNat)
  | eraseInLine => (some .csi, 'K'.toNat)
  | insertColumns => (some .csiSingleQuote, 125)
  | deleteColumns => (some .csiSingleQuote, '~'.toNat)
  | copyRectangularArea => (some .csiDollar, 'v'.toNat)
  | eraseRectangularArea => (some .csiDollar, 'z'.toNat)
  | fillRectangularArea => (some .csiDollar, 'x'.toNat)
  | backIndex => (some .esc, '6'.toNat)
  | forwardIndex => (some .esc, '9'.toNat)
  | reverseIndex => (some .esc, 'M'.toNat)
  | index => (some .esc, 'D'.toNat)
  | nextLine => (some .esc, 'E'.toNat)
  | lineFeed => (none, 10)

def Received (op : EditingOp) (e : TerminalEmulator) : Prop :=
  match op.sequence.1 with
  | some state => e.mEscapeState = state
  | none => ¬ e.Ignoring

theorem ends_state (op : EditingOp) {state : EscapeState} (sequence : op.sequence.1 = some state) (ready : e.Ready)
    (received : e.mEscapeState = state) : Ends (fun _ e' => e'.Ready) (doEscapeState host op.sequence.2) e := by
  refine Ends.get_bind ?_
  rw [received]
  cases op <;> cases sequence
  case insertCharacters => exact insertCharacters_ready ready
  case deleteCharacters => exact deleteCharacters_ready ready
  case insertLines => exact insertLines_ready ready
  case deleteLines => exact deleteLines_ready ready
  case scrollUp => exact Ends.get_bind (scrollUp_ready ready _)
  case scrollDown => exact Ends.get_bind (Ends.ite (fun _ => scrollDown_ready ready) fun _ => Ends.set { ready with })
  case eraseCharacters => exact eraseCharacters_ready ready
  case eraseInDisplay => exact eraseInDisplay_ready ready
  case eraseInLine => exact eraseInLine_ready ready
  case insertColumns => exact insertColumns_ready ready
  case deleteColumns => exact deleteColumns_ready ready
  case copyRectangularArea => exact copyRectangularArea_ready ready
  case eraseRectangularArea => exact fillRectangularArea_ready ready false false TerminalRow.space 0
  case fillRectangularArea => exact Ends.get_bind (fillRectangularArea_ready ready false false _ 1)
  case backIndex => exact backIndex_ready ready
  case forwardIndex => exact forwardIndex_ready ready
  case reverseIndex => exact reverseIndex_ready ready
  case index => exact doLinefeed_ready ready
  case nextLine => exact nextLine_ready ready

/-- From every state with the cursor on the screen, valid margins and well-formed rows the editing operations return, and such
a state is left. -/
theorem editing_completes (host : Host) (op : EditingOp) (e : TerminalEmulator) (ready : e.Ready) (received : op.Received e) :
    ∃ e', (processCodePoint host op.sequence.2).run e = .ok () e' ∧ e'.Ready := by
  unfold Received at received
  cases sequence : op.sequence.1 with
  | some state =>
    rw [sequence] at received
    have outside : ¬ e.Ignoring := by
      rw [Ignoring, received]
      cases op <;> cases sequence <;> decide
    have printable : 28 ≤ op.sequence.2 := by cases op <;> cases sequence <;> decide
    obtain ⟨⟨⟩, e', ran, ready'⟩ := @ends_processCodePoint e host TerminalCore.Ready op.sequence.2 outside printable
      (op.ends_state sequence { ready with } received)
    exact ⟨e', ran, ready'⟩
  | none =>
    rw [sequence] at received
    have feed : op.sequence.2 = 10 := by cases op <;> cases sequence; rfl
    obtain ⟨⟨⟩, e', ran, ready'⟩ := doLinefeed_ready ready
    rw [feed, run_processCodePoint_feed received]
    exact ⟨e', ran, ready'⟩

theorem editing_completes_insertLines : ∃ e',
    (processCodePoint plainHost insertLines.sequence.2).run { filledWith 4 2 120 with mEscapeState := .csi } = .ok () e' ∧
      e'.Ready :=
  editing_completes plainHost insertLines { filledWith 4 2 120 with mEscapeState := .csi }
    { @filledWith_ready 4 2 120 (by decide) (by decide) (by decide) (by decide) (by decide) with } rfl

end EditingOp

end TerminalEmulator
