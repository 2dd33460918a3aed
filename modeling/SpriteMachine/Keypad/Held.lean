import SpriteMachine.Journal
import SpriteMachine.Keypad.Basic
import SpriteMachine.Text.Quoted

/-! The pad on a host keyboard. Hosts report presses but not reliably releases, so a key counts as held
for a while after it was last reported. Times are nanoseconds since the start. -/

namespace SpriteMachine

inductive KeyCode where
  | character (c : Char)
  | escape
  | other
  deriving DecidableEq, Repr

inductive KeyEventKind where
  | press
  | repeated
  | release
  deriving DecidableEq, Repr

/-- Of the modifiers only the control key matters. -/
structure KeyEvent where
  code : KeyCode
  control : Bool := false
  kind : KeyEventKind := .press
  deriving DecidableEq, Repr

namespace KeyEvent

def asksToQuit (event : KeyEvent) : Bool :=
  event.kind != .release &&
    match event.code with
    | .character c => c == 'c' && event.control
    | .escape => true
    | .other => false

def typed? (event : KeyEvent) : Option Char :=
  match event.code with
  | .character c => if event.kind = .release ∨ event.asksToQuit then none else some c
  | _ => none

end KeyEvent

structure HeldKeys where
  lastPress : Vector (Option Nat) 16
  deriving DecidableEq

namespace HeldKeys

abbrev Key := Fin 16

def hostLayout : List (List Char) :=
  [['1', '2', '3', '4'],
   ['q', 'w', 'e', 'r'],
   ['a', 's', 'd', 'f'],
   ['z', 'x', 'c', 'v']]

def holdMillis : Nat := 150

def holdTime : Nat := holdMillis * 1000000

def keyMap : List (Char × Fin 16) :=
  hostLayout.flatten.zip Keypad.layout.flatten

def keyFor? (c : Char) : Option (Fin 16) :=
  keyMap.lookup c.toLower

def empty : HeldKeys where
  lastPress := Vector.replicate 16 none

def press (held : HeldKeys) (key : Key) (now : Nat) : HeldKeys where
  lastPress := held.lastPress.set key.val (some now) key.isLt

def handle (held : HeldKeys) (event : KeyEvent) (now : Nat) : HeldKeys × Bool :=
  match event.typed?.bind keyFor? with
  | some key => (held.press key now, false)
  | none => (held, event.asksToQuit)

def handleRecords (event : KeyEvent) : List Journal.Record :=
  match event.typed? with
  | some c =>
    if (keyFor? c).isSome then []
    else [⟨.debug, "can't map " ++ Text.quoted c ++ " to a chipset key"⟩]
  | none => []

/-- A press in the future of `now` counts as made just now. -/
def isHeld (held : HeldKeys) (key : Key) (now : Nat) : Bool :=
  match held.lastPress[key] with
  | some pressed => now - pressed < holdTime
  | none => false

def snapshot (held : HeldKeys) (now : Nat) : Keypad where
  keys := Vector.ofFn fun key : Fin 16 => held.isHeld key now

theorem isHeld_empty (key : Fin 16) (now : Nat) : empty.isHeld key now = false := by
  simp [empty, isHeld]

theorem isHeld_press (held : HeldKeys) (key : Fin 16) (pressed : Nat) (key' : Fin 16) (now : Nat) :
    (held.press key pressed).isHeld key' now =
      if key = key' then decide (now - pressed < holdTime) else held.isHeld key' now := by
  by_cases same : key = key'
  · subst same
    simp [press, isHeld]
  · have apart : key.val ≠ key'.val := fun equal => same (Fin.ext equal)
    simp [press, isHeld, apart, same]

end HeldKeys

end SpriteMachine
