import SpriteMachine.Machine.Step
import SpriteMachine.Ticker

/-! The loop around the machine. A turn polls the keyboard, then does what is due for the time that has
passed: steps, ticks of the timers, and at most one picture for the display. Steps end early when the
machine waits for a key, for the keys do not change within a turn. -/

namespace SpriteMachine

structure Rates where
  cpu : Nat := 500
  timer : Nat := 60
  frame : Nat := 60
  deriving DecidableEq, Repr

structure Host (G : Type) where
  machine : Machine G
  keys : Keypad
  cpu : Ticker
  timer : Ticker
  frame : Ticker
  deriving DecidableEq

inductive Poll where
  | keys (pressed : Keypad)
  | quit
  | failed (reason : String)
  deriving DecidableEq

inductive HostFault where
  | device (reason : String)
  | clock (cause : ClockOverflow)
  deriving DecidableEq, Repr

def HostFault.message : HostFault → String
  | device reason => reason
  | clock cause => cause.message

abbrev Picture := Vector Bool Screen.resolution

/-- A turn as it went: the steps and ticks made, the picture handed to the display, and whether to go
on. -/
structure Turn (G : Type) where
  host : Host G
  steps : Nat := 0
  ticks : Nat := 0
  offered : Option Picture := none
  result : Except HostFault Bool

/-- Steps in a row: the machine after them, their number, and the error that ended them. -/
structure Burst (G : Type) where
  machine : Machine G
  steps : Nat
  stop : Option Fault

namespace Machine

variable {G : Type} [Generator G]

def burstFrom (keys : Keypad) (done : Nat) : Nat → Machine G → Burst G
  | 0, machine => ⟨machine, done, none⟩
  | due + 1, machine =>
    match machine.step keys with
    | (.ok .waiting, after) => ⟨after, done + 1, none⟩
    | (.ok _, after) => burstFrom keys (done + 1) due after
    | (.error fault, after) => ⟨after, done + 1, some fault⟩

def burst (machine : Machine G) (keys : Keypad) (due : Nat) : Burst G :=
  if machine.isHalted then ⟨machine, 0, none⟩ else burstFrom keys 0 due machine

end Machine

namespace Host

variable {G : Type} [Generator G]

def start (machine : Machine G) (rates : Rates) : Host G where
  machine := machine
  keys := Keypad.released
  cpu := Ticker.ofHertz rates.cpu
  timer := Ticker.ofHertz rates.timer
  frame := Ticker.ofHertz rates.frame

/-- Hands the picture over if a frame is due and the screen has changed. It counts as shown even if the
display refuses it. -/
def offer (host : Host G) (frames : Nat) (refusal : Option String) :
    Host G × Option Picture × Except HostFault Bool :=
  if 0 < frames ∧ host.machine.screen.dirty = true then
    ({ host with machine := host.machine.present }, some host.machine.screen.pixels,
      match refusal with
      | none => .ok true
      | some reason => .error (.device reason))
  else (host, none, .ok true)

def due (host : Host G) (passed : Nat) : Except ClockOverflow ((Nat × Nat × Nat) × Host G) := do
  let (steps, cpu) ← host.cpu.due passed
  let (ticks, timer) ← host.timer.due passed
  let (frames, frame) ← host.frame.due passed
  return ((steps, ticks, frames), { host with cpu := cpu, timer := timer, frame := frame })

/-- One turn, in which the display refuses a picture for the given reason. -/
def advance (host : Host G) (poll : Poll) (passed : Nat) (refusal : Option String) : Turn G :=
  match poll with
  | .failed reason => { host := host, result := .error (.device reason) }
  | .quit => { host := host, result := .ok false }
  | .keys keys =>
    match host.due passed with
    | .error cause => { host := host, result := .error (.clock cause) }
    | .ok ((steps, ticks, frames), clocked) =>
      let burst := host.machine.burst keys steps
      let ticked := { clocked with keys := keys, machine := burst.machine.ticks ticks }
      let (shown, offered, result) := ticked.offer frames refusal
      { host := shown, steps := burst.steps, ticks := ticks, offered := offered, result := result }

def untilNext (host : Host G) : Nat :=
  min (min host.cpu.untilNext host.timer.untilNext) host.frame.untilNext

end Host

end SpriteMachine
