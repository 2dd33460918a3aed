import SpriteMachine.Machine.Advance
import SpriteMachine.Keypad.Basic
import SpriteMachine.Random.Generator
import SpriteMachine.Screen.Basic
import SpriteMachine.Timer

/-! The state of the virtual machine, with the generator of its random numbers as a parameter. -/

namespace SpriteMachine

def Machine.stackLimit : Nat := 16

/-- The call stack holds return addresses, the newest first, and `word` is the last one that was
fetched. -/
structure Machine (G : Type) where
  word : UInt16
  memory : Memory
  screen : Screen
  registers : Vector UInt8 16
  index : Nat
  counter : Nat
  stack : List Nat
  delay : Timer
  sound : Timer
  keys : Keypad
  random : G
  fault : Option Fault
  deriving DecidableEq

inductive Outcome where
  | proceeded
  | waiting
  | drew
  | unimplemented (word : UInt16)
  | rejected (fault : MemoryFault)
  deriving DecidableEq, Repr

namespace Machine

variable {G : Type}

def flagRegister : Register := 15

def fresh (memory : Memory) (screen : Screen) (random : G) : Machine G where
  word := 0
  memory := memory
  screen := screen
  registers := Vector.replicate 16 0
  index := 0
  counter := Memory.programStart
  stack := []
  delay := Timer.stopped
  sound := Timer.stopped
  keys := Keypad.released
  random := random
  fault := none

def isHalted (machine : Machine G) : Bool :=
  machine.fault.isSome

def register (machine : Machine G) (x : Register) : UInt8 :=
  machine.registers[x]

def setRegister (machine : Machine G) (x : Register) (value : UInt8) : Machine G :=
  { machine with registers := machine.registers.set x.val value x.isLt }

theorem register_setRegister (machine : Machine G) (x y : Register) (value : UInt8) :
    (machine.setRegister x value).register y = if x = y then value else machine.register y := by
  simp [register, setRegister, Vector.getElem_set, Fin.ext_iff]

def move (machine : Machine G) (advance : Advance) : Machine G :=
  { machine with counter := advance.apply machine.counter }

/-- Both timers count down, also when the machine has halted. -/
def ticks (machine : Machine G) (count : Nat) : Machine G :=
  { machine with delay := machine.delay.ticks count, sound := machine.sound.ticks count }

def tick (machine : Machine G) : Machine G :=
  machine.ticks 1

def present (machine : Machine G) : Machine G :=
  { machine with screen := machine.screen.present }

@[simp] theorem ticks_zero (machine : Machine G) : machine.ticks 0 = machine := by
  simp [ticks]

theorem ticks_add (machine : Machine G) (first second : Nat) :
    machine.ticks (first + second) = (machine.ticks first).ticks second := by
  simp only [ticks, Timer.ticks_add]

end Machine

end SpriteMachine
