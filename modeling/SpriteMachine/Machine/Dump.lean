import SpriteMachine.Machine.Basic
import SpriteMachine.Memory.Dump

/-! The state of the machine as text. The stack is shown with all its places, the free ones as zero. -/

namespace SpriteMachine.Machine

open Dump (titled number numbers flags)

variable {G : Type}

/-- The places of the stack, the oldest first. -/
def stackPlaces (machine : Machine G) : List Nat :=
  machine.stack.reverse ++ List.replicate (stackLimit - machine.stack.length) 0

def dumpLines (machine : Machine G) : List String :=
  ["Chipset \x7b"]
    ++ titled "Opcode" (number machine.word.toNat)
    ++ titled "Program Counter" (number machine.counter)
    ++ titled "Index Register" (number machine.index)
    ++ titled "Delay Timer" (number machine.delay.value.toNat)
    ++ titled "Sound Timer" (number machine.sound.value.toNat)
    ++ titled "Memory" (machine.memory.dumpLines Dump.depth)
    ++ titled "Keyboard" (flags machine.keys.keys.toList)
    ++ titled "Stack" (numbers machine.stackPlaces)
    ++ titled "Register" (numbers (machine.registers.toList.map UInt8.toNat))
    ++ ["\x7d"]

def dump (machine : Machine G) : String :=
  Dump.joinLines machine.dumpLines

end SpriteMachine.Machine
