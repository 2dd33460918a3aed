import SpriteMachine.Dump.Bytes
import SpriteMachine.Memory.Basic

/-! The memory as text. -/

namespace SpriteMachine.Memory

def dumpLines (memory : Memory) (levels : Nat) : List String :=
  Dump.bytes levels memory.bytes.toList

def dump (memory : Memory) : String :=
  Dump.joinLines (memory.dumpLines 0)

end SpriteMachine.Memory
