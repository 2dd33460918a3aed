/-! Journals: records with a level, and the buffer that holds written records back until it is
drained. -/

namespace SpriteMachine

namespace Journal

inductive Level where
  | error
  | warn
  | info
  | debug
  | trace
  deriving DecidableEq, Repr

structure Record where
  level : Level
  text : String
  deriving DecidableEq, Repr

/-- All writers share one buffer, so it holds their bytes in the order of writing. -/
structure Buffer where
  pending : List UInt8
  deriving DecidableEq, Repr

namespace Buffer

def empty : Buffer := ⟨[]⟩

def write (buffer : Buffer) (data : List UInt8) : Nat × Buffer :=
  (data.length, ⟨buffer.pending ++ data⟩)

def drain (buffer : Buffer) : List UInt8 × Buffer :=
  (buffer.pending, empty)

end Buffer

end Journal

end SpriteMachine
