import SpriteMachine.Text.Hex

/-! What can go wrong inside the machine, each as its cause, and the sentence that reports it. -/

namespace SpriteMachine

open Text (hex)

structure MemoryFault where
  address : Nat
  size : Nat
  deriving DecidableEq, Repr

structure FetchFault where
  pointer : Nat
  size : Nat
  deriving DecidableEq, Repr

inductive StackFault where
  | full
  | empty
  deriving DecidableEq, Repr

inductive Fault where
  | fetch (cause : FetchFault)
  | stack (cause : StackFault)
  | memory (cause : MemoryFault)
  | halted
  deriving DecidableEq, Repr

def MemoryFault.message (fault : MemoryFault) : String :=
  "Address " ++ hex fault.address ++ " is out of range for a memory of " ++ hex fault.size ++ " bytes"

def FetchFault.message (fault : FetchFault) : String :=
  "Pointer location invalid there can not be an opcode at " ++ hex fault.pointer
    ++ ", if data len is " ++ hex fault.size

def StackFault.message : StackFault → String
  | full => "Stack is full!"
  | empty => "Stack is empty!"

def Fault.message : Fault → String
  | fetch cause => "Invalid opcode state '" ++ cause.message ++ "'."
  | stack cause => "Invalid stack state '" ++ cause.message ++ "'."
  | memory cause => "Invalid memory access '" ++ cause.message ++ "'."
  | halted => "The program was halted after a fatal fault and can not continue."

end SpriteMachine
