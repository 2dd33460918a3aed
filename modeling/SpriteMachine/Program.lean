import SpriteMachine.Memory.Basic
import SpriteMachine.FileTree

/-! A program that fits into memory, with its name. -/

namespace SpriteMachine

inductive ProgramFault where
  | unreadable (cause : FileFault)
  | tooLarge (size limit : Nat)
  deriving DecidableEq, Repr

def ProgramFault.message : ProgramFault → String
  | unreadable cause => "Unable to read the program: " ++ cause.message
  | tooLarge size limit =>
    "The program is " ++ Nat.repr size ++ " bytes long, but at most " ++ Nat.repr limit
      ++ " bytes fit into memory."

structure Program where
  name : String
  data : List UInt8
  fits : data.length ≤ Memory.programLimit

namespace Program

def ofBytes (name : String) (data : List UInt8) : Except ProgramFault Program :=
  if fits : data.length ≤ Memory.programLimit then .ok ⟨name, data, fits⟩
  else .error (.tooLarge data.length Memory.programLimit)

theorem ofBytes_of_lt {name : String} {data : List UInt8} (large : Memory.programLimit < data.length) :
    ofBytes name data = .error (.tooLarge data.length Memory.programLimit) := by
  simp [ofBytes, Nat.not_le_of_lt large]

/-- A program is called after the last component of its path. -/
def nameOfPath (path : String) : String :=
  match ((FileTree.components path).filter fun part => part != "" && part != ".").getLast? with
  | some name => if name = ".." then path else name
  | none => path

def ofFile (path : String) (contents : Except FileFault (List UInt8)) : Except ProgramFault Program :=
  match contents with
  | .error cause => .error (.unreadable cause)
  | .ok data => ofBytes (nameOfPath path) data

def memory (program : Program) : Memory :=
  Memory.initial.store Memory.programStart program.data

theorem end_le (program : Program) : Memory.programStart + program.data.length ≤ Memory.size :=
  Memory.programStart_add_le_iff.2 program.fits

theorem loadProgram_data (program : Program) :
    Memory.initial.loadProgram program.data = .ok program.memory :=
  Memory.writeSlice_of_le _ program.end_le

end Program

end SpriteMachine
