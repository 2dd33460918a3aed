import SpriteMachine.Instruction.Text
import SpriteMachine.Journal
import SpriteMachine.Machine.Dump
import SpriteMachine.Machine.Step

/-! What the machine writes into the journal. The records of a step are read off the state before it and
its result, so executing does not depend on them. -/

namespace SpriteMachine.Machine

open Journal (Record)
open Text (hex)

variable {G : Type} [Generator G]

def executeRecords (machine : Machine G) (instruction : Instruction) : List Record :=
  match instruction, machine.execute instruction with
  | .unknown word, _ => [⟨.warn, "An unsupported opcode was used " ++ hex word.toNat⟩]
  | _, (.ok (.rejected fault), _) =>
    [⟨.warn, "Rejected opcode " ++ instruction.text ++ ": " ++ fault.message⟩]
  | .system .leave, (.ok _, after) => [⟨.debug, "return to " ++ hex after.counter⟩]
  | _, _ => []

/-- The last words of a machine, which does not count as halted yet. -/
def haltRecords (machine : Machine G) (fault : Fault) : List Record :=
  [⟨.error, "Halting at " ++ hex machine.counter ++ " after a fatal error: " ++ fault.message⟩,
    ⟨.error, machine.dump⟩]

def stepRecords (machine : Machine G) (keys : Keypad) : List Record :=
  if machine.isHalted then []
  else
    match machine.memory.fetch machine.counter with
    | .error cause => { machine with keys := keys }.haltRecords (.fetch cause)
    | .ok word =>
      let fetched := { machine with keys := keys, word := word }
      let instruction := Instruction.decode word
      let failure :=
        match fetched.execute instruction with
        | (.ok _, _) => []
        | (.error fault, after) => after.haltRecords fault
      ⟨.debug, "opcode " ++ hex word.toNat ++ " at " ++ hex machine.counter⟩
        :: fetched.executeRecords instruction ++ failure

def runStepsRecords (keys : Keypad) : Nat → Machine G → List Record
  | 0, _ => []
  | count + 1, machine =>
    let records := machine.stepRecords keys
    match machine.step keys with
    | (.ok _, after) => records ++ runStepsRecords keys count after
    | (.error _, _) => records

end SpriteMachine.Machine
