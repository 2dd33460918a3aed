import SpriteMachine.Host.Script
import SpriteMachine.Machine.Journal

/-! What the host writes into the journal, in addition to the records of its machine. -/

namespace SpriteMachine

open Journal (Record)

variable {G : Type} [Generator G]

namespace Machine

def burstRecordsFrom (keys : Keypad) : Nat → Machine G → List Record
  | 0, _ => []
  | due + 1, machine =>
    let records := machine.stepRecords keys
    match machine.step keys with
    | (.ok .waiting, _) => records
    | (.ok _, after) => records ++ burstRecordsFrom keys due after
    | (.error fault, _) => records ++ [⟨.info, "Stopped executing: " ++ fault.message⟩]

def burstRecords (machine : Machine G) (keys : Keypad) (due : Nat) : List Record :=
  if machine.isHalted then [] else burstRecordsFrom keys due machine

end Machine

namespace Host

def turnRecords (host : Host G) (poll : Poll) (passed : Nat) : List Record :=
  match poll with
  | .failed _ | .quit => []
  | .keys keys =>
    match host.due passed with
    | .error _ => []
    | .ok ((steps, _, _), _) => host.machine.burstRecords keys steps

end Host

namespace Script

def runRecordsFrom : (polls : Nat) → Script → Host G → List Record
  | 0, _, _ => []
  | polls + 1, script, host =>
    let records := host.turnRecords script.poll 0
    let (turn, rest) := script.play host 0
    match turn.result with
    | .error _ => records
    | .ok false => records ++ [⟨.debug, "quit requested"⟩]
    | .ok true => records ++ runRecordsFrom polls rest turn.host

def runRecords (script : Script) (host : Host G) : List Record :=
  runRecordsFrom (script.polls.length + 1) script host

end Script

end SpriteMachine
