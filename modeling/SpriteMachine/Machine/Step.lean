import SpriteMachine.Machine.Execute

/-! One step of the machine: fetch the word at the counter, decode it and execute the instruction. The
first error halts the machine for good. -/

namespace SpriteMachine.Machine

variable {G : Type} [Generator G]

def halt (machine : Machine G) (fault : Fault) : Machine G :=
  { machine with fault := some fault }

/-- The instruction sees only the keys of its own step. -/
def step (machine : Machine G) (keys : Keypad) : Except Fault Outcome × Machine G :=
  if machine.isHalted then (.error .halted, machine)
  else
    match machine.memory.fetch machine.counter with
    | .error cause => (.error (.fetch cause), { machine with keys := keys }.halt (.fetch cause))
    | .ok word =>
      match { machine with keys := keys, word := word }.execute (Instruction.decode word) with
      | (.ok outcome, after) => (.ok outcome, after)
      | (.error fault, after) => (.error fault, after.halt fault)

theorem step_of_halted {machine : Machine G} (halted : machine.isHalted = true) (keys : Keypad) :
    machine.step keys = (.error .halted, machine) := by
  simp [step, halted]

theorem step_of_fetch_error {machine : Machine G} {cause : FetchFault}
    (running : machine.isHalted = false) (failed : machine.memory.fetch machine.counter = .error cause)
    (keys : Keypad) :
    machine.step keys =
      (.error (.fetch cause), { machine with keys := keys, fault := some (.fetch cause) }) := by
  simp [step, running, failed, halt]

theorem isHalted_of_step_error {machine : Machine G} {keys : Keypad} {fault : Fault}
    (failed : (machine.step keys).1 = .error fault) : (machine.step keys).2.isHalted = true := by
  revert failed
  unfold step
  split
  · exact fun _ => by assumption
  · split
    · exact fun _ => rfl
    · split
      · exact fun failed => nomatch failed
      · exact fun _ => rfl

structure Tally where
  proceeded : Nat := 0
  waiting : Nat := 0
  drew : Nat := 0
  unimplemented : Nat := 0
  rejected : Nat := 0
  failed : Nat := 0
  deriving DecidableEq, Repr

namespace Tally

def add (tally : Tally) : Except Fault Outcome → Tally
  | .ok .proceeded => { tally with proceeded := tally.proceeded + 1 }
  | .ok .waiting => { tally with waiting := tally.waiting + 1 }
  | .ok .drew => { tally with drew := tally.drew + 1 }
  | .ok (.unimplemented _) => { tally with unimplemented := tally.unimplemented + 1 }
  | .ok (.rejected _) => { tally with rejected := tally.rejected + 1 }
  | .error _ => { tally with failed := tally.failed + 1 }

end Tally

def runSteps (keys : Keypad) : Nat → Tally → Machine G → Tally × Machine G
  | 0, tally, machine => (tally, machine)
  | count + 1, tally, machine =>
    match machine.step keys with
    | (.ok outcome, after) => runSteps keys count (tally.add (.ok outcome)) after
    | (.error fault, after) => (tally.add (.error fault), after)

/-- What can happen to a machine from outside. -/
inductive Action where
  | step (keys : Keypad)
  | tick
  | present
  deriving DecidableEq

def act (machine : Machine G) : Action → Machine G
  | .step keys => (machine.step keys).2
  | .tick => machine.tick
  | .present => machine.present

def run (machine : Machine G) (actions : List Action) : Machine G :=
  actions.foldl act machine

@[simp] theorem run_nil (machine : Machine G) : machine.run [] = machine := rfl

@[simp] theorem run_cons (machine : Machine G) (action : Action) (later : List Action) :
    machine.run (action :: later) = (machine.act action).run later := rfl

theorem run_append (machine : Machine G) (first second : List Action) :
    machine.run (first ++ second) = (machine.run first).run second := by
  simp [run]

theorem run_replicate_tick (machine : Machine G) (count : Nat) :
    machine.run (List.replicate count .tick) = machine.ticks count := by
  induction count generalizing machine with
  | zero => exact machine.ticks_zero.symm
  | succ count ih =>
    rw [List.replicate_succ, run_cons, ih, Nat.add_comm, ticks_add]
    rfl

end SpriteMachine.Machine
