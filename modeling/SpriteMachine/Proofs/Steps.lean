import SpriteMachine.Machine.Step
import SpriteMachine.Proofs.Effects
import SpriteMachine.Proofs.Obstacles

/-! The ways a step can go. `stepCase` tells the five of them apart, each with the condition for it and
the whole result, so that no later proof opens `step` again. `performs?` is the instruction that an
action carries out, as an observer of the results sees it. -/

namespace SpriteMachine

theorem Memory.fetch_store (memory : Memory) {start : Nat} {data : List UInt8}
    (fits : start + data.length ≤ size) {offset : Nat} {high low : UInt8}
    (first : data[offset]? = some high) (second : data[offset + 1]? = some low) :
    (memory.store start data).fetch (start + offset) = .ok (Word.ofBytes high low) := by
  have short : offset + 1 < data.length := (List.getElem?_eq_some_iff.1 second).1
  have inside : start + offset + 1 < size := by omega
  rw [fetch_of_lt _ inside, byte_store memory start data fits, byte_store memory start data fits,
    if_pos (by omega), if_pos (by omega), Nat.add_sub_cancel_left, Nat.add_assoc,
    Nat.add_sub_cancel_left, first, second, Option.getD_some, Option.getD_some]

namespace Advance

theorem apply_next_of_fetchable {counter : Nat} (inside : counter + 1 < Memory.size) :
    next.apply counter = counter + 2 := by
  apply apply_next
  simp only [Memory.size, Memory.addressLimit, Word.width] at *
  omega

theorem apply_skip_of_fetchable {counter : Nat} (inside : counter + 1 < Memory.size) :
    skip.apply counter = counter + 4 := by
  apply apply_skip
  simp only [Memory.size, Memory.addressLimit, Word.width] at *
  omega

end Advance

namespace Machine

variable {G : Type}

def fetched? (machine : Machine G) : Option UInt16 :=
  (machine.memory.fetch machine.counter).toOption

/-- The machine with the keys and the word of its next step. Without a word it keeps the last one. -/
def primed (machine : Machine G) (keys : Keypad) : Machine G :=
  { machine with keys := keys, word := machine.fetched?.getD machine.word }

theorem fetched?_eq_none_iff {machine : Machine G} :
    machine.fetched? = none ↔ Memory.size ≤ machine.counter + 1 := by
  rcases Nat.lt_or_ge (machine.counter + 1) Memory.size with inside | outside
  · simp [fetched?, Memory.fetch_of_lt _ inside, Except.toOption, Nat.not_le_of_lt inside]
  · simp [fetched?, Memory.fetch_of_le _ outside, Except.toOption, outside]

theorem counter_lt_of_fetched {machine : Machine G} {word : UInt16}
    (fetched : machine.fetched? = some word) : machine.counter + 1 < Memory.size := by
  refine Nat.lt_of_not_le fun outside => ?_
  rw [fetched?_eq_none_iff.2 outside] at fetched
  cases fetched

theorem fetched?_store {machine : Machine G} {memory : Memory} {start : Nat} {data : List UInt8}
    (stored : machine.memory = memory.store start data) (fits : start + data.length ≤ Memory.size)
    {offset : Nat} (pointed : machine.counter = start + offset) {high low : UInt8}
    (first : data[offset]? = some high) (second : data[offset + 1]? = some low) :
    machine.fetched? = some (Word.ofBytes high low) := by
  rw [fetched?, stored, pointed, memory.fetch_store fits first second]
  rfl

theorem fetch_of_fetched {machine : Machine G} {word : UInt16}
    (fetched : machine.fetched? = some word) :
    machine.memory.fetch machine.counter = .ok word := by
  have inside := counter_lt_of_fetched fetched
  rw [fetched?, Memory.fetch_of_lt _ inside] at fetched
  rw [Memory.fetch_of_lt _ inside]
  exact congrArg Except.ok (Option.some.inj fetched)

theorem primed_of_fetched {machine : Machine G} {word : UInt16}
    (fetched : machine.fetched? = some word) (keys : Keypad) :
    machine.primed keys = { machine with keys := keys, word := word } := by
  rw [primed, fetched, Option.getD_some]

@[simp] theorem fetched?_primed (machine : Machine G) (keys : Keypad) :
    (machine.primed keys).fetched? = machine.fetched? := rfl

@[simp] theorem isHalted_primed (machine : Machine G) (keys : Keypad) :
    (machine.primed keys).isHalted = machine.isHalted := rfl

@[simp] theorem primed_primed (machine : Machine G) (keys : Keypad) :
    (machine.primed keys).primed keys = machine.primed keys := by
  have again : machine.fetched?.getD (machine.fetched?.getD machine.word) =
      machine.fetched?.getD machine.word := by
    cases machine.fetched? <;> rfl
  exact congrArg (fun word => { machine with keys := keys, word := word }) again

@[simp] theorem obstacle?_primed (machine : Machine G) (keys : Keypad) (instruction : Instruction) :
    (machine.primed keys).obstacle? instruction = machine.obstacle? instruction :=
  obstacle?_congr rfl rfl rfl instruction

variable [Generator G]

/-- The ways a step can go, each with its result. -/
inductive StepCase (machine : Machine G) (keys : Keypad) : Prop
  | halted (stopped : machine.isHalted = true)
      (result : machine.step keys = (.error .halted, machine))
  | unfetched (running : machine.isHalted = false) (missing : machine.fetched? = none)
      (result : machine.step keys =
        (.error (.fetch ⟨machine.counter, Memory.size⟩),
          (machine.primed keys).halt (.fetch ⟨machine.counter, Memory.size⟩)))
  | performed (running : machine.isHalted = false) (word : UInt16)
      (fetched : machine.fetched? = some word)
      (clear : machine.obstacle? (.decode word) = none)
      (result : machine.step keys =
        (.ok ((machine.primed keys).effect (.decode word)).outcome,
          ((machine.primed keys).effect (.decode word)).machine.move
            ((machine.primed keys).effect (.decode word)).advance))
  | rejected (running : machine.isHalted = false) (word : UInt16)
      (fetched : machine.fetched? = some word) (cause : MemoryFault)
      (blocked : machine.obstacle? (.decode word) = some (.memory cause))
      (result : machine.step keys = (.ok (.rejected cause), (machine.primed keys).move .next))
  | failed (running : machine.isHalted = false) (word : UInt16)
      (fetched : machine.fetched? = some word) (cause : StackFault)
      (blocked : machine.obstacle? (.decode word) = some (.stack cause))
      (result : machine.step keys =
        (.error (.stack cause), (machine.primed keys).halt (.stack cause)))

theorem eq_of_execute_error {machine after : Machine G} {instruction : Instruction} {fault : Fault}
    (executed : machine.execute instruction = (.error fault, after)) : after = machine := by
  rcases blocked : machine.obstacle? instruction with _ | cause
  · rw [execute_of_clear blocked] at executed
    cases executed
  · cases cause with
    | memory cause =>
      rw [execute_of_memory blocked] at executed
      cases executed
    | _ =>
      simp only [execute, blocked, Prod.mk.injEq] at executed
      exact executed.2.symm

theorem step_of_executed {machine : Machine G} {keys : Keypad} {word : UInt16}
    (running : machine.isHalted = false) (fetched : machine.fetched? = some word) {outcome : Outcome}
    {after : Machine G}
    (executed : (machine.primed keys).execute (.decode word) = (.ok outcome, after)) :
    machine.step keys = (.ok outcome, after) := by
  rw [primed_of_fetched fetched] at executed
  simp [step, running, fetch_of_fetched fetched, executed]

theorem step_of_broken {machine : Machine G} {keys : Keypad} {word : UInt16}
    (running : machine.isHalted = false) (fetched : machine.fetched? = some word) {fault : Fault}
    {after : Machine G}
    (executed : (machine.primed keys).execute (.decode word) = (.error fault, after)) :
    machine.step keys = (.error fault, after.halt fault) := by
  rw [primed_of_fetched fetched] at executed
  simp [step, running, fetch_of_fetched fetched, executed]

section Results

variable {machine : Machine G} (running : machine.isHalted = false)

include running

theorem step_of_unfetched (missing : machine.fetched? = none) (keys : Keypad) :
    machine.step keys =
      (.error (.fetch ⟨machine.counter, Memory.size⟩),
        (machine.primed keys).halt (.fetch ⟨machine.counter, Memory.size⟩)) := by
  have outside := fetched?_eq_none_iff.1 missing
  rw [step_of_fetch_error running (Memory.fetch_of_le _ outside) keys, primed, missing]
  rfl

variable {word : UInt16} (fetched : machine.fetched? = some word)

include fetched

theorem step_of_clear (clear : machine.obstacle? (.decode word) = none) (keys : Keypad) :
    machine.step keys =
      (.ok ((machine.primed keys).effect (.decode word)).outcome,
        ((machine.primed keys).effect (.decode word)).machine.move
          ((machine.primed keys).effect (.decode word)).advance) :=
  step_of_executed running fetched (execute_of_clear (by rw [obstacle?_primed, clear]))

theorem step_of_outside {cause : MemoryFault}
    (blocked : machine.obstacle? (.decode word) = some (.memory cause)) (keys : Keypad) :
    machine.step keys = (.ok (.rejected cause), (machine.primed keys).move .next) :=
  step_of_executed running fetched (execute_of_memory (by rw [obstacle?_primed, blocked]))

theorem step_of_stack {cause : StackFault}
    (blocked : machine.obstacle? (.decode word) = some (.stack cause)) (keys : Keypad) :
    machine.step keys = (.error (.stack cause), (machine.primed keys).halt (.stack cause)) :=
  step_of_broken running fetched (by simp [execute, blocked])

end Results

theorem stepCase (machine : Machine G) (keys : Keypad) : machine.StepCase keys := by
  rcases stopped : machine.isHalted with _ | _
  case true => exact .halted stopped (step_of_halted stopped keys)
  rcases found : machine.fetched? with _ | word
  case none => exact .unfetched stopped found (step_of_unfetched stopped found keys)
  rcases blocked : machine.obstacle? (.decode word) with _ | fault
  case none => exact .performed stopped word found blocked (step_of_clear stopped found blocked keys)
  rcases obstacle?_kind blocked with ⟨cause, rfl⟩ | ⟨cause, rfl⟩
  · exact .rejected stopped word found cause blocked (step_of_outside stopped found blocked keys)
  · exact .failed stopped word found cause blocked (step_of_stack stopped found blocked keys)

inductive ReportCase (machine : Machine G) (instruction : Instruction) : Prop
  | plain (result : (machine.effect instruction).outcome = .proceeded ∨
      (machine.effect instruction).outcome = .drew)
  | waiting (x : Register) (awaits : instruction = .misc .awaitKey x)
      (released : machine.keys.firstPressed = none)
      (result : machine.effect instruction = ⟨machine, .stay, .waiting⟩)
  | unimplemented (word : UInt16) (unknown : instruction = .unknown word)
      (result : (machine.effect instruction).outcome = .unimplemented word)

theorem reportCase (machine : Machine G) (instruction : Instruction) :
    machine.ReportCase instruction := by
  cases instruction with
  | system op =>
    cases op with
    | clear => exact .plain (.inr rfl)
    | leave => exact .plain (.inl rfl)
  | draw x y height => exact .plain (.inr rfl)
  | misc op x =>
    cases op with
    | awaitKey =>
      cases found : machine.keys.firstPressed with
      | none => exact .waiting x rfl found (by simp only [effect, misc, found])
      | some key => exact .plain (.inl (by simp only [effect, misc, found]))
    | _ => exact .plain (.inl rfl)
  | unknown word => exact .unimplemented word rfl rfl
  | _ => exact .plain (.inl rfl)

theorem effect_outcome_ne_rejected (machine : Machine G) (instruction : Instruction)
    (cause : MemoryFault) : (machine.effect instruction).outcome ≠ .rejected cause := by
  cases machine.reportCase instruction with
  | plain result => rcases result with result | result <;> simp [result]
  | waiting x _ _ result => simp [result]
  | unimplemented word _ result => simp [result]

theorem effect_of_waiting {machine : Machine G} {instruction : Instruction}
    (waiting : (machine.effect instruction).outcome = .waiting) :
    (∃ x, instruction = .misc .awaitKey x) ∧ machine.keys.firstPressed = none ∧
      machine.effect instruction = ⟨machine, .stay, .waiting⟩ := by
  cases machine.reportCase instruction with
  | plain result => simp [waiting] at result
  | waiting x awaits released result => exact ⟨⟨x, awaits⟩, released, result⟩
  | unimplemented word _ result => simp [waiting] at result

/-- The instruction that an action carries out: the fetched one, unless the step fails or rejects it. -/
def performs? (machine : Machine G) : Action → Option Instruction
  | .step keys =>
    match (machine.step keys).1 with
    | .error _ | .ok (.rejected _) => none
    | .ok _ => machine.fetched?.map .decode
  | .tick | .present => none

theorem performs?_eq_some_iff {machine : Machine G} {keys : Keypad} {instruction : Instruction} :
    machine.performs? (.step keys) = some instruction ↔
      machine.isHalted = false ∧ (∃ word, machine.fetched? = some word ∧ .decode word = instruction) ∧
        machine.obstacle? instruction = none := by
  cases machine.stepCase keys with
  | halted stopped result => simp [performs?, result, stopped]
  | unfetched running missing result => simp [performs?, result, missing]
  | performed running word fetched clear result =>
    have accepted := (machine.primed keys).effect_outcome_ne_rejected (.decode word)
    simp only [performs?, result, fetched, running, Option.map_some, Option.some.injEq, true_and]
    refine ⟨fun same => ⟨⟨word, rfl, same⟩, same ▸ clear⟩, ?_⟩
    rintro ⟨⟨_, rfl, same⟩, _⟩
    exact same
  | rejected running word fetched cause blocked result =>
    simp only [performs?, result, fetched, Option.some.injEq, reduceCtorEq, false_iff]
    rintro ⟨_, ⟨_, rfl, rfl⟩, clear⟩
    rw [clear] at blocked
    cases blocked
  | failed running word fetched cause blocked result =>
    simp only [performs?, result, fetched, Option.some.injEq, reduceCtorEq, false_iff]
    rintro ⟨_, ⟨_, rfl, rfl⟩, clear⟩
    rw [clear] at blocked
    cases blocked

theorem performs?_store {machine : Machine G} {memory : Memory} {start : Nat} {data : List UInt8}
    (stored : machine.memory = memory.store start data) (fits : start + data.length ≤ Memory.size)
    {offset : Nat} (pointed : machine.counter = start + offset) {high low : UInt8}
    (first : data[offset]? = some high) (second : data[offset + 1]? = some low)
    {instruction : Instruction} (decoded : .decode (Word.ofBytes high low) = instruction)
    (running : machine.isHalted = false) (clear : machine.obstacle? instruction = none)
    (keys : Keypad) : machine.performs? (.step keys) = some instruction :=
  performs?_eq_some_iff.2
    ⟨running, ⟨_, fetched?_store stored fits pointed first second, decoded⟩, clear⟩

def performed (machine : Machine G) : List Action → List Instruction
  | [] => []
  | action :: later => (machine.performs? action).toList ++ performed (machine.act action) later

theorem performed_append (machine : Machine G) (first second : List Action) :
    machine.performed (first ++ second) =
      machine.performed first ++ (machine.run first).performed second := by
  induction first generalizing machine with
  | nil => rfl
  | cons action later ih => rw [List.cons_append, performed, ih, performed, List.append_assoc, run_cons]

inductive Answer where
  | stepped (result : Except Fault Outcome)
  | ticked
  | presented (pixels : Vector Bool Screen.resolution)

def answer (machine : Machine G) : Action → Answer
  | .step keys => .stepped (machine.step keys).1
  | .tick => .ticked
  | .present => .presented machine.screen.pixels

def answers (machine : Machine G) : List Action → List Answer
  | [] => []
  | action :: later => machine.answer action :: answers (machine.act action) later

theorem answers_append (machine : Machine G) (first second : List Action) :
    machine.answers (first ++ second) =
      machine.answers first ++ (machine.run first).answers second := by
  induction first generalizing machine with
  | nil => rfl
  | cons action later ih => rw [List.cons_append, answers, ih, answers, List.cons_append, run_cons]

theorem step_of_performs {machine : Machine G} {keys : Keypad} {instruction : Instruction}
    (performed : machine.performs? (.step keys) = some instruction) :
    machine.step keys =
      (.ok ((machine.primed keys).effect instruction).outcome,
        ((machine.primed keys).effect instruction).machine.move
          ((machine.primed keys).effect instruction).advance) := by
  obtain ⟨running, ⟨word, fetched, rfl⟩, clear⟩ := performs?_eq_some_iff.1 performed
  exact step_of_clear running fetched clear keys

theorem counter_lt_of_performs {machine : Machine G} {keys : Keypad} {instruction : Instruction}
    (performed : machine.performs? (.step keys) = some instruction) :
    machine.counter + 1 < Memory.size := by
  obtain ⟨_, ⟨word, fetched, _⟩, _⟩ := performs?_eq_some_iff.1 performed
  exact counter_lt_of_fetched fetched

theorem step_of_idle {machine : Machine G} {keys : Keypad}
    (idle : machine.performs? (.step keys) = none) :
    ∃ word pad counter fault, (machine.step keys).2 =
      { machine with word := word, keys := pad, counter := counter, fault := fault } := by
  cases machine.stepCase keys with
  | halted stopped result => exact ⟨_, _, _, _, by rw [result]⟩
  | unfetched running missing result => exact ⟨_, _, _, _, by rw [result]; rfl⟩
  | performed running word fetched clear result =>
    rw [performs?_eq_some_iff.2 ⟨running, ⟨word, fetched, rfl⟩, clear⟩] at idle
    cases idle
  | rejected running word fetched cause blocked result => exact ⟨_, _, _, _, by rw [result]; rfl⟩
  | failed running word fetched cause blocked result => exact ⟨_, _, _, _, by rw [result]; rfl⟩

theorem exists_fetched_of_step_ok {machine : Machine G} {keys : Keypad} {outcome : Outcome}
    (ok : (machine.step keys).1 = .ok outcome) : ∃ word, machine.fetched? = some word := by
  cases machine.stepCase keys with
  | halted _ result | unfetched _ _ result | failed _ _ _ _ _ result =>
    rw [result] at ok
    cases ok
  | performed _ word fetched _ _ | rejected _ word fetched _ _ _ => exact ⟨word, fetched⟩

theorem isHalted_step_of_ok {machine : Machine G} {keys : Keypad} {outcome : Outcome}
    (ok : (machine.step keys).1 = .ok outcome) : (machine.step keys).2.isHalted = false := by
  cases machine.stepCase keys with
  | halted _ result | unfetched _ _ result | failed _ _ _ _ _ result =>
    rw [result] at ok
    cases ok
  | performed running word _ _ result =>
    obtain ⟨_, _, _, fault⟩ := (machine.primed keys).effect_step_fields (.decode word)
    rw [result, isHalted, move, fault]
    exact running
  | rejected running _ _ _ _ result =>
    rw [result]
    exact running

theorem step_agreeOn {machine : Machine G} {keys : Keypad} {part : Part}
    (spared : ∀ instruction, machine.performs? (.step keys) = some instruction →
      instruction.writes part = false) :
    (machine.step keys).2.AgreeOn machine part := by
  rcases found : machine.performs? (.step keys) with _ | instruction
  · obtain ⟨_, _, _, _, same⟩ := step_of_idle found
    rw [same]
    cases part <;> rfl
  · have kept := (machine.primed keys).effect_agreeOn instruction (spared instruction found)
    rw [step_of_performs found]
    cases part <;> simpa only [AgreeOn, move, primed] using kept

end Machine

end SpriteMachine
