import SpriteMachine.Proofs.Decoding
import SpriteMachine.Proofs.Steps
import SpriteMachine.Random.Stride

/-! What halts a running machine, and what a halted machine still does. Only a missing word and the two
stack faults halt it, and each of them leaves the machine as the step found it. Afterwards nothing but
the timers and the dirty mark of the screen moves. -/

namespace SpriteMachine.Machine

variable {G : Type}

/-- The faults that halt a running machine, each with what it comes from. -/
inductive Fatal (machine : Machine G) : Fault → Prop
  | unfetched (outside : 4096 ≤ machine.counter + 1) :
      machine.Fatal (.fetch ⟨machine.counter, 4096⟩)
  | returned (fetched : machine.fetched? = some 0x00EE) (unstacked : machine.stack = []) :
      machine.Fatal (.stack .empty)
  | called (target : Address)
      (fetched : machine.fetched? = some (Instruction.layoutAddress 0x2 target))
      (inside : target.val ≤ 0xFFE) (full : 16 ≤ machine.stack.length) :
      machine.Fatal (.stack .full)

theorem stackFault?_eq_some_iff {machine : Machine G} {instruction : Instruction} {cause : StackFault} :
    machine.stackFault? instruction = some cause ↔
      (instruction = .system .leave ∧ machine.stack = [] ∧ cause = .empty) ∨
        ∃ target, instruction = .call target ∧ stackLimit ≤ machine.stack.length ∧ cause = .full := by
  cases instruction with
  | system op =>
    cases op with
    | clear => simp [stackFault?]
    | leave => simp only [stackFault?]; grind
  | call target => simp only [stackFault?]; grind
  | misc op x => simp [stackFault?]
  | _ => simp [stackFault?]

theorem fatal_iff_of_unfetched {machine : Machine G} (missing : machine.fetched? = none)
    {fault : Fault} : machine.Fatal fault ↔ fault = .fetch ⟨machine.counter, Memory.size⟩ := by
  constructor
  · intro fatal
    cases fatal with
    | unfetched outside => rfl
    | returned fetched unstacked => rw [missing] at fetched; cases fetched
    | called target fetched inside full => rw [missing] at fetched; cases fetched
  · intro same
    rw [same]
    exact .unfetched (fetched?_eq_none_iff.1 missing)

theorem fatal_iff_of_fetched {machine : Machine G} {word : UInt16}
    (fetched : machine.fetched? = some word) {fault : Fault} :
    machine.Fatal fault ↔
      ∃ cause, fault = .stack cause ∧ machine.obstacle? (.decode word) = some (.stack cause) := by
  constructor
  · intro fatal
    cases fatal with
    | unfetched outside =>
      have inside := counter_lt_of_fetched fetched
      exact absurd outside (Nat.not_le_of_lt inside)
    | returned found unstacked =>
      have same : word = 0x00EE := Option.some.inj (fetched.symm.trans found)
      have decoded : Instruction.decode word = .system .leave := (Instruction.decode_eq_iff rfl).2 same
      refine ⟨.empty, rfl, obstacle?_eq_stack_iff.2 ⟨?_, ?_⟩⟩
      · rw [decoded]
        rintro _ _ ⟨⟩
      · exact stackFault?_eq_some_iff.2 (.inl ⟨decoded, unstacked, rfl⟩)
    | called target found inside full =>
      have same : word = Instruction.layoutAddress 0x2 target := Option.some.inj (fetched.symm.trans found)
      have decoded : Instruction.decode word = .call target := (Instruction.decode_eq_iff rfl).2 same
      refine ⟨.full, rfl, obstacle?_eq_stack_iff.2 ⟨?_, ?_⟩⟩
      · rw [decoded]
        rintro _ _ ⟨⟩
        simp only [Memory.size, Word.width]
        omega
      · rw [decoded]
        exact stackFault?_eq_some_iff.2 (.inr ⟨target, rfl, full, rfl⟩)
  · rintro ⟨cause, rfl, blocked⟩
    obtain ⟨inReach, broken⟩ := obstacle?_eq_stack_iff.1 blocked
    rcases stackFault?_eq_some_iff.1 broken with ⟨decoded, unstacked, rfl⟩ | ⟨target, decoded, full, rfl⟩
    · rw [(Instruction.decode_eq_iff rfl).1 decoded] at fetched
      exact .returned fetched unstacked
    · have fits := inReach target.val Word.width (by rw [decoded]; rfl)
      simp only [Memory.size, Word.width] at fits
      rw [(Instruction.decode_eq_iff rfl).1 decoded] at fetched
      exact .called target fetched (by omega) full

variable [Generator G]

theorem step_error_iff {machine : Machine G} (running : machine.isHalted = false) (keys : Keypad)
    {fault : Fault} : (machine.step keys).1 = .error fault ↔ machine.Fatal fault := by
  cases machine.stepCase keys with
  | halted stopped result => rw [running] at stopped; cases stopped
  | unfetched _ missing result =>
    rw [result, fatal_iff_of_unfetched missing, Except.error.injEq, eq_comm]
  | performed _ word fetched clear result => simp [result, fatal_iff_of_fetched fetched, clear]
  | rejected _ word fetched cause blocked result =>
    simp [result, fatal_iff_of_fetched fetched, blocked]
  | failed _ word fetched cause blocked result =>
    simp [result, fatal_iff_of_fetched fetched, blocked, eq_comm]

theorem step_of_error {machine : Machine G} (running : machine.isHalted = false) {keys : Keypad}
    {fault : Fault} (failed : (machine.step keys).1 = .error fault) :
    (machine.step keys).2 = (machine.primed keys).halt fault := by
  cases machine.stepCase keys with
  | halted stopped result => rw [running] at stopped; cases stopped
  | unfetched _ missing result | failed _ _ _ _ _ result =>
    rw [result] at failed ⊢
    cases failed
    rfl
  | performed _ _ _ _ result | rejected _ _ _ _ _ result =>
    rw [result] at failed
    cases failed

theorem isHalted_act {machine : Machine G} (halted : machine.isHalted = true) (action : Action) :
    (machine.act action).isHalted = true := by
  cases action with
  | step keys => rw [act, step_of_halted halted]; exact halted
  | tick | present => exact halted

theorem isHalted_run {machine : Machine G} (halted : machine.isHalted = true) (later : List Action) :
    (machine.run later).isHalted = true := by
  induction later generalizing machine with
  | nil => exact halted
  | cons action later ih => exact ih (isHalted_act halted action)

theorem run_of_halted {machine : Machine G} (halted : machine.isHalted = true) (later : List Action) :
    machine.run later =
      { machine with
        delay := machine.delay.ticks (later.count .tick)
        sound := machine.sound.ticks (later.count .tick)
        screen := if .present ∈ later then machine.screen.present else machine.screen } := by
  induction later generalizing machine with
  | nil => simp
  | cons action later ih =>
    rw [run_cons, ih (isHalted_act halted action)]
    cases action with
    | step keys => simp [act, step_of_halted halted]
    | tick =>
      simp only [act, tick, ticks, List.count_cons_self, Nat.add_comm _ 1, Timer.ticks_add]
      simp
    | present =>
      have twice : machine.screen.present.present = machine.screen.present := rfl
      simp [act, present, twice]

/-- A running machine halts exactly for the fatal faults, is otherwise left alone, and stays that way. -/
theorem step_fails_iff_fatal_and_latches {machine : Machine G} (running : machine.isHalted = false)
    (keys : Keypad) (fault : Fault) :
    ((machine.step keys).1 = .error fault ↔ machine.Fatal fault) ∧
      ((machine.step keys).1 = .error fault →
        fault ≠ .halted ∧ (∀ cause, fault ≠ .memory cause) ∧
        (machine.step keys).2 =
          { machine with
            word := machine.fetched?.getD machine.word, keys := keys, fault := some fault } ∧
        ∀ later : List Action,
          (machine.step keys).2.run later =
            { machine with
              word := machine.fetched?.getD machine.word, keys := keys, fault := some fault
              delay := ⟨UInt8.ofNat (machine.delay.value.toNat - later.count .tick)⟩
              sound := ⟨UInt8.ofNat (machine.sound.value.toNat - later.count .tick)⟩
              screen := ⟨machine.screen.pixels, machine.screen.dirty && !later.contains .present⟩ } ∧
          ∀ next, ((machine.step keys).2.run later).step next =
            (.error .halted, (machine.step keys).2.run later)) := by
  refine ⟨step_error_iff running keys, fun failed => ?_⟩
  have stopped := step_of_error running failed
  have halted := isHalted_of_step_error failed
  have fatal := (step_error_iff running keys).1 failed
  refine ⟨?_, ?_, stopped, fun later => ⟨?_, fun next => ?_⟩⟩
  · rintro rfl
    cases fatal
  · rintro cause rfl
    cases fatal
  · have shown : (if .present ∈ later then machine.screen.present else machine.screen) =
        ⟨machine.screen.pixels, machine.screen.dirty && !later.contains .present⟩ := by
      by_cases found : .present ∈ later <;> simp [found, Screen.present]
    rw [run_of_halted halted, stopped, ← shown]
    rfl
  · exact step_of_halted (isHalted_run halted later) next

theorem latches_returning :
    let machine : Machine Stride :=
      fresh (Memory.initial.store Memory.programStart [0x00, 0xEE]) Screen.blank ⟨0, 0⟩
    machine.isHalted = false ∧
      (machine.step Keypad.released).1 = .error (.stack .empty) ∧
      ((machine.step Keypad.released).2.run [.tick, .step Keypad.released, .present]).screen.dirty = false := by
  intro machine
  have running : machine.isHalted = false := rfl
  have stored : machine.memory = Memory.initial.store Memory.programStart [0x00, 0xEE] := rfl
  have pointed : machine.counter = Memory.programStart + 0 := rfl
  have fetched : machine.fetched? = some (Word.ofBytes 0x00 0xEE) :=
    fetched?_store stored (by decide) pointed rfl rfl
  have latched := step_fails_iff_fatal_and_latches running Keypad.released (.stack .empty)
  have failed := latched.1.2 (.returned fetched rfl)
  refine ⟨rfl, failed, ?_⟩
  rw [((latched.2 failed).2.2.2 _).1]
  rfl

end SpriteMachine.Machine
