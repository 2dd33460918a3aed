import SpriteMachine.Proofs.Decoding
import SpriteMachine.Proofs.Steps
import SpriteMachine.Random.Stride

/-! Which instructions are passed over. An instruction that asks for bytes behind the end of the memory
has no effect at all: the program goes on with the next word, and the report names the first address
that was asked for in vain. -/

namespace SpriteMachine.Machine

variable {G : Type}

/-- The words that ask for memory which is not there, each with the start of what it asks for. -/
inductive OutOfReach (machine : Machine G) : UInt16 → Nat → Prop
  | jump : machine.OutOfReach 0x1FFF 0xFFF
  | call : machine.OutOfReach 0x2FFF 0xFFF
  | jumpFrom (base : Address) (outside : base.val + (machine.register 0).toNat > 0xFFE) :
      machine.OutOfReach (Instruction.layoutAddress 0xB base) (base.val + (machine.register 0).toNat)
  | draw (x y : Register) (height : Fin 16) (outside : machine.index + height.val > 4096) :
      machine.OutOfReach (Instruction.layoutDigits 0xD x y height.val) machine.index
  | storeDecimal (x : Register) (outside : machine.index + 3 > 4096) :
      machine.OutOfReach (Instruction.layoutByte 0xF x 0x33) machine.index
  | storeRegisters (x : Register) (outside : machine.index + x.val + 1 > 4096) :
      machine.OutOfReach (Instruction.layoutByte 0xF x 0x55) machine.index
  | loadRegisters (x : Register) (outside : machine.index + x.val + 1 > 4096) :
      machine.OutOfReach (Instruction.layoutByte 0xF x 0x65) machine.index

theorem exists_reach_of_outOfReach {machine : Machine G} {word : UInt16} {start : Nat}
    (out : machine.OutOfReach word start) :
    ∃ instruction length, instruction.encode = word ∧
      machine.reach? instruction = some (start, length) ∧ Memory.size < start + length := by
  cases out with
  | jump => exact ⟨.jump 0xFFF, Word.width, rfl, rfl, by decide⟩
  | call => exact ⟨.call 0xFFF, Word.width, rfl, rfl, by decide⟩
  | jumpFrom base outside =>
    refine ⟨.jumpFrom base, Word.width, rfl, rfl, ?_⟩
    simp only [Memory.size, Word.width]
    omega
  | draw x y height outside => exact ⟨.draw x y height, height.val, rfl, rfl, outside⟩
  | storeDecimal x outside => exact ⟨.misc .storeDecimal x, 3, rfl, rfl, outside⟩
  | storeRegisters x outside => exact ⟨.misc .storeRegisters x, x.val + 1, rfl, rfl, outside⟩
  | loadRegisters x outside => exact ⟨.misc .loadRegisters x, x.val + 1, rfl, rfl, outside⟩

theorem isKnown_of_reach {machine : Machine G} {instruction : Instruction} {range : Nat × Nat}
    (asked : machine.reach? instruction = some range) : instruction.isKnown = true := by
  cases instruction with
  | unknown word => cases asked
  | _ => rfl

theorem eq_last_of_jump_outside {target : Address} (outside : Memory.size < target.val + Word.width) :
    target = 0xFFF := by
  apply Fin.ext
  have := target.isLt
  simp only [Memory.size, Word.width] at outside
  change target.val = 4095
  omega

theorem outOfReach_of_reach {machine : Machine G} {instruction : Instruction} {start length : Nat}
    (asked : machine.reach? instruction = some (start, length)) (outside : Memory.size < start + length) :
    machine.OutOfReach instruction.encode start := by
  cases instruction with
  | jump target =>
    cases asked
    rw [eq_last_of_jump_outside outside]
    exact .jump
  | call target =>
    cases asked
    rw [eq_last_of_jump_outside outside]
    exact .call
  | jumpFrom base =>
    cases asked
    refine .jumpFrom base ?_
    simp only [Memory.size, Word.width, offsetTarget] at outside
    omega
  | draw x y height =>
    cases asked
    exact .draw x y height outside
  | misc op x =>
    cases op with
    | storeDecimal =>
      cases asked
      exact .storeDecimal x outside
    | storeRegisters =>
      cases asked
      exact .storeRegisters x outside
    | loadRegisters =>
      cases asked
      exact .loadRegisters x outside
    | _ => cases asked
  | _ => cases asked

theorem obstacle?_decode_eq_memory_iff {machine : Machine G} {word : UInt16} {cause : MemoryFault} :
    machine.obstacle? (.decode word) = some (.memory cause) ↔
      ∃ start, machine.OutOfReach word start ∧ cause = ⟨max start 4096, 4096⟩ := by
  rw [obstacle?_eq_memory_iff]
  constructor
  · rintro ⟨start, length, asked, outside, report⟩
    have out := outOfReach_of_reach asked outside
    rw [Instruction.encode_decode] at out
    exact ⟨start, out, report⟩
  · rintro ⟨start, out, report⟩
    obtain ⟨instruction, length, rfl, asked, outside⟩ := exists_reach_of_outOfReach out
    rw [Instruction.decode_encode (isKnown_of_reach asked)]
    exact ⟨start, length, asked, outside, report⟩

variable [Generator G]

theorem step_rejected_iff {machine : Machine G} {word : UInt16} (running : machine.isHalted = false)
    (fetched : machine.fetched? = some word) (keys : Keypad) {cause : MemoryFault} :
    (machine.step keys).1 = .ok (.rejected cause) ↔
      machine.obstacle? (.decode word) = some (.memory cause) := by
  rcases blocked : machine.obstacle? (.decode word) with _ | fault
  · have accepted := (machine.primed keys).effect_outcome_ne_rejected (.decode word) cause
    simp [step_of_clear running fetched blocked, accepted]
  · rcases obstacle?_kind blocked with ⟨reason, rfl⟩ | ⟨reason, rfl⟩
    · simp [step_of_outside running fetched blocked]
    · simp [step_of_stack running fetched blocked]

theorem step_of_memory {machine : Machine G} {word : UInt16} (running : machine.isHalted = false)
    (fetched : machine.fetched? = some word) {cause : MemoryFault}
    (blocked : machine.obstacle? (.decode word) = some (.memory cause)) (keys : Keypad) :
    machine.step keys = (.ok (.rejected cause),
      { machine with keys := keys, word := word, counter := machine.counter + 2 }) := by
  have next := Advance.apply_next_of_fetchable (counter_lt_of_fetched fetched)
  rw [step_of_outside running fetched blocked, primed_of_fetched fetched, move, next]

/-- A word is passed over exactly if it is out of reach, and then nothing happens but passing over it. -/
theorem step_rejects_iff_outOfReach {machine : Machine G} {word : UInt16}
    (running : machine.isHalted = false) (fetched : machine.fetched? = some word) (keys : Keypad) :
    (∀ cause, (machine.step keys).1 = .ok (.rejected cause) ↔
      ∃ start, machine.OutOfReach word start ∧ cause = ⟨max start 4096, 4096⟩) ∧
    ∀ start, machine.OutOfReach word start →
      machine.step keys = (.ok (.rejected ⟨max start 4096, 4096⟩),
        { machine with keys := keys, word := word, counter := machine.counter + 2 }) ∧
      (machine.step keys).2.isHalted = false := by
  refine ⟨fun cause => ?_, fun start out => ?_⟩
  · rw [step_rejected_iff running fetched keys, obstacle?_decode_eq_memory_iff]
  · have blocked := obstacle?_decode_eq_memory_iff.2 ⟨start, out, rfl⟩
    have result := step_of_memory running fetched blocked keys
    rw [result]
    exact ⟨rfl, running⟩

theorem rejects_calling_last :
    let machine : Machine Stride :=
      fresh (Memory.initial.store Memory.programStart [0x2F, 0xFF]) Screen.blank ⟨0, 0⟩
    machine.isHalted = false ∧ machine.fetched? = some 0x2FFF ∧
      (machine.step Keypad.released).1 = .ok (.rejected ⟨4096, 4096⟩) ∧
      (machine.step Keypad.released).2.counter = 0x202 := by
  intro machine
  have running : machine.isHalted = false := rfl
  have stored : machine.memory = Memory.initial.store Memory.programStart [0x2F, 0xFF] := rfl
  have pointed : machine.counter = Memory.programStart + 0 := rfl
  have fetched : machine.fetched? = some (Word.ofBytes 0x2F 0xFF) :=
    fetched?_store stored (by decide) pointed rfl rfl
  have rejected := step_rejects_iff_outOfReach running fetched Keypad.released
  have passed := (rejected.2 0xFFF .call).1
  rw [passed]
  exact ⟨running, fetched, rfl, rfl⟩

end SpriteMachine.Machine
