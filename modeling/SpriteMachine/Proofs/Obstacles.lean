import SpriteMachine.Machine.Execute

/-! What exactly stands in the way of an instruction. It can ask for a range of memory, and for room or
an entry on the stack. The range comes first: a call outside of the memory is passed over even when the
stack is full. -/

namespace SpriteMachine.Machine

variable {G : Type}

theorem rangeObstacle?_eq_none_iff {start length : Nat} :
    rangeObstacle? start length = none ↔ start + length ≤ Memory.size := by
  rw [rangeObstacle?, Option.map_eq_none_iff, Memory.rangeFault?_eq_none_iff]

theorem rangeFault?_of_short {start length : Nat} (short : length ≤ Memory.size)
    (outside : Memory.size < start + length) :
    Memory.rangeFault? start length = some ⟨max start Memory.size, Memory.size⟩ := by
  by_cases wide : start + length < Memory.addressLimit
  · exact Memory.rangeFault?_of_lt wide outside
  · have far : Memory.size ≤ start := by
      simp only [Memory.size, Memory.addressLimit] at *
      omega
    rw [Memory.rangeFault?, if_pos (Nat.le_of_not_lt wide), Nat.max_eq_left far]

theorem rangeObstacle?_eq_some_iff {start length : Nat} (short : length ≤ Memory.size) {fault : Fault} :
    rangeObstacle? start length = some fault ↔
      Memory.size < start + length ∧ fault = .memory ⟨max start Memory.size, Memory.size⟩ := by
  rcases Nat.lt_or_ge Memory.size (start + length) with outside | inside
  · simp [rangeObstacle?, rangeFault?_of_short short outside, outside, eq_comm]
  · simp [rangeObstacle?_eq_none_iff.2 inside, Nat.not_lt_of_le inside]

/-- The range of memory that an instruction asks for, as its start and its length. -/
def reach? (machine : Machine G) : Instruction → Option (Nat × Nat)
  | .jump target => some (target.val, Word.width)
  | .call target => some (target.val, Word.width)
  | .jumpFrom base => some (machine.offsetTarget base, Word.width)
  | .draw _ _ height => some (machine.index, height.val)
  | .misc .storeDecimal _ => some (machine.index, 3)
  | .misc .storeRegisters x => some (machine.index, x.val + 1)
  | .misc .loadRegisters x => some (machine.index, x.val + 1)
  | _ => none

def stackFault? (machine : Machine G) : Instruction → Option StackFault
  | .system .leave => if machine.stack.isEmpty then some .empty else none
  | .call _ => if stackLimit ≤ machine.stack.length then some .full else none
  | _ => none

theorem obstacle?_eq (machine : Machine G) (instruction : Instruction) :
    machine.obstacle? instruction =
      ((machine.reach? instruction).bind fun range => rangeObstacle? range.1 range.2).or
        ((machine.stackFault? instruction).map Fault.stack) := by
  cases instruction with
  | system op =>
    cases op with
    | clear => rfl
    | leave =>
      simp only [obstacle?, reach?, stackFault?, Option.bind_none, Option.none_or]
      split <;> rfl
  | call target =>
    simp only [obstacle?, jumpObstacle?, reach?, stackFault?, Option.bind_some]
    split <;> simp
  | jump | jumpFrom | draw => simp [obstacle?, jumpObstacle?, reach?, stackFault?]
  | misc op x => cases op <;> simp [obstacle?, reach?, stackFault?]
  | _ => rfl

theorem reach?_short {machine : Machine G} {instruction : Instruction} {start length : Nat}
    (asked : machine.reach? instruction = some (start, length)) : length ≤ 16 := by
  cases instruction with
  | misc op x =>
    cases op <;> simp [reach?] at asked <;> omega
  | draw x y height =>
    have := height.isLt
    simp [reach?] at asked
    omega
  | _ => simp [reach?, Word.width] at asked <;> omega

theorem bind_rangeObstacle?_eq_some_iff {machine : Machine G} {instruction : Instruction}
    {fault : Fault} :
    ((machine.reach? instruction).bind fun range => rangeObstacle? range.1 range.2) = some fault ↔
      ∃ start length, machine.reach? instruction = some (start, length) ∧
        Memory.size < start + length ∧ fault = .memory ⟨max start Memory.size, Memory.size⟩ := by
  simp only [Option.bind_eq_some_iff, Prod.exists]
  refine exists_congr fun start => exists_congr fun length => and_congr_right fun asked => ?_
  exact rangeObstacle?_eq_some_iff (Nat.le_trans (reach?_short asked) (by decide))

def InReach (machine : Machine G) (instruction : Instruction) : Prop :=
  ∀ start length, machine.reach? instruction = some (start, length) → start + length ≤ Memory.size

theorem bind_rangeObstacle?_eq_none_iff {machine : Machine G} {instruction : Instruction} :
    ((machine.reach? instruction).bind fun range => rangeObstacle? range.1 range.2) = none ↔
      machine.InReach instruction := by
  simp only [Option.bind_eq_none_iff, rangeObstacle?_eq_none_iff, InReach, Prod.forall]

theorem obstacle?_eq_none_iff {machine : Machine G} {instruction : Instruction} :
    machine.obstacle? instruction = none ↔
      machine.InReach instruction ∧ machine.stackFault? instruction = none := by
  rw [obstacle?_eq, Option.or_eq_none_iff, bind_rangeObstacle?_eq_none_iff, Option.map_eq_none_iff]

theorem obstacle?_eq_memory_iff {machine : Machine G} {instruction : Instruction}
    {fault : MemoryFault} :
    machine.obstacle? instruction = some (.memory fault) ↔
      ∃ start length, machine.reach? instruction = some (start, length) ∧
        Memory.size < start + length ∧ fault = ⟨max start Memory.size, Memory.size⟩ := by
  rw [obstacle?_eq, Option.or_eq_some_iff, bind_rangeObstacle?_eq_some_iff]
  simp

theorem obstacle?_eq_stack_iff {machine : Machine G} {instruction : Instruction} {fault : StackFault} :
    machine.obstacle? instruction = some (.stack fault) ↔
      machine.InReach instruction ∧ machine.stackFault? instruction = some fault := by
  rw [obstacle?_eq, Option.or_eq_some_iff, bind_rangeObstacle?_eq_some_iff,
    bind_rangeObstacle?_eq_none_iff]
  simp

theorem obstacle?_kind {machine : Machine G} {instruction : Instruction} {fault : Fault}
    (blocked : machine.obstacle? instruction = some fault) :
    (∃ cause, fault = .memory cause) ∨ ∃ cause, fault = .stack cause := by
  rw [obstacle?_eq, Option.or_eq_some_iff, bind_rangeObstacle?_eq_some_iff] at blocked
  rcases blocked with ⟨_, _, _, _, memory⟩ | ⟨_, stack⟩
  · exact .inl ⟨_, memory⟩
  · obtain ⟨cause, _, same⟩ := Option.map_eq_some_iff.1 stack
    exact .inr ⟨cause, same.symm⟩

/-- What stands in the way of an instruction depends on three parts of the machine only. -/
theorem obstacle?_congr {first second : Machine G} (registers : second.registers = first.registers)
    (index : second.index = first.index) (stack : second.stack = first.stack)
    (instruction : Instruction) : second.obstacle? instruction = first.obstacle? instruction := by
  cases instruction with
  | system op => cases op <;> simp [obstacle?, stack]
  | misc op x => cases op <;> simp [obstacle?, index]
  | _ => simp [obstacle?, offsetTarget, register, registers, index, stack]

theorem exists_stack_of_clear_leave {machine : Machine G}
    (clear : machine.obstacle? (.system .leave) = none) :
    ∃ back rest, machine.stack = back :: rest := by
  have nonempty := (obstacle?_eq_none_iff.1 clear).2
  rcases entries : machine.stack with _ | ⟨back, rest⟩
  · simp [stackFault?, entries] at nonempty
  · exact ⟨back, rest, rfl⟩

theorem length_stack_of_clear_call {machine : Machine G} {target : Address}
    (clear : machine.obstacle? (.call target) = none) : machine.stack.length < stackLimit := by
  have room := (obstacle?_eq_none_iff.1 clear).2
  refine Nat.lt_of_not_le fun full => ?_
  simp [stackFault?, full] at room

end SpriteMachine.Machine
