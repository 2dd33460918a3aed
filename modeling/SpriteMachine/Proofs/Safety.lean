import SpriteMachine.Proofs.Bounds
import SpriteMachine.Proofs.Checked

/-! No run ever gets stuck. Within the bounds of a run every sum is an address, every position and range
lies inside of what it points into and every copy fits, so the checked machine does exactly what the
machine does. In particular an instruction that fails has not written anything before. -/

namespace SpriteMachine.Checked

theorem sum_of_lt {σ : Type} {first second : Nat} (small : first + second < Memory.addressLimit) :
    (sum first second : Attempt σ Nat) = pure (first + second) := by
  rw [sum, if_pos small]

theorem readSlice_eq (start length : Nat) (memory : Memory) :
    (readSlice start length).run memory =
      (Machine.rangeObstacle? start length).elim (.ok (memory.slice start length) memory)
        fun fault => .error (.fault fault) memory := by
  rcases blocked : Memory.rangeFault? start length with _ | cause
  · have fits := Memory.rangeFault?_eq_none_iff.1 blocked
    simp [readSlice, guardRange, Machine.rangeObstacle?, blocked, bytes, fits]
  · simp [readSlice, guardRange, Machine.rangeObstacle?, blocked]

theorem writeSlice_eq (start : Nat) (data : List UInt8) (memory : Memory) :
    (writeSlice start data).run memory =
      (Machine.rangeObstacle? start data.length).elim (.ok () (memory.store start data))
        fun fault => .error (.fault fault) memory := by
  rcases blocked : Memory.rangeFault? start data.length with _ | cause
  · have fits := Memory.rangeFault?_eq_none_iff.1 blocked
    simp [writeSlice, guardRange, Machine.rangeObstacle?, blocked, overwrite, fits]
  · simp [writeSlice, guardRange, Machine.rangeObstacle?, blocked]

theorem toggle_eq (x y : Nat) (drawing : Drawing) :
    (toggle x y).run drawing = .ok () (Screen.toggle drawing (Screen.cell x y)) := by
  have inside : y % Screen.height * Screen.width + x % Screen.width < Screen.resolution :=
    (Screen.cell x y).isLt
  rw [toggle, dif_pos inside]
  rfl

theorem drawColumns_eq (y : Nat) (bits : UInt8) {x : Nat} {columns : List Nat}
    (near : ∀ j ∈ columns, x + j < Memory.addressLimit) (drawing : Drawing) :
    (drawColumns x y bits columns).run drawing =
      .ok () (((columns.filter fun j => bits.toNat.testBit (7 - j)).map fun j =>
        Screen.cell (x + j) y).foldl Screen.toggle drawing) := by
  induction columns generalizing drawing with
  | nil => rfl
  | cons j later ih =>
    have next := ih fun j' found => near j' (List.mem_cons_of_mem _ found)
    rw [drawColumns, sum_of_lt (near j List.mem_cons_self)]
    by_cases lit : bits.toNat.testBit (7 - j) = true <;> simp [lit, toggle_eq, next]

theorem drawRows_eq {x y i : Nat} {sprite : List UInt8}
    (near : x + Screen.spriteWidth ≤ Memory.addressLimit)
    (high : y + i + sprite.length ≤ Memory.addressLimit) (drawing : Drawing) :
    (drawRows x y i sprite).run drawing =
      .ok () ((Screen.spriteCells x (y + i) sprite).foldl Screen.toggle drawing) := by
  induction sprite generalizing i drawing with
  | nil => rfl
  | cons bits below ih =>
    rw [List.length_cons] at high
    have columns : ∀ j ∈ List.range Screen.spriteWidth, x + j < Memory.addressLimit := by
      intro j found
      have := List.mem_range.1 found
      omega
    rw [drawRows, sum_of_lt (by omega), pure_bind, EStateM.run_bind, drawColumns_eq _ _ columns]
    rw [Screen.spriteCells, List.foldl_append]
    exact ih (by omega) _

theorem draw_eq {x y : Nat} {sprite : List UInt8} (near : x + Screen.spriteWidth ≤ Memory.addressLimit)
    (high : y + sprite.length ≤ Memory.addressLimit) (screen : Screen) :
    (draw x y sprite).run screen = .ok (screen.draw x y sprite).2 (screen.draw x y sprite).1 := by
  rw [EStateM.run, draw, drawRows_eq near high]
  rfl

theorem draw_bytes_eq (column line : UInt8) {sprite : List UInt8} (short : sprite.length ≤ 16)
    (screen : Screen) :
    (draw column.toNat line.toNat sprite).run screen =
      .ok (screen.draw column.toNat line.toNat sprite).2
        (screen.draw column.toNat line.toNat sprite).1 := by
  have left := column.toNat_lt
  have top := line.toNat_lt
  have near : column.toNat + Screen.spriteWidth ≤ Memory.addressLimit := by
    simp only [Memory.addressLimit, Screen.spriteWidth]
    omega
  have high : line.toNat + sprite.length ≤ Memory.addressLimit := by
    simp only [Memory.addressLimit]
    omega
  exact draw_eq near high screen

theorem shiftRight_digit_mask (value shift : Nat) :
    (value &&& (15 <<< shift)) >>> shift = (value >>> shift) % 16 := by
  have digit : (15 <<< shift) >>> shift = 2 ^ 4 - 1 := Nat.shiftLeft_shiftRight 15 shift
  rw [Nat.shiftRight_and_distrib, digit, Nat.and_two_pow_sub_one_eq_mod]

theorem digitX_eq (word : UInt16) : digitX word = (Word.x word).val := by
  have masked := shiftRight_digit_mask word.toNat 8
  rw [Nat.shiftRight_eq_div_pow word.toNat] at masked
  rw [digitX, UInt16.toNat_shiftRight, UInt16.toNat_and, UInt16.toNat_and, Nat.and_assoc]
  exact masked

theorem digitY_eq (word : UInt16) : digitY word = (Word.y word).val := by
  have masked := shiftRight_digit_mask word.toNat 4
  rw [Nat.shiftRight_eq_div_pow word.toNat] at masked
  rw [digitY, UInt16.toNat_shiftRight, UInt16.toNat_and]
  exact masked

variable {G : Type}

@[simp] theorem register_eq (x : Register) (machine : Machine G) :
    (register x.val).run machine = .ok (machine.register x) machine := by
  simp [register, x.isLt]

@[simp] theorem register_zero (machine : Machine G) :
    (register 0).run machine = .ok (machine.register 0) machine :=
  register_eq 0 machine

@[simp] theorem setRegister_eq (x : Register) (value : UInt8) (machine : Machine G) :
    (setRegister x.val value).run machine = .ok () (machine.setRegister x value) := by
  simp [setRegister, x.isLt]

@[simp] theorem setRegister_flag (value : UInt8) (machine : Machine G) :
    (setRegister 15 value).run machine = .ok () (machine.setRegister Machine.flagRegister value) :=
  setRegister_eq Machine.flagRegister value machine

@[simp] theorem firstRegisters_eq (x : Register) (machine : Machine G) :
    (firstRegisters x.val).run machine = .ok (machine.firstRegisters x) machine := by
  simp [firstRegisters, x.isLt]

@[simp] theorem setFirstRegisters_eq (x : Register) {values : List UInt8}
    (fits : values.length = x.val + 1) (machine : Machine G) :
    (setFirstRegisters x.val values).run machine = .ok () (machine.setFirstRegisters values) := by
  simp [setFirstRegisters, x.isLt, fits]

@[simp] theorem arith_eq (op : ArithOp) (x y : Register) (machine : Machine G) :
    (arith op x.val y.val).run machine = .ok () (machine.arith op x y) := by
  simp only [arith, EStateM.run_bind, register_eq, setRegister_eq, Machine.arith]
  cases op.flag? (machine.register x) (machine.register y) <;> simp

@[simp] theorem keyTest_eq (test : KeyTest) (x : Register) (machine : Machine G) :
    (keyTest test x.val).run machine = .ok (machine.keyTest test x) machine := by
  cases test <;> simp [keyTest, Machine.keyTest]

theorem memory_readSlice_eq (start length : Nat) (machine : Machine G) :
    (onMemory (readSlice start length)).run machine =
      (Machine.rangeObstacle? start length).elim (.ok (machine.memory.slice start length) machine)
        fun fault => .error (.fault fault) machine := by
  rw [onMemory, Attempt.run_within, readSlice_eq]
  cases Machine.rangeObstacle? start length <;> rfl

theorem memory_writeSlice_eq (start : Nat) (data : List UInt8) (machine : Machine G) :
    (onMemory (writeSlice start data)).run machine =
      (Machine.rangeObstacle? start data.length).elim
        (.ok () { machine with memory := machine.memory.store start data })
        fun fault => .error (.fault fault) machine := by
  rw [onMemory, Attempt.run_within, writeSlice_eq]
  cases Machine.rangeObstacle? start data.length <;> rfl

theorem jumpTo_eq (target : Nat) (machine : Machine G) :
    (jumpTo target).run machine =
      (Machine.jumpObstacle? target).elim (.ok (.jump target) machine)
        fun fault => .error (.fault fault) machine := by
  rw [jumpTo, EStateM.run_bind, memory_readSlice_eq, Machine.jumpObstacle?]
  cases Machine.rangeObstacle? target Word.width <;> rfl

/-- What an instruction comes to that meets this obstacle, or else has this effect. -/
def outcomeOf (machine : Machine G) (obstacle : Option Fault) (effect : Machine.Effect G) :
    EStateM.Result Stop (Machine G) Report :=
  match obstacle with
  | none => .ok (effect.advance, effect.outcome) effect.machine
  | some fault => .error (.fault fault) machine

theorem misc_eq {machine : Machine G} (bounded : machine.Bounded) (x : Register) (op : MiscOp) :
    (misc x.val op).run machine = outcomeOf machine (machine.obstacle? (.misc op x)) (machine.misc x op) := by
  cases op with
  | awaitKey =>
    simp only [misc, EStateM.run_bind, EStateM.run_get, Machine.obstacle?, Machine.misc, outcomeOf]
    cases machine.keys.firstPressed <;> simp
  | addToIndex =>
    have small := bounded.index
    have byte := (machine.register x).toNat_lt
    have total : machine.index + (machine.register x).toNat < Memory.addressLimit := by
      simp only [Memory.addressLimit]
      omega
    simp [misc, Machine.obstacle?, Machine.misc, outcomeOf, sum_of_lt total]
  | storeDecimal =>
    simp only [misc, EStateM.run_bind, EStateM.run_get, register_eq, memory_writeSlice_eq,
      Machine.obstacle?, Machine.decimal, List.length_cons, List.length_nil]
    cases Machine.rangeObstacle? machine.index 3 <;> simp [Machine.misc, Machine.decimal, outcomeOf]
  | storeRegisters =>
    simp only [misc, EStateM.run_bind, EStateM.run_get, firstRegisters_eq, memory_writeSlice_eq,
      Machine.obstacle?, Machine.length_firstRegisters]
    cases Machine.rangeObstacle? machine.index (x.val + 1) <;> simp [Machine.misc, outcomeOf]
  | loadRegisters =>
    have := x.isLt
    have next : x.val + 1 < Memory.addressLimit := by
      simp only [Memory.addressLimit]
      omega
    simp only [misc, sum_of_lt next, pure_bind, EStateM.run_bind, EStateM.run_get, memory_readSlice_eq,
      Machine.obstacle?]
    cases Machine.rangeObstacle? machine.index (x.val + 1) <;> simp [Machine.misc, outcomeOf]
  | _ => simp [misc, Machine.obstacle?, Machine.misc, outcomeOf]

theorem apply_eq {σ : Type} {counter : Nat} (inside : counter + 1 < Memory.size) (advance : Advance) :
    (apply advance counter : Attempt σ Nat) = pure (advance.apply counter) := by
  simp only [Memory.size] at inside
  cases advance with
  | stay => rfl
  | next =>
    have small : counter + Word.width < Memory.addressLimit := by
      simp only [Memory.addressLimit, Word.width]
      omega
    rw [apply, sum_of_lt small, Advance.apply, Nat.mod_eq_of_lt small]
  | skip =>
    have small : counter + 2 * Word.width < Memory.addressLimit := by
      simp only [Memory.addressLimit, Word.width]
      omega
    rw [apply, sum_of_lt small, Advance.apply, Nat.mod_eq_of_lt small]
  | jump target => rfl

theorem move_eq {machine : Machine G} (inside : machine.counter + 1 < Memory.size)
    (advance : Advance) : (move advance).run machine = .ok () (machine.move advance) := by
  simp only [move, EStateM.run_bind, EStateM.run_get, apply_eq inside]
  rfl

theorem stackPlaces_eq {machine : Machine G} (bounded : machine.Bounded) :
    stackPlaces.run machine = .ok machine.stackPlaces machine := by
  have depth : machine.stack.length ≤ Machine.stackLimit := bounded.depth
  simp [stackPlaces, depth]

theorem halt_eq {machine : Machine G} (bounded : machine.Bounded) (fault : Fault) :
    (halt fault).run machine = .ok (.error fault) (machine.halt fault) := by
  rw [halt, EStateM.run_bind, stackPlaces_eq bounded]
  rfl

variable [Generator G]

theorem effect_eq {machine : Machine G} (bounded : machine.Bounded)
    (inside : machine.counter + 1 < Memory.size) (instruction : Instruction) :
    (effect instruction).run machine =
      outcomeOf machine (machine.obstacle? instruction) (machine.effect instruction) := by
  cases instruction with
  | system op =>
    cases op with
    | clear => rfl
    | leave =>
      rcases entries : machine.stack with _ | ⟨back, rest⟩ <;>
        simp [effect, pop, entries, Machine.obstacle?, Machine.effect, outcomeOf]
  | jump target =>
    simp only [effect, EStateM.run_bind, jumpTo_eq, Machine.obstacle?]
    cases Machine.jumpObstacle? target.val <;> simp [Machine.effect, outcomeOf]
  | call target =>
    simp only [effect, EStateM.run_bind, jumpTo_eq, Machine.obstacle?]
    cases Machine.jumpObstacle? target.val with
    | some fault => simp [outcomeOf]
    | none =>
      simp only [Option.elim_none, EStateM.run_get, apply_eq inside, EStateM.run_pure, push,
        EStateM.run_bind]
      rcases Nat.lt_or_ge machine.stack.length Machine.stackLimit with room | full
      · simp [room, Nat.not_le_of_lt room, Machine.effect, outcomeOf]
      · simp [full, Nat.not_lt_of_le full, outcomeOf]
  | jumpFrom base =>
    have byte := (machine.register 0).toNat_lt
    have total : base.val + (machine.register 0).toNat < Memory.addressLimit := by
      simp only [Memory.addressLimit]
      omega
    simp only [effect, EStateM.run_bind, register_zero, sum_of_lt total, EStateM.run_pure, jumpTo_eq,
      Machine.obstacle?, Machine.offsetTarget]
    cases Machine.jumpObstacle? (base.val + (machine.register 0).toNat) <;>
      simp [Machine.effect, Machine.offsetTarget, outcomeOf]
  | draw x y height =>
    have short : (machine.memory.slice machine.index height.val).length ≤ 16 := by
      rw [Memory.length_slice]
      exact Nat.le_of_lt height.isLt
    have drawn := draw_bytes_eq (machine.register x) (machine.register y) short machine.screen
    simp only [effect, EStateM.run_bind, EStateM.run_get, memory_readSlice_eq, Machine.obstacle?]
    cases Machine.rangeObstacle? machine.index height.val with
    | some fault => rfl
    | none =>
      simp only [Option.elim_none, register_eq, onScreen, Attempt.run_within, drawn, setRegister_flag]
      rfl
  | misc op x => exact misc_eq bounded x op
  | _ => simp [effect, skipIf, Machine.obstacle?, Machine.effect, outcomeOf]

/-- All checks of an instruction come before its first write. -/
theorem leaves_effect_of_obstacle {machine : Machine G} (bounded : machine.Bounded)
    (inside : machine.counter + 1 < Memory.size) {instruction : Instruction} {fault : Fault}
    (blocked : machine.obstacle? instruction = some fault) :
    (effect instruction).leaves machine = machine := by
  rw [Attempt.leaves, effect_eq bounded inside, blocked, outcomeOf]

theorem execute_eq {machine : Machine G} (bounded : machine.Bounded)
    (inside : machine.counter + 1 < Memory.size) (instruction : Instruction) :
    (execute instruction).run machine =
      match machine.execute instruction with
      | (.ok outcome, after) => .ok outcome after
      | (.error fault, after) => .error (.fault fault) after := by
  rw [execute, EStateM.run_bind, Attempt.run_tryCatch, effect_eq bounded inside, Machine.execute]
  rcases blocked : machine.obstacle? instruction with _ | fault
  · -- carrying out the instruction has not moved the counter yet
    have unmoved := (machine.effect_step_fields instruction).1
    have moved := move_eq (unmoved ▸ inside) (machine.effect instruction).advance
    simp only [outcomeOf, EStateM.run_bind, moved]
    rfl
  · cases fault with
    | memory cause =>
      simp only [outcomeOf, EStateM.run_bind, EStateM.run_pure, move_eq inside]
    | _ => rfl

theorem step_eq {machine : Machine G} (bounded : machine.Bounded) (keys : Keypad) :
    (step keys).run machine = .ok (machine.step keys).1 (machine.step keys).2 := by
  simp only [step, Machine.step, EStateM.run_bind, EStateM.run_get]
  by_cases halted : machine.isHalted = true
  · rw [if_pos halted, if_pos halted]
    rfl
  · simp only [if_neg halted, EStateM.run_bind, EStateM.run_modify, Attempt.run_tryCatch, fetch,
      EStateM.run_get]
    rcases fetched : machine.memory.fetch machine.counter with cause | word
    · have stopped : { machine with keys := keys }.Bounded := bounded.congr rfl rfl rfl
      exact halt_eq stopped (.fetch cause)
    · have inside : machine.counter + 1 < Memory.size := by
        refine Nat.lt_of_not_le fun outside => ?_
        rw [Memory.fetch_of_le _ outside] at fetched
        cases fetched
      have ready : { machine with keys := keys, word := word }.Bounded := bounded.congr rfl rfl rfl
      simp only [EStateM.run_set, execute_eq ready inside]
      rcases executed : Machine.execute { machine with keys := keys, word := word } (.decode word)
        with ⟨fault | outcome, after⟩
      · have stopped : after.Bounded := Machine.eq_of_execute_error executed ▸ ready
        exact halt_eq stopped fault
      · rfl

/-- No history of steps, ticks and frames leads to a state where an operation has no result. -/
theorem step_total_of_run (memory : Memory) (screen : Screen) (random : G) (actions : List Machine.Action) :
    let machine := (Machine.fresh memory screen random).run actions
    machine.counter ≤ 0x1002 ∧ machine.index ≤ 0xFFFF ∧ machine.stack.length ≤ 16 ∧
      (∀ back ∈ machine.stack, 2 ≤ back ∧ back ≤ 0x1000) ∧
      (∀ word, (register (digitX word)).run machine = .ok (machine.register (Word.x word)) machine ∧
        (register (digitY word)).run machine = .ok (machine.register (Word.y word)) machine) ∧
      (∀ keys, (step keys).run machine = .ok (machine.step keys).1 (machine.step keys).2) ∧
      stackPlaces.run machine = .ok machine.stackPlaces machine := by
  intro machine
  have bounded : machine.Bounded := (Machine.bounded_fresh memory screen random).run actions
  refine ⟨bounded.counter, bounded.index, bounded.depth, bounded.returns, fun word => ?_, ?_, ?_⟩
  · rw [digitX_eq, digitY_eq]
    exact ⟨register_eq _ machine, register_eq _ machine⟩
  · exact step_eq bounded
  · exact stackPlaces_eq bounded

end SpriteMachine.Checked
