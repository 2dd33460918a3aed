import SpriteMachine.Machine.Execute

/-! What an instruction can change besides the registers. `Instruction.writes` lists the parts of the
machine that it writes to, and carrying it out leaves the other parts alone. The counter, the keys and
the last word belong to the step around it, and no instruction sets a fault itself. -/

namespace SpriteMachine

inductive Part where
  | memory
  | screen
  | index
  | stack
  | delay
  | sound
  | random
  deriving DecidableEq

namespace Instruction

def writes : Instruction → Part → Bool
  | system .clear, .screen => true
  | system .leave, .stack => true
  | call _, .stack => true
  | setIndex _, .index => true
  | random _ _, .random => true
  | draw _ _ _, .screen => true
  | misc .setDelay _, .delay => true
  | misc .setSound _, .sound => true
  | misc .addToIndex _, .index => true
  | misc .pointToGlyph _, .index => true
  | misc .storeDecimal _, .memory => true
  | misc .storeRegisters _, .memory => true
  | _, _ => false

end Instruction

namespace Machine

variable {G : Type}

def AgreeOn (first second : Machine G) : Part → Prop
  | .memory => first.memory = second.memory
  | .screen => first.screen = second.screen
  | .index => first.index = second.index
  | .stack => first.stack = second.stack
  | .delay => first.delay = second.delay
  | .sound => first.sound = second.sound
  | .random => first.random = second.random

theorem AgreeOn.refl (machine : Machine G) (part : Part) : machine.AgreeOn machine part := by
  cases part <;> rfl

theorem AgreeOn.of_registers {first second : Machine G}
    (same : second = { first with registers := second.registers }) (part : Part) :
    second.AgreeOn first part := by
  rw [same]
  cases part <;> rfl

theorem arith_eq (machine : Machine G) (op : ArithOp) (x y : Register) :
    machine.arith op x y = { machine with registers := (machine.arith op x y).registers } := by
  unfold arith
  dsimp only
  split <;> rfl

theorem misc_agreeOn (machine : Machine G) (op : MiscOp) (x : Register) {part : Part}
    (spared : (Instruction.misc op x).writes part = false) :
    (machine.misc x op).machine.AgreeOn machine part := by
  cases op with
  | awaitKey =>
    simp only [misc]
    split
    · exact .of_registers rfl part
    · exact .refl machine part
  | getDelay | loadRegisters => exact .of_registers rfl part
  | setDelay | setSound | addToIndex | pointToGlyph | storeDecimal | storeRegisters =>
    cases part <;> cases spared <;> rfl

theorem misc_step_fields (machine : Machine G) (op : MiscOp) (x : Register) :
    (machine.misc x op).machine.counter = machine.counter ∧
      (machine.misc x op).machine.word = machine.word ∧
      (machine.misc x op).machine.keys = machine.keys ∧
      (machine.misc x op).machine.fault = machine.fault := by
  cases op with
  | awaitKey =>
    simp only [misc]
    split <;> simp [setRegister]
  | _ => simp [misc, setRegister, setFirstRegisters]

variable [Generator G]

theorem effect_agreeOn (machine : Machine G) (instruction : Instruction) {part : Part}
    (spared : instruction.writes part = false) :
    (machine.effect instruction).machine.AgreeOn machine part := by
  cases instruction with
  | system op => cases op <;> cases part <;> cases spared <;> rfl
  | jump | skipIfEqual | skipUnlessEqual | skipIfSame | skipUnlessSame | jumpFrom | key | unknown =>
    exact .refl machine part
  | set | increase => exact .of_registers rfl part
  | arith op x y => exact .of_registers (machine.arith_eq op x y) part
  | call | setIndex | random | draw => cases part <;> cases spared <;> rfl
  | misc op x => exact machine.misc_agreeOn op x spared

/-- No instruction touches what belongs to the step around it. -/
theorem effect_step_fields (machine : Machine G) (instruction : Instruction) :
    (machine.effect instruction).machine.counter = machine.counter ∧
      (machine.effect instruction).machine.word = machine.word ∧
      (machine.effect instruction).machine.keys = machine.keys ∧
      (machine.effect instruction).machine.fault = machine.fault := by
  cases instruction with
  | system op => cases op <;> simp [effect]
  | arith op x y =>
    simp only [effect]
    rw [arith_eq]
    simp
  | misc op x => exact machine.misc_step_fields op x
  | _ => simp [effect, setRegister, draw]

end Machine

end SpriteMachine
