import SpriteMachine.Machine.Basic
import SpriteMachine.Instruction.Arith

/-! Executing one instruction. `obstacle?` says what stands in its way, and only when nothing does,
`effect` happens. That all checks of an instruction can be made before its first write is shown of the
machine in which they stand in one sequence. Memory that is out of reach makes the machine pass over the
instruction, every other obstacle is an error. -/

namespace SpriteMachine.Machine

variable {G : Type}

def rangeObstacle? (address length : Nat) : Option Fault :=
  (Memory.rangeFault? address length).map Fault.memory

/-- A jump needs a whole word at its target. -/
def jumpObstacle? (target : Nat) : Option Fault :=
  rangeObstacle? target Word.width

def offsetTarget (machine : Machine G) (base : Address) : Nat :=
  base.val + (machine.register 0).toNat

def obstacle? (machine : Machine G) : Instruction → Option Fault
  | .system .leave => if machine.stack.isEmpty then some (.stack .empty) else none
  | .jump target => jumpObstacle? target.val
  | .call target =>
    jumpObstacle? target.val <|>
      if stackLimit ≤ machine.stack.length then some (.stack .full) else none
  | .jumpFrom base => jumpObstacle? (machine.offsetTarget base)
  | .draw _ _ height => rangeObstacle? machine.index height.val
  | .misc .storeDecimal _ => rangeObstacle? machine.index 3
  | .misc .storeRegisters x => rangeObstacle? machine.index (x.val + 1)
  | .misc .loadRegisters x => rangeObstacle? machine.index (x.val + 1)
  | _ => none

structure Effect (G : Type) where
  machine : Machine G
  advance : Advance := .next
  outcome : Outcome := .proceeded

def decimal (value : UInt8) : List UInt8 :=
  [value / 100, value / 10 % 10, value % 10]

/-- The flag is written last, so it stays when both go to the same register. -/
def arith (machine : Machine G) (op : ArithOp) (x y : Register) : Machine G :=
  let first := machine.register x
  let second := machine.register y
  let computed := machine.setRegister x (op.result first second)
  match op.flag? first second with
  | none => computed
  | some flag => computed.setRegister flagRegister flag

def draw (machine : Machine G) (x y : Register) (height : Nat) : Machine G :=
  let sprite := machine.memory.slice machine.index height
  let drawn := machine.screen.draw (machine.register x).toNat (machine.register y).toNat sprite
  { machine with screen := drawn.1 }.setRegister flagRegister (if drawn.2 then 1 else 0)

def keyTest (machine : Machine G) (test : KeyTest) (x : Register) : Bool :=
  let pressed := machine.keys.isPressed (machine.register x).toNat
  match test with
  | .pressed => pressed
  | .notPressed => !pressed

def firstRegisters (machine : Machine G) (x : Register) : List UInt8 :=
  machine.registers.toList.take (x.val + 1)

theorem length_firstRegisters (machine : Machine G) (x : Register) :
    (machine.firstRegisters x).length = x.val + 1 := by
  have := x.isLt
  rw [firstRegisters, List.length_take, Vector.length_toList]
  omega

def setFirstRegisters (machine : Machine G) (values : List UInt8) : Machine G :=
  { machine with registers := Vector.ofFn fun x => values[x.val]?.getD (machine.register x) }

theorem register_setFirstRegisters (machine : Machine G) (values : List UInt8) (z : Register) :
    (machine.setFirstRegisters values).register z = values[z.val]?.getD (machine.register z) := by
  simp [setFirstRegisters, register]

def misc (machine : Machine G) (x : Register) : MiscOp → Effect G
  | .getDelay => { machine := machine.setRegister x machine.delay.value }
  | .awaitKey =>
    match machine.keys.firstPressed with
    | some key => { machine := machine.setRegister x (UInt8.ofNat key.val) }
    | none => { machine := machine, advance := .stay, outcome := .waiting }
  | .setDelay => { machine := { machine with delay := ⟨machine.register x⟩ } }
  | .setSound => { machine := { machine with sound := ⟨machine.register x⟩ } }
  | .addToIndex =>
    { machine := { machine with index := (machine.index + (machine.register x).toNat) % 65536 } }
  | .pointToGlyph =>
    { machine := { machine with index := Font.glyphAddress (machine.register x) } }
  | .storeDecimal =>
    let memory := machine.memory.store machine.index (decimal (machine.register x))
    { machine := { machine with memory := memory } }
  | .storeRegisters =>
    let memory := machine.memory.store machine.index (machine.firstRegisters x)
    { machine := { machine with memory := memory } }
  | .loadRegisters =>
    { machine := machine.setFirstRegisters (machine.memory.slice machine.index (x.val + 1)) }

/-- What an instruction does when nothing stands in its way. -/
def effect [Generator G] (machine : Machine G) : Instruction → Effect G
  | .system .clear =>
    { machine := { machine with screen := machine.screen.clear }, outcome := .drew }
  | .system .leave =>
    { machine := { machine with stack := machine.stack.tail },
      advance := .jump (machine.stack.headD 0) }
  | .jump target => { machine := machine, advance := .jump target.val }
  | .call target =>
    let back := Advance.next.apply machine.counter
    { machine := { machine with stack := back :: machine.stack }, advance := .jump target.val }
  | .skipIfEqual x value =>
    { machine := machine, advance := .skipIf (machine.register x == value) }
  | .skipUnlessEqual x value =>
    { machine := machine, advance := .skipIf (machine.register x != value) }
  | .skipIfSame x y =>
    { machine := machine, advance := .skipIf (machine.register x == machine.register y) }
  | .set x value => { machine := machine.setRegister x value }
  | .increase x value => { machine := machine.setRegister x (machine.register x + value) }
  | .arith op x y => { machine := machine.arith op x y }
  | .skipUnlessSame x y =>
    { machine := machine, advance := .skipIf (machine.register x != machine.register y) }
  | .setIndex target => { machine := { machine with index := target.val } }
  | .jumpFrom base => { machine := machine, advance := .jump (machine.offsetTarget base) }
  | .random x mask =>
    let (drawn, rest) := Generator.draw machine.random
    { machine := { machine with random := rest }.setRegister x (drawn &&& mask) }
  | .draw x y height => { machine := machine.draw x y height.val, outcome := .drew }
  | .key test x => { machine := machine, advance := .skipIf (machine.keyTest test x) }
  | .misc op x => machine.misc x op
  | .unknown word => { machine := machine, outcome := .unimplemented word }

variable [Generator G]

def execute (machine : Machine G) (instruction : Instruction) : Except Fault Outcome × Machine G :=
  match machine.obstacle? instruction with
  | none =>
    let done := machine.effect instruction
    (.ok done.outcome, done.machine.move done.advance)
  | some (.memory fault) => (.ok (.rejected fault), machine.move .next)
  | some fault => (.error fault, machine)

theorem execute_of_clear {machine : Machine G} {instruction : Instruction}
    (clear : machine.obstacle? instruction = none) :
    machine.execute instruction =
      (.ok (machine.effect instruction).outcome,
        (machine.effect instruction).machine.move (machine.effect instruction).advance) := by
  simp [execute, clear]

theorem execute_of_memory {machine : Machine G} {instruction : Instruction} {fault : MemoryFault}
    (blocked : machine.obstacle? instruction = some (.memory fault)) :
    machine.execute instruction = (.ok (.rejected fault), machine.move .next) := by
  simp [execute, blocked]

end SpriteMachine.Machine
