import SpriteMachine.Machine.Dump
import SpriteMachine.Machine.Step

/-! The machine once more, as operations on its state that check and write in one sequence. An operation
that stops leaves the state as its writes have made it so far, and one that has no result is stuck: sums
beyond the last address, positions and ranges beyond the end of what they point into, and copies between
ranges of different lengths. Operands are plain numbers here. -/

namespace SpriteMachine

inductive Stop where
  | fault (fault : Fault)
  | stuck
  deriving DecidableEq

abbrev Attempt (σ α : Type) := EStateM Stop σ α

namespace Attempt

variable {σ τ α β : Type}

@[simp] theorem run_map (f : α → β) (operation : Attempt σ α) (state : σ) :
    (f <$> operation).run state =
      match operation.run state with
      | .ok value after => .ok (f value) after
      | .error stop after => .error stop after := by
  change EStateM.map f operation state = _
  rw [EStateM.map, EStateM.run]
  cases operation state <;> rfl

@[simp] theorem run_throw (stop : Stop) (state : σ) :
    (throw stop : Attempt σ α).run state = .error stop state := rfl

theorem run_tryCatch (operation : Attempt σ α) (handler : Stop → Attempt σ α) (state : σ) :
    (tryCatch operation handler).run state =
      match operation.run state with
      | .ok value after => .ok value after
      | .error stop after => (handler stop).run after := by
  change EStateM.tryCatch operation handler state = _
  delta EStateM.tryCatch EStateM.run
  cases operation state <;> rfl

/-- The state behind an operation, also if it has stopped. -/
def leaves (operation : Attempt σ α) (state : σ) : σ :=
  match operation.run state with
  | .ok _ after => after
  | .error _ after => after

/-- An operation on a part of a larger state. -/
def within (part : τ → σ) (replace : τ → σ → τ) (operation : Attempt σ α) : Attempt τ α := fun whole =>
  match operation.run (part whole) with
  | .ok value after => .ok value (replace whole after)
  | .error stop after => .error stop (replace whole after)

theorem run_within (part : τ → σ) (replace : τ → σ → τ) (operation : Attempt σ α) (whole : τ) :
    (within part replace operation).run whole =
      match operation.run (part whole) with
      | .ok value after => .ok value (replace whole after)
      | .error stop after => .error stop (replace whole after) := rfl

end Attempt

namespace Checked

def sum {σ : Type} (first second : Nat) : Attempt σ Nat :=
  if first + second < Memory.addressLimit then pure (first + second) else throw .stuck

def digitX (word : UInt16) : Nat :=
  ((word &&& 0x0FFF &&& 0xFF00) >>> 8).toNat

def digitY (word : UInt16) : Nat :=
  ((word &&& 0x00F0) >>> 4).toNat

def bytes (start stop : Nat) : Attempt Memory (List UInt8) := do
  let memory ← get
  if start ≤ stop ∧ stop ≤ Memory.size then return memory.slice start (stop - start) else throw .stuck

def overwrite (start stop : Nat) (data : List UInt8) : Attempt Memory Unit :=
  if start ≤ stop ∧ stop ≤ Memory.size ∧ data.length = stop - start then
    modify fun memory => memory.store start data
  else throw .stuck

def guardRange (start length : Nat) : Attempt Memory Unit :=
  match Memory.rangeFault? start length with
  | none => pure ()
  | some cause => throw (.fault (.memory cause))

def readSlice (start length : Nat) : Attempt Memory (List UInt8) := do
  guardRange start length
  bytes start (start + length)

def writeSlice (start : Nat) (data : List UInt8) : Attempt Memory Unit := do
  guardRange start data.length
  overwrite start (start + data.length) data

def writeByte (address : Nat) (value : UInt8) : Attempt Memory Unit :=
  if inside : address < Memory.size then
    modify fun memory => ⟨memory.bytes.set address value inside⟩
  else throw (.fault (.memory ⟨address, Memory.size⟩))

abbrev Drawing := Vector Bool Screen.resolution × Bool

def toggle (x y : Nat) : Attempt Drawing Unit :=
  let position := y % Screen.height * Screen.width + x % Screen.width
  if inside : position < Screen.resolution then
    modify fun drawing => Screen.toggle drawing ⟨position, inside⟩
  else throw .stuck

def drawColumns (x y : Nat) (bits : UInt8) : List Nat → Attempt Drawing Unit
  | [] => pure ()
  | j :: later => do
    if bits.toNat.testBit (7 - j) then toggle (← sum x j) y
    drawColumns x y bits later

def drawRows (x y i : Nat) : List UInt8 → Attempt Drawing Unit
  | [] => pure ()
  | bits :: below => do
    drawColumns x (← sum y i) bits (List.range Screen.spriteWidth)
    drawRows x y (i + 1) below

def draw (x y : Nat) (sprite : List UInt8) : Attempt Screen Bool := fun screen =>
  match (drawRows x y 0 sprite).run (screen.pixels, false) with
  | .ok _ drawing => .ok drawing.2 ⟨drawing.1, true⟩
  | .error stop drawing => .error stop { screen with pixels := drawing.1 }

variable {G : Type}

def onMemory {α : Type} (operation : Attempt Memory α) : Attempt (Machine G) α :=
  operation.within Machine.memory fun machine memory => { machine with memory := memory }

def onScreen {α : Type} (operation : Attempt Screen α) : Attempt (Machine G) α :=
  operation.within Machine.screen fun machine screen => { machine with screen := screen }

def register (x : Nat) : Attempt (Machine G) UInt8 := do
  let machine ← get
  if inside : x < 16 then return machine.register ⟨x, inside⟩ else throw .stuck

def setRegister (x : Nat) (value : UInt8) : Attempt (Machine G) Unit :=
  if inside : x < 16 then modify fun machine => machine.setRegister ⟨x, inside⟩ value else throw .stuck

def firstRegisters (x : Nat) : Attempt (Machine G) (List UInt8) := do
  let machine ← get
  if inside : x < 16 then return machine.firstRegisters ⟨x, inside⟩ else throw .stuck

def setFirstRegisters (x : Nat) (values : List UInt8) : Attempt (Machine G) Unit :=
  if x < 16 ∧ values.length = x + 1 then modify fun machine => machine.setFirstRegisters values
  else throw .stuck

def apply {σ : Type} (advance : Advance) (counter : Nat) : Attempt σ Nat :=
  match advance with
  | .stay => pure counter
  | .next => sum counter Word.width
  | .skip => sum counter (2 * Word.width)
  | .jump target => pure target

def move (advance : Advance) : Attempt (Machine G) Unit := do
  let counter ← apply advance (← get).counter
  modify fun machine => { machine with counter := counter }

def jumpTo (target : Nat) : Attempt (Machine G) Advance := do
  let _ ← onMemory (readSlice target Word.width)
  return .jump target

def push (back : Nat) : Attempt (Machine G) Unit := do
  let machine ← get
  if machine.stack.length < Machine.stackLimit then set { machine with stack := back :: machine.stack }
  else throw (.fault (.stack .full))

def pop : Attempt (Machine G) Nat := do
  let machine ← get
  match machine.stack with
  | [] => throw (.fault (.stack .empty))
  | back :: rest =>
    set { machine with stack := rest }
    return back

def arith (op : ArithOp) (x y : Nat) : Attempt (Machine G) Unit := do
  let first ← register x
  let second ← register y
  setRegister x (op.result first second)
  match op.flag? first second with
  | none => pure ()
  | some flag => setRegister 15 flag

abbrev Report := Advance × Outcome

def misc (x : Nat) : MiscOp → Attempt (Machine G) Report
  | .getDelay => do
    setRegister x (← get).delay.value
    return (.next, .proceeded)
  | .awaitKey => do
    match (← get).keys.firstPressed with
    | some key =>
      setRegister x (UInt8.ofNat key.val)
      return (.next, .proceeded)
    | none => return (.stay, .waiting)
  | .setDelay => do
    let value ← register x
    modify fun machine => { machine with delay := ⟨value⟩ }
    return (.next, .proceeded)
  | .setSound => do
    let value ← register x
    modify fun machine => { machine with sound := ⟨value⟩ }
    return (.next, .proceeded)
  | .addToIndex => do
    let value ← register x
    let total ← sum (← get).index value.toNat
    modify fun machine => { machine with index := total % 65536 }
    return (.next, .proceeded)
  | .pointToGlyph => do
    let value ← register x
    modify fun machine => { machine with index := Font.glyphAddress value }
    return (.next, .proceeded)
  | .storeDecimal => do
    let value ← register x
    onMemory (writeSlice (← get).index (Machine.decimal value))
    return (.next, .proceeded)
  | .storeRegisters => do
    let values ← firstRegisters x
    onMemory (writeSlice (← get).index values)
    return (.next, .proceeded)
  | .loadRegisters => do
    let length ← sum x 1
    let values ← onMemory (readSlice (← get).index length)
    setFirstRegisters x values
    return (.next, .proceeded)

def keyTest (test : KeyTest) (x : Nat) : Attempt (Machine G) Bool := do
  let value ← register x
  let pressed := (← get).keys.isPressed value.toNat
  match test with
  | .pressed => return pressed
  | .notPressed => return !pressed

def skipIf {σ : Type} (condition : Bool) : Attempt σ Report :=
  pure (.skipIf condition, .proceeded)

variable [Generator G]

def effect : Instruction → Attempt (Machine G) Report
  | .system .clear => do
    modify fun machine => { machine with screen := machine.screen.clear }
    return (.next, .drew)
  | .system .leave => do return (.jump (← pop), .proceeded)
  | .jump target => do return (← jumpTo target.val, .proceeded)
  | .call target => do
    let advance ← jumpTo target.val
    push (← apply .next (← get).counter)
    return (advance, .proceeded)
  | .skipIfEqual x value => do skipIf ((← register x.val) == value)
  | .skipUnlessEqual x value => do skipIf ((← register x.val) != value)
  | .skipIfSame x y => do skipIf ((← register x.val) == (← register y.val))
  | .set x value => do
    setRegister x.val value
    return (.next, .proceeded)
  | .increase x value => do
    setRegister x.val ((← register x.val) + value)
    return (.next, .proceeded)
  | .arith op x y => do
    arith op x.val y.val
    return (.next, .proceeded)
  | .skipUnlessSame x y => do skipIf ((← register x.val) != (← register y.val))
  | .setIndex target => do
    modify fun machine => { machine with index := target.val }
    return (.next, .proceeded)
  | .jumpFrom base => do
    let offset ← register 0
    return (← jumpTo (← sum base.val offset.toNat), .proceeded)
  | .random x mask => do
    let drawn ← modifyGet fun machine =>
      ((Generator.draw machine.random).1, { machine with random := (Generator.draw machine.random).2 })
    setRegister x.val (drawn &&& mask)
    return (.next, .proceeded)
  | .draw x y height => do
    let sprite ← onMemory (readSlice (← get).index height.val)
    let column ← register x.val
    let line ← register y.val
    let collided ← onScreen (draw column.toNat line.toNat sprite)
    setRegister 15 (if collided then 1 else 0)
    return (.next, .drew)
  | .key test x => do skipIf (← keyTest test x.val)
  | .misc op x => misc x.val op
  | .unknown word => return (.next, .unimplemented word)

/-- Memory that is out of reach makes the machine pass over the instruction, in the state that the
instruction has left. -/
def execute (instruction : Instruction) : Attempt (Machine G) Outcome := do
  let (advance, outcome) ← tryCatch (effect instruction) fun
    | .fault (.memory cause) => return (.next, .rejected cause)
    | stop => throw stop
  move advance
  return outcome

def stackPlaces : Attempt (Machine G) (List Nat) := do
  let machine ← get
  if machine.stack.length ≤ Machine.stackLimit then return machine.stackPlaces else throw .stuck

def halt (fault : Fault) : Attempt (Machine G) (Except Fault Outcome) := do
  let _ ← stackPlaces
  modify fun machine => machine.halt fault
  return .error fault

def fetch : Attempt (Machine G) Unit := do
  let machine ← get
  match machine.memory.fetch machine.counter with
  | .error cause => throw (.fault (.fetch cause))
  | .ok word => set { machine with word := word }

/-- Every fault halts the machine in the state in which it has stopped. -/
def step (keys : Keypad) : Attempt (Machine G) (Except Fault Outcome) := do
  if (← get).isHalted then return .error .halted
  else
    modify fun machine => { machine with keys := keys }
    tryCatch
      (do
        fetch
        return .ok (← execute (.decode (← get).word)))
      fun
      | .fault fault => halt fault
      | .stuck => throw .stuck

end Checked

end SpriteMachine
