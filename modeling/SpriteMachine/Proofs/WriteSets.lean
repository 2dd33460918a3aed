import SpriteMachine.Proofs.Arithmetic
import SpriteMachine.Proofs.CallStack
import SpriteMachine.Proofs.ControlFlow

/-! What a step can write to. `Writes` lists the words by their digits, each with the bytes, the registers
and the other parts that it may change when it is carried out. All else stays as it was, so over a run a
byte keeps its value until some word stores to it, and the font is there as long as nothing is stored to
it. -/

namespace SpriteMachine

namespace Memory

theorem slice_store (memory : Memory) {start : Nat} (data : List UInt8)
    (fits : start + data.length ≤ size) : (memory.store start data).slice start data.length = data := by
  refine List.ext_getElem? fun offset => ?_
  by_cases inside : offset < data.length
  · rw [getElem?_slice _ _ inside, byte_store _ _ _ fits, if_pos (by omega), Nat.add_sub_cancel_left]
    simp [inside]
  · have outside : data.length ≤ offset := Nat.le_of_not_lt inside
    rw [List.getElem?_eq_none (by rwa [length_slice]), List.getElem?_eq_none outside]

theorem byte_store_eq_or (memory : Memory) {start : Nat} {data : List UInt8}
    (fits : start + data.length ≤ size) (address : Nat) :
    (memory.store start data).byte address = memory.byte address ∨
      start ≤ address ∧ address < start + data.length := by
  rw [byte_store _ _ _ fits]
  split
  · exact .inr (by assumption)
  · exact .inl rfl

end Memory

/-- A byte of memory, a register, or one of the other parts of a machine. Together these are all of it
except what belongs to stepping. -/
inductive Place where
  | byte (address : Nat)
  | register (x : Register)
  | part (part : Part)
  deriving DecidableEq

namespace Machine

open Instruction

variable {G : Type}

def AgreeAt (first second : Machine G) : Place → Prop
  | .byte address => first.memory.byte address = second.memory.byte address
  | .register x => first.register x = second.register x
  | .part part => first.AgreeOn second part

theorem eq_of_agreeAt {first second : Machine G} (same : ∀ place, second.AgreeAt first place) :
    second = { first with
      word := second.word, keys := second.keys, counter := second.counter, fault := second.fault } := by
  have registers : second.registers = first.registers :=
    Vector.ext fun x inside => same (.register ⟨x, inside⟩)
  have memory : second.memory = first.memory := same (.part .memory)
  have screen : second.screen = first.screen := same (.part .screen)
  have index : second.index = first.index := same (.part .index)
  have stack : second.stack = first.stack := same (.part .stack)
  have delay : second.delay = first.delay := same (.part .delay)
  have sound : second.sound = first.sound := same (.part .sound)
  have random : second.random = first.random := same (.part .random)
  rw [← registers, ← memory, ← screen, ← index, ← stack, ← delay, ← sound, ← random]

/-- The places that a word may change when it is carried out. -/
inductive Writes (machine : Machine G) (keys : Keypad) : UInt16 → Place → Prop
  | storeDecimal (x : Register) (address : Nat)
      (within : machine.index ≤ address ∧ address < machine.index + 3) :
      machine.Writes keys (layoutByte 0xF x 0x33) (.byte address)
  | storeRegisters (x : Register) (address : Nat)
      (within : machine.index ≤ address ∧ address < machine.index + (x.val + 1)) :
      machine.Writes keys (layoutByte 0xF x 0x55) (.byte address)
  | memory (word : UInt16) (address : Nat) (stored : machine.Writes keys word (.byte address)) :
      machine.Writes keys word (.part .memory)
  | setIndex (target : Address) : machine.Writes keys (layoutAddress 0xA target) (.part .index)
  | addToIndex (x : Register) : machine.Writes keys (layoutByte 0xF x 0x1E) (.part .index)
  | pointToGlyph (x : Register) : machine.Writes keys (layoutByte 0xF x 0x29) (.part .index)
  | call (target : Address) : machine.Writes keys (layoutAddress 0x2 target) (.part .stack)
  | leave : machine.Writes keys 0x00EE (.part .stack)
  | setDelay (x : Register) : machine.Writes keys (layoutByte 0xF x 0x15) (.part .delay)
  | setSound (x : Register) : machine.Writes keys (layoutByte 0xF x 0x18) (.part .sound)
  | random (x : Register) (mask : UInt8) :
      machine.Writes keys (layoutByte 0xC x mask.toNat) (.part .random)
  | clear : machine.Writes keys 0x00E0 (.part .screen)
  | draw (x y : Register) (height : Fin 16) :
      machine.Writes keys (layoutDigits 0xD x y height.val) (.part .screen)
  | drawFlag (x y : Register) (height : Fin 16) :
      machine.Writes keys (layoutDigits 0xD x y height.val) (.register flagRegister)
  | set (x : Register) (value : UInt8) :
      machine.Writes keys (layoutByte 0x6 x value.toNat) (.register x)
  | increase (x : Register) (value : UInt8) :
      machine.Writes keys (layoutByte 0x7 x value.toNat) (.register x)
  | arith (op : ArithOp) (x y : Register) :
      machine.Writes keys (layoutDigits 0x8 x y op.selector) (.register x)
  | arithFlag (op : ArithOp) (flagged : op.selector ∈ [0x4, 0x5, 0x6, 0x7, 0xE]) (x y : Register) :
      machine.Writes keys (layoutDigits 0x8 x y op.selector) (.register flagRegister)
  | randomRegister (x : Register) (mask : UInt8) :
      machine.Writes keys (layoutByte 0xC x mask.toNat) (.register x)
  | getDelay (x : Register) : machine.Writes keys (layoutByte 0xF x 0x07) (.register x)
  | awaitKey (x : Register) (key : Nat) (pressed : keys.isPressed key = true) :
      machine.Writes keys (layoutByte 0xF x 0x0A) (.register x)
  | loadRegisters (x z : Register) (within : z ≤ x) :
      machine.Writes keys (layoutByte 0xF x 0x65) (.register z)

theorem writes_part {machine : Machine G} {keys : Keypad} {instruction : Instruction} {part : Part}
    (written : instruction.writes part = true) : machine.Writes keys instruction.encode (.part part) := by
  cases instruction with
  | system op =>
    cases op <;> cases part <;> cases written
    case clear.screen.refl => exact .clear
    case leave.stack.refl => exact .leave
  | call target =>
    cases part <;> cases written
    exact .call target
  | setIndex target =>
    cases part <;> cases written
    exact .setIndex target
  | random x mask =>
    cases part <;> cases written
    exact .random x mask
  | draw x y height =>
    cases part <;> cases written
    exact .draw x y height
  | misc op x =>
    cases op <;> cases part <;> cases written
    case setDelay.delay.refl => exact .setDelay x
    case setSound.sound.refl => exact .setSound x
    case addToIndex.index.refl => exact .addToIndex x
    case pointToGlyph.index.refl => exact .pointToGlyph x
    case storeDecimal.memory.refl => exact .memory _ machine.index (.storeDecimal x _ (by omega))
    case storeRegisters.memory.refl => exact .memory _ machine.index (.storeRegisters x _ (by omega))
  | _ => cases written

theorem register_setRegister_eq_or (machine : Machine G) (x : Register) (value : UInt8) (z : Register) :
    (machine.setRegister x value).register z = machine.register z ∨ x = z := by
  rw [register_setRegister]
  split
  · exact .inr (by assumption)
  · exact .inl rfl

theorem register_arith_eq_or (machine : Machine G) (op : ArithOp) (x y z : Register) :
    (machine.arith op x y).register z = machine.register z ∨ x = z ∨
      flagRegister = z ∧ op.selector ∈ [0x4, 0x5, 0x6, 0x7, 0xE] := by
  by_cases same : x = z
  · exact .inr (.inl same)
  cases flagged : op.flag? (machine.register x) (machine.register y) with
  | none =>
    rw [register_arith_of_unflagged flagged, if_neg same]
    exact .inl rfl
  | some flag =>
    rw [register_arith_of_flagged flagged, if_neg same]
    split
    · next last =>
      refine .inr (.inr ⟨last, ?_⟩)
      cases op <;> first | decide | cases flagged
    · exact .inl rfl

theorem register_setFirstRegisters_eq_or (machine : Machine G) {x : Register} {values : List UInt8}
    (count : values.length = x.val + 1) (z : Register) :
    (machine.setFirstRegisters values).register z = machine.register z ∨ z ≤ x := by
  rw [register_setFirstRegisters]
  rcases Nat.lt_or_ge x.val z.val with after | before
  · rw [List.getElem?_eq_none (by omega)]
    exact .inl rfl
  · exact .inr before

variable [Generator G]

def Confines (machine : Machine G) (keys : Keypad) (instruction : Instruction) (place : Place) : Prop :=
  ((machine.primed keys).effect instruction).machine.AgreeAt machine place ∨
    machine.Writes keys instruction.encode place

section Places

variable {machine : Machine G} {keys : Keypad} {instruction : Instruction}

theorem confines_byte (clear : machine.obstacle? instruction = none) (address : Nat) :
    machine.Confines keys instruction (.byte address) := by
  cases spared : instruction.writes .memory with
  | false =>
    have kept := (machine.primed keys).effect_agreeOn instruction spared
    exact .inl (congrArg (Memory.byte · address) kept)
  | true =>
    cases instruction with
    | system op => cases op <;> cases spared
    | misc op x =>
      cases op with
      | storeDecimal =>
        have fits : machine.index + 3 ≤ Memory.size := rangeObstacle?_eq_none_iff.1 clear
        exact (machine.memory.byte_store_eq_or fits address).imp id (.storeDecimal x address)
      | storeRegisters =>
        have fits : machine.index + (x.val + 1) ≤ Memory.size := rangeObstacle?_eq_none_iff.1 clear
        rw [← machine.length_firstRegisters x] at fits
        have stored := machine.memory.byte_store_eq_or fits address
        rw [machine.length_firstRegisters x] at stored
        exact stored.imp id (.storeRegisters x address)
      | _ => cases spared
    | _ => cases spared

theorem confines_register (x : Register) : machine.Confines keys instruction (.register x) := by
  let primed := machine.primed keys
  cases instruction with
  | set y value =>
    refine (primed.register_setRegister_eq_or y value x).imp id ?_
    rintro rfl
    exact .set y value
  | increase y value =>
    refine (primed.register_setRegister_eq_or y (primed.register y + value) x).imp id ?_
    rintro rfl
    exact .increase y value
  | arith op y z =>
    refine (primed.register_arith_eq_or op y z x).imp id ?_
    rintro (rfl | ⟨rfl, flagged⟩)
    · exact .arith op y z
    · exact .arithFlag op flagged y z
  | random y mask =>
    refine (primed.register_setRegister_eq_or y ((Generator.draw machine.random).1 &&& mask) x).imp id ?_
    rintro rfl
    exact .randomRegister y mask
  | draw y z height =>
    refine (primed.register_setRegister_eq_or flagRegister _ x).imp id ?_
    rintro rfl
    exact .drawFlag y z height
  | misc op y =>
    cases op with
    | getDelay =>
      refine (primed.register_setRegister_eq_or y machine.delay.value x).imp id ?_
      rintro rfl
      exact .getDelay y
    | awaitKey =>
      cases found : primed.keys.firstPressed with
      | none =>
        refine .inl ?_
        simp only [effect, misc, found, primed]
        rfl
      | some key =>
        have stored := primed.register_setRegister_eq_or y (UInt8.ofNat key.val) x
        simp only [Confines, effect, misc, found, primed]
        refine stored.imp id ?_
        rintro rfl
        exact .awaitKey y key (Keypad.isPressed_of_firstPressed found)
    | loadRegisters =>
      have count := machine.memory.length_slice machine.index (y.val + 1)
      exact (primed.register_setFirstRegisters_eq_or count x).imp id (.loadRegisters y x)
    | _ => exact .inl rfl
  | system op => cases op <;> exact .inl rfl
  | _ => exact .inl rfl

theorem confines_part (part : Part) : machine.Confines keys instruction (.part part) := by
  cases written : instruction.writes part with
  | true => exact .inr (writes_part written)
  | false =>
    have kept := (machine.primed keys).effect_agreeOn instruction written
    refine .inl ?_
    cases part <;> exact kept

theorem confines (clear : machine.obstacle? instruction = none) (place : Place) :
    machine.Confines keys instruction place := by
  cases place with
  | byte address => exact confines_byte clear address
  | register x => exact confines_register x
  | part part => exact confines_part part

end Places

section Steps

variable {machine : Machine G} {keys : Keypad}

def CarriesOut (machine : Machine G) (keys : Keypad) (word : UInt16) : Prop :=
  machine.fetched? = some word ∧
    ∃ outcome, (machine.step keys).1 = .ok outcome ∧ ∀ cause, outcome ≠ .rejected cause

theorem carriesOut_iff {word : UInt16} :
    machine.CarriesOut keys word ↔
      machine.fetched? = some word ∧ machine.performs? (.step keys) = some (.decode word) := by
  refine and_congr_right fun fetched => ⟨?_, fun performed => ?_⟩
  · rintro ⟨outcome, ok, accepted⟩
    cases outcome with
    | rejected cause => exact absurd rfl (accepted cause)
    | _ => simp [performs?, ok, fetched]
  · rw [step_of_performs performed]
    exact ⟨_, rfl, effect_outcome_ne_rejected _ _⟩

theorem performs?_of_carriesOut (instruction : Instruction) (known : instruction.isKnown = true)
    (carried : machine.CarriesOut keys instruction.encode) :
    machine.performs? (.step keys) = some instruction := by
  rw [(carriesOut_iff.1 carried).2, decode_encode known]

theorem carriesOut_of_performs {instruction : Instruction}
    (performed : machine.performs? (.step keys) = some instruction) :
    machine.CarriesOut keys instruction.encode := by
  obtain ⟨_, ⟨word, fetched, rfl⟩, _⟩ := performs?_eq_some_iff.1 performed
  rw [encode_decode]
  exact carriesOut_iff.2 ⟨fetched, performed⟩

theorem writes_of_step (place : Place) (changed : ¬ (machine.step keys).2.AgreeAt machine place) :
    ∃ word, machine.CarriesOut keys word ∧ machine.Writes keys word place := by
  rcases performed : machine.performs? (.step keys) with _ | instruction
  · obtain ⟨_, _, _, _, same⟩ := step_of_idle performed
    refine absurd ?_ changed
    rw [same]
    rcases place with address | x | part
    · rfl
    · rfl
    · cases part <;> rfl
  · have clear := (performs?_eq_some_iff.1 performed).2.2
    refine ⟨instruction.encode, carriesOut_of_performs performed, ?_⟩
-- The instruction leaves the place alone or writes to it, and the place has changed.
    refine (confines clear place).resolve_left fun kept => changed ?_
    rw [step_of_performs performed]
    rcases place with address | x | part
    · exact kept
    · exact kept
    · cases part <;> exact kept

theorem effect_outcome_eq_drew_iff {instruction : Instruction} :
    (machine.effect instruction).outcome = .drew ↔
      instruction = .system .clear ∨ ∃ x y height, instruction = .draw x y height := by
  cases instruction with
  | system op => cases op <;> simp [effect]
  | misc op x =>
    cases op with
    | awaitKey =>
      simp only [effect, misc]
      split <;> simp
    | _ => simp [effect, misc]
  | _ => simp [effect]

theorem step_draws_iff (running : machine.isHalted = false) :
    (machine.step keys).1 = .ok .drew ↔
      machine.fetched? = some 0x00E0 ∨
        ∃ (x y : Register) (height : Fin 16),
          machine.fetched? = some (layoutDigits 0xD x y height.val) ∧
            machine.index + height.val ≤ 4096 := by
  cases fetched : machine.fetched? with
  | none => simp [step_of_unfetched running fetched]
  | some word =>
    have clears : decode word = .system .clear ↔ word = 0x00E0 := decode_eq_iff rfl
    have draws (x y : Register) (height : Fin 16) :
        decode word = .draw x y height ↔ word = layoutDigits 0xD x y height.val := decode_eq_iff rfl
    rw [step_ok_iff running fetched (by simp), effect_outcome_eq_drew_iff]
    simp only [Option.some.injEq, ← clears, ← draws]
    constructor
    · rintro ⟨clear, cleared | ⟨x, y, height, drawn⟩⟩
      · exact .inl cleared
      · rw [drawn] at clear
        exact .inr ⟨x, y, height, drawn, rangeObstacle?_eq_none_iff.1 clear⟩
    · rintro (cleared | ⟨x, y, height, drawn, fits⟩)
      · rw [cleared]
        exact ⟨rfl, .inl rfl⟩
      · rw [drawn]
        exact ⟨rangeObstacle?_eq_none_iff.2 fits, .inr ⟨x, y, height, rfl⟩⟩

theorem step_draws_of_screen_ne (changed : (machine.step keys).2.screen ≠ machine.screen) :
    (machine.step keys).1 = .ok .drew := by
  obtain ⟨word, carried, writes⟩ := writes_of_step (.part .screen) changed
  cases writes with
  | clear =>
    rw [step_of_performs (performs?_of_carriesOut (.system .clear) rfl carried)]
    rfl
  | draw x y height =>
    rw [step_of_performs (performs?_of_carriesOut (.draw x y height) rfl carried)]
    rfl

theorem memory_of_storeDecimal {x : Register}
    (carried : machine.CarriesOut keys (layoutByte 0xF x 0x33)) :
    machine.index + 3 ≤ 4096 ∧
      (machine.step keys).2.memory.slice machine.index 3 = decimal (machine.register x) := by
  have performed := performs?_of_carriesOut (.misc .storeDecimal x) rfl carried
  have fits : machine.index + 3 ≤ Memory.size :=
    rangeObstacle?_eq_none_iff.1 (performs?_eq_some_iff.1 performed).2.2
  refine ⟨fits, ?_⟩
  rw [step_of_performs performed]
  exact machine.memory.slice_store (decimal (machine.register x)) fits

theorem memory_of_storeRegisters {x : Register}
    (carried : machine.CarriesOut keys (layoutByte 0xF x 0x55)) :
    machine.index + (x.val + 1) ≤ 4096 ∧
      (machine.step keys).2.memory.slice machine.index (x.val + 1) = machine.firstRegisters x := by
  have performed := performs?_of_carriesOut (.misc .storeRegisters x) rfl carried
  have fits : machine.index + (x.val + 1) ≤ Memory.size :=
    rangeObstacle?_eq_none_iff.1 (performs?_eq_some_iff.1 performed).2.2
  refine ⟨fits, ?_⟩
  rw [← machine.length_firstRegisters x] at fits ⊢
  rw [step_of_performs performed]
  exact machine.memory.slice_store (machine.firstRegisters x) fits

theorem index_of_pointToGlyph {x : Register}
    (carried : machine.CarriesOut keys (layoutByte 0xF x 0x29)) :
    (machine.step keys).2.index = Font.glyphAddress (machine.register x) := by
  have performed := performs?_of_carriesOut (.misc .pointToGlyph x) rfl carried
  rw [step_of_performs performed]
  rfl

end Steps

/-- The list of words accounts for all that a step does. What is stored, pushed and popped is as much as
the list says, and the screen only changes when the step reports that it drew. -/
structure WritesAsListed (machine : Machine G) (keys : Keypad) : Prop where
  places : ∀ place, ¬ (machine.step keys).2.AgreeAt machine place →
    ∃ word, machine.CarriesOut keys word ∧ machine.Writes keys word place
  rest : (∀ place, (machine.step keys).2.AgreeAt machine place) →
    (machine.step keys).2 = { machine with
      word := (machine.step keys).2.word, keys := (machine.step keys).2.keys
      counter := (machine.step keys).2.counter, fault := (machine.step keys).2.fault }
  decimal : ∀ x, machine.CarriesOut keys (layoutByte 0xF x 0x33) →
    machine.index + 3 ≤ 4096 ∧
      (machine.step keys).2.memory.slice machine.index 3 = Machine.decimal (machine.register x)
  registers : ∀ x, machine.CarriesOut keys (layoutByte 0xF x 0x55) →
    machine.index + (x.val + 1) ≤ 4096 ∧
      (machine.step keys).2.memory.slice machine.index (x.val + 1) = machine.firstRegisters x
  glyph : ∀ x, machine.CarriesOut keys (layoutByte 0xF x 0x29) →
    (machine.step keys).2.index = Font.glyphAddress (machine.register x)
  pushed : ∀ target, machine.CarriesOut keys (layoutAddress 0x2 target) →
    (machine.step keys).2.stack = (machine.counter + 2) :: machine.stack
  popped : machine.CarriesOut keys 0x00EE →
    ∃ back, machine.stack = back :: (machine.step keys).2.stack
  drew : machine.isHalted = false →
    ((machine.step keys).1 = .ok .drew ↔
      machine.fetched? = some 0x00E0 ∨
        ∃ (x y : Register) (height : Fin 16),
          machine.fetched? = some (layoutDigits 0xD x y height.val) ∧
            machine.index + height.val ≤ 4096)
  screen : (machine.step keys).2.screen ≠ machine.screen → (machine.step keys).1 = .ok .drew

theorem writesAsListed (machine : Machine G) (keys : Keypad) : machine.WritesAsListed keys where
  places := writes_of_step
  rest := eq_of_agreeAt
  decimal _ := memory_of_storeDecimal
  registers _ := memory_of_storeRegisters
  glyph _ := index_of_pointToGlyph
  pushed target carried := stack_act_of_call (performs?_of_carriesOut (.call target) rfl carried)
  popped carried := ⟨_, stack_eq_of_leave (performs?_of_carriesOut (.system .leave) rfl carried)⟩
  drew := step_draws_iff
  screen := step_draws_of_screen_ne

def StoresTo (machine : Machine G) (actions : List Action) (address : Nat) : Prop :=
  ∃ earlier keys later word, actions = earlier ++ .step keys :: later ∧
    (machine.run earlier).CarriesOut keys word ∧
    (machine.run earlier).Writes keys word (.byte address)

theorem StoresTo.cons {machine : Machine G} {action : Action} {later : List Action} {address : Nat}
    (stored : (machine.act action).StoresTo later address) :
    machine.StoresTo (action :: later) address := by
  obtain ⟨earlier, keys, rest, word, rfl, carried, writes⟩ := stored
  exact ⟨action :: earlier, keys, rest, word, rfl, carried, writes⟩

theorem byte_act {machine : Machine G} {action : Action} {later : List Action} {address : Nat}
    (spared : ¬ machine.StoresTo (action :: later) address) :
    (machine.act action).memory.byte address = machine.memory.byte address := by
  cases action with
  | tick | present => rfl
  | step keys =>
    refine Classical.byContradiction fun changed => spared ?_
    obtain ⟨word, carried, writes⟩ := writes_of_step (.byte address) changed
    exact ⟨[], keys, later, word, rfl, carried, writes⟩

theorem byte_run {machine : Machine G} {actions : List Action} {address : Nat}
    (spared : ¬ machine.StoresTo actions address) :
    (machine.run actions).memory.byte address = machine.memory.byte address := by
  induction actions generalizing machine with
  | nil => rfl
  | cons action later ih =>
    rw [run_cons, ih fun stored => spared stored.cons, byte_act spared]

theorem slice_run {machine : Machine G} {actions : List Action} {start length : Nat}
    (spared : ∀ address, start ≤ address → address < start + length →
      ¬ machine.StoresTo actions address) :
    (machine.run actions).memory.slice start length = machine.memory.slice start length := by
  refine List.map_congr_left fun offset inside => ?_
  have := List.mem_range.1 inside
  exact byte_run (spared (start + offset) (by omega) (by omega))

/-- A step writes to nothing but what the word that it carries out is listed with. So in every run a byte
that nothing is stored to keeps its value, and as long as nothing is stored to the font, every glyph is as
it was. -/
theorem steps_write_as_listed (machine : Machine G) (keys : Keypad) :
    machine.WritesAsListed keys ∧
      ∀ actions,
        (∀ address, ¬ machine.StoresTo actions address →
          (machine.run actions).memory.byte address = machine.memory.byte address) ∧
        ((∀ address, 0x50 ≤ address → address ≤ 0x9F → ¬ machine.StoresTo actions address) →
          ∀ digit, (machine.run actions).memory.slice (Font.glyphAddress digit) Font.glyphHeight =
            machine.memory.slice (Font.glyphAddress digit) Font.glyphHeight) := by
  refine ⟨machine.writesAsListed keys, fun actions => ⟨fun address => byte_run, fun spared digit => ?_⟩⟩
  have bounds := Font.glyphAddress_bounds digit
  simp only [Font.base] at bounds
  exact slice_run fun address from_start to_end => spared address (by omega) (by omega)

def counting : Machine Stride :=
  (fresh (Memory.initial.store Memory.programStart [0xF0, 0x33]) Screen.blank ⟨0, 0⟩).setRegister 0 123

theorem counting_keeps_font :
    counting.CarriesOut Keypad.released 0xF033 ∧
      (counting.step Keypad.released).2.memory.slice 0 3 = [1, 2, 3] ∧
      (∀ address, 0x50 ≤ address → address ≤ 0x9F →
        ¬ counting.StoresTo [.step Keypad.released] address) ∧
      (counting.run [.step Keypad.released]).memory.slice (Font.glyphAddress 0xA) Font.glyphHeight =
        [0xF0, 0x90, 0xF0, 0x90, 0x90] := by
  have stored : counting.memory = Memory.initial.store Memory.programStart [0xF0, 0x33] := rfl
  have pointed : counting.counter = Memory.programStart + 0 := rfl
  have decoded : Instruction.decode (Word.ofBytes 0xF0 0x33) = .misc .storeDecimal 0 :=
    (decode_eq_iff rfl).2 rfl
  have performed : counting.performs? (.step Keypad.released) = some (.misc .storeDecimal 0) :=
    performs?_store stored (by decide) pointed rfl rfl decoded rfl rfl _
  have carried : counting.CarriesOut Keypad.released 0xF033 := carriesOut_of_performs performed
  have spared : ∀ address, 0x50 ≤ address → address ≤ 0x9F →
      ¬ counting.StoresTo [.step Keypad.released] address := by
    rintro address from_font _ ⟨earlier, keys, later, word, split, _, writes⟩
    have start : counting.index = 0 := rfl
    cases earlier with
    | cons action rest => simp at split
    | nil =>
      cases writes with
      | storeDecimal x _ within | storeRegisters x _ within =>
        rw [run_nil, start] at within
        omega
  obtain ⟨listed, runs⟩ := steps_write_as_listed counting Keypad.released
  refine ⟨carried, ?_, spared, ?_⟩
  · have digits := (listed.decimal 0 carried).2
    have before : counting.register 0 = 123 := by
      rw [counting, register_setRegister]
      rfl
    rw [before] at digits
    exact digits
  · rw [(runs [.step Keypad.released]).2 spared 0xA, stored,
      Memory.slice_store_of_le _ (by decide) (by decide)]
    exact List.map_congr_left fun offset _ => Memory.byte_initial (0x82 + offset)

end Machine

end SpriteMachine
