import SpriteMachine.Proofs.Recall
import SpriteMachine.Proofs.WriteSets

/-! Registers kept in memory. What a storing instruction leaves there is what the loading one with the
same operand takes from there, up to the last byte of memory, as long as the pointer and these bytes are
found again. Nothing else has to be. Decimal digits are loaded as the number that they were made from. -/

namespace SpriteMachine

theorem Memory.store_slice (memory : Memory) {start length : Nat} (fits : start + length ≤ size) :
    memory.store start (memory.slice start length) = memory := by
  refine ext_byte fun address _ => ?_
  rw [byte_store_eq_getD memory (by rwa [length_slice])]
  split
  · next before =>
    rcases Nat.lt_or_ge (address - start) length with inside | outside
    · rw [getElem?_slice _ _ inside, Nat.add_sub_cancel' before, Option.getD_some]
    · rw [List.getElem?_eq_none (by rwa [length_slice]), Option.getD_none]
  · rfl

namespace Machine

open Instruction

variable {G : Type}

theorem exists_digits (value : UInt8) :
    ∃ hundreds tens ones : UInt8, decimal value = [hundreds, tens, ones] ∧
      hundreds.toNat ≤ 9 ∧ tens.toNat ≤ 9 ∧ ones.toNat ≤ 9 ∧
        100 * hundreds.toNat + 10 * tens.toNat + ones.toNat = value.toNat := by
  have small := value.toNat_lt
  have hundreds : (value / 100).toNat = value.toNat / 100 := UInt8.toNat_div value 100
  have tens : (value / 10 % 10).toNat = value.toNat / 10 % 10 := by
    rw [UInt8.toNat_mod, UInt8.toNat_div]
    rfl
  have ones : (value % 10).toNat = value.toNat % 10 := UInt8.toNat_mod value 10
  refine ⟨value / 100, value / 10 % 10, value % 10, rfl, ?_⟩
  rw [hundreds, tens, ones]
  omega

theorem getElem?_firstRegisters (machine : Machine G) {x z : Register} (within : z ≤ x) :
    (machine.firstRegisters x)[z.val]? = some (machine.register z) := by
  have short : z.val < x.val + 1 := Nat.lt_succ_of_le within
  simp [firstRegisters, register, short]

def storing (machine : Machine G) (values : List UInt8) : Machine G :=
  { machine with memory := machine.memory.store machine.index values }.move .next

@[simp] theorem index_storing (machine : Machine G) (values : List UInt8) :
    (machine.storing values).index = machine.index := rfl

@[simp] theorem memory_storing (machine : Machine G) (values : List UInt8) :
    (machine.storing values).memory = machine.memory.store machine.index values := rfl

def loading (machine : Machine G) (values : List UInt8) : Machine G :=
  (machine.setFirstRegisters values).move .next

@[simp] theorem index_loading (machine : Machine G) (values : List UInt8) :
    (machine.loading values).index = machine.index := by
  simp only [loading, move, setFirstRegisters]

@[simp] theorem memory_loading (machine : Machine G) (values : List UInt8) :
    (machine.loading values).memory = machine.memory := by
  simp only [loading, move, setFirstRegisters]

theorem register_loading (machine : Machine G) (values : List UInt8) (z : Register) :
    (machine.loading values).register z = values[z.val]?.getD (machine.register z) := by
  have moved : (machine.loading values).register z = (machine.setFirstRegisters values).register z := by
    simp only [loading, move, register]
  rw [moved, register_setFirstRegisters]

theorem firstRegisters_loading (machine : Machine G) {x : Register} {values : List UInt8}
    (count : values.length = x.val + 1) : (machine.loading values).firstRegisters x = values := by
  have length := (machine.loading values).length_firstRegisters x
  refine List.ext_getElem? fun k => ?_
  rcases Nat.lt_or_ge k (x.val + 1) with inside | outside
  · let z : Register := ⟨k, Nat.lt_of_lt_of_le inside x.isLt⟩
    have within : z ≤ x := Nat.le_of_lt_succ inside
    have loaded := (machine.loading values).getElem?_firstRegisters within
    have value : values[k]? = some values[k] := List.getElem?_eq_getElem (count ▸ inside)
    rw [register_loading, value, Option.getD_some] at loaded
    exact loaded.trans value.symm
  · rw [List.getElem?_eq_none (length ▸ outside), List.getElem?_eq_none (count ▸ outside)]

/-- The other machine points to the same place and finds the same bytes there. All else may differ. -/
structure FindsAgain (kept found : Machine G) (count : Nat) : Prop where
  index : found.index = kept.index
  bytes : found.memory.slice kept.index count = kept.memory.slice kept.index count

theorem FindsAgain.refl (machine : Machine G) (count : Nat) : machine.FindsAgain machine count :=
  ⟨rfl, rfl⟩

theorem FindsAgain.slice_eq {machine found : Machine G} {values : List UInt8}
    (again : (machine.storing values).FindsAgain found values.length)
    (fits : machine.index + values.length ≤ Memory.size) :
    found.memory.slice found.index values.length = values := by
  have bytes := again.bytes
  rw [index_storing, memory_storing, machine.memory.slice_store values fits] at bytes
  rw [again.index, index_storing, bytes]

variable [Generator G]

section Words

variable {machine : Machine G} {x : Register}

theorem execute_storeRegisters (fits : machine.index + (x.val + 1) ≤ Memory.size) :
    machine.execute (decode (layoutByte 0xF x 0x55)) =
      (.ok .proceeded, machine.storing (machine.firstRegisters x)) := by
  have decoded : decode (layoutByte 0xF x 0x55) = .misc .storeRegisters x := (decode_eq_iff rfl).2 rfl
  have clear : machine.obstacle? (.misc .storeRegisters x) = none := rangeObstacle?_eq_none_iff.2 fits
  rw [decoded, execute_of_clear clear]
  rfl

theorem execute_loadRegisters (fits : machine.index + (x.val + 1) ≤ Memory.size) :
    machine.execute (decode (layoutByte 0xF x 0x65)) =
      (.ok .proceeded, machine.loading (machine.memory.slice machine.index (x.val + 1))) := by
  have decoded : decode (layoutByte 0xF x 0x65) = .misc .loadRegisters x := (decode_eq_iff rfl).2 rfl
  have clear : machine.obstacle? (.misc .loadRegisters x) = none := rangeObstacle?_eq_none_iff.2 fits
  rw [decoded, execute_of_clear clear]
  rfl

theorem execute_storeDecimal (fits : machine.index + 3 ≤ Memory.size) :
    machine.execute (decode (layoutByte 0xF x 0x33)) =
      (.ok .proceeded, machine.storing (decimal (machine.register x))) := by
  have decoded : decode (layoutByte 0xF x 0x33) = .misc .storeDecimal x := (decode_eq_iff rfl).2 rfl
  have clear : machine.obstacle? (.misc .storeDecimal x) = none := rangeObstacle?_eq_none_iff.2 fits
  rw [decoded, execute_of_clear clear]
  rfl

theorem execute_loadRegisters_of_findsAgain {values : List UInt8} (count : values.length = x.val + 1)
    (fits : machine.index + (x.val + 1) ≤ Memory.size) {found : Machine G}
    (again : (machine.storing values).FindsAgain found (x.val + 1)) :
    found.execute (decode (layoutByte 0xF x 0x65)) = (.ok .proceeded, found.loading values) := by
-- Only the pointer and the bytes it points to are looked at.
  have room : found.index + (x.val + 1) ≤ Memory.size := by rwa [again.index]
  rw [← count] at fits again
  have bytes := again.slice_eq fits
  rw [count] at bytes
  rw [execute_loadRegisters room, bytes]

theorem execute_of_no_room (outside : Memory.size < machine.index + (x.val + 1)) :
    (machine.execute (decode (layoutByte 0xF x 0x65))).2 = machine.move .next ∧
      (machine.execute (decode (layoutByte 0xF x 0x55))).2 = machine.move .next := by
  have loads : decode (layoutByte 0xF x 0x65) = .misc .loadRegisters x := (decode_eq_iff rfl).2 rfl
  have stores : decode (layoutByte 0xF x 0x55) = .misc .storeRegisters x := (decode_eq_iff rfl).2 rfl
  have short : x.val + 1 ≤ Memory.size := Nat.le_trans x.isLt (by decide)
  have blocked := (rangeObstacle?_eq_some_iff short).2 ⟨outside, rfl⟩
  have noLoading : machine.obstacle? (.misc .loadRegisters x) = some (.memory _) := blocked
  have noStoring : machine.obstacle? (.misc .storeRegisters x) = some (.memory _) := blocked
  rw [loads, stores, execute_of_memory noLoading, execute_of_memory noStoring]
  exact ⟨rfl, rfl⟩

theorem memory_storeRegisters_loadRegisters (machine : Machine G) (x : Register) :
    ((machine.execute (decode (layoutByte 0xF x 0x65))).2.execute
      (decode (layoutByte 0xF x 0x55))).2.memory = machine.memory := by
  rcases Nat.lt_or_ge Memory.size (machine.index + (x.val + 1)) with outside | fits
  · have still : Memory.size < (machine.move .next).index + (x.val + 1) := outside
    rw [(execute_of_no_room outside).1, (execute_of_no_room still).2]
    rfl
  · let values := machine.memory.slice machine.index (x.val + 1)
    have count : values.length = x.val + 1 := machine.memory.length_slice _ _
    have room : (machine.loading values).index + (x.val + 1) ≤ Memory.size := by rwa [index_loading]
    rw [execute_loadRegisters fits, execute_storeRegisters room, machine.firstRegisters_loading count,
      memory_storing, index_loading, memory_loading, machine.memory.store_slice fits]

end Words

/-- Registers that were stored are loaded again, by any machine that finds them where they were left, and
loading leaves its other registers, its pointer and its memory alone. Loading before storing changes no
byte. The three digits of a register are loaded as digits of its value, also into that register itself. -/
theorem stored_registers_load_again :
    (∀ (machine : Machine G) (x : Register), machine.index + x.val ≤ 4095 →
      let stored := machine.execute (decode (layoutByte 0xF x 0x55))
      stored.1 = .ok .proceeded ∧
        ∀ found, stored.2.FindsAgain found (x.val + 1) →
          let loaded := found.execute (decode (layoutByte 0xF x 0x65))
          loaded.1 = .ok .proceeded ∧
            (∀ z, z ≤ x → loaded.2.register z = machine.register z) ∧
            (∀ z, x < z → loaded.2.register z = found.register z) ∧
            loaded.2.index = found.index ∧ loaded.2.memory = found.memory) ∧
    (∀ (machine : Machine G) (x : Register),
      ((machine.execute (decode (layoutByte 0xF x 0x65))).2.execute
        (decode (layoutByte 0xF x 0x55))).2.memory = machine.memory) ∧
    ∀ (machine : Machine G) (x : Register), machine.index + 2 ≤ 4095 →
      let stored := machine.execute (decode (layoutByte 0xF x 0x33))
      let loaded := stored.2.execute (decode 0xF265)
      stored.1 = .ok .proceeded ∧ loaded.1 = .ok .proceeded ∧
        (loaded.2.register 0).toNat ≤ 9 ∧ (loaded.2.register 1).toNat ≤ 9 ∧
        (loaded.2.register 2).toNat ≤ 9 ∧
        100 * (loaded.2.register 0).toNat + 10 * (loaded.2.register 1).toNat +
          (loaded.2.register 2).toNat = (machine.register x).toNat := by
  refine ⟨fun machine x inside => ?_, memory_storeRegisters_loadRegisters, fun machine x inside => ?_⟩
  · have count := machine.length_firstRegisters x
    have fits : machine.index + (x.val + 1) ≤ Memory.size := Nat.succ_le_succ inside
    dsimp only
    rw [execute_storeRegisters fits]
    refine ⟨rfl, fun found again => ?_⟩
    rw [execute_loadRegisters_of_findsAgain count fits again]
    refine ⟨rfl, fun z within => ?_, fun z beyond => ?_, found.index_loading _, found.memory_loading _⟩
    · rw [register_loading, machine.getElem?_firstRegisters within, Option.getD_some]
    · rw [register_loading, List.getElem?_eq_none (count ▸ Nat.succ_le_of_lt beyond), Option.getD_none]
  · obtain ⟨hundreds, tens, ones, digits, first, second, third, total⟩ := exists_digits (machine.register x)
    have fits : machine.index + 3 ≤ Memory.size := Nat.succ_le_succ inside
    have word : (0xF265 : UInt16) = layoutByte 0xF 2 0x65 := rfl
    have again := FindsAgain.refl (machine.storing [hundreds, tens, ones]) 3
    dsimp only
    rw [execute_storeDecimal fits, digits, word, execute_loadRegisters_of_findsAgain rfl fits again]
    refine ⟨rfl, rfl, ?_⟩
    simp only [register_loading]
    exact ⟨first, second, third, total⟩

theorem last_bytes_load_again :
    let idle : Machine Stride := fresh Memory.initial Screen.blank ⟨0, 0⟩
    let machine := { idle with index := 4094 }.setRegister 1 203
    let stored := machine.execute (decode 0xF155)
    let found := { stored.2 with registers := Vector.replicate 16 7, counter := 0x300, stack := [0x204] }
    let early := { machine with index := 4093 }
    let digits := ((early.execute (decode 0xF133)).2.execute (decode 0xF265)).2
    machine.index + 1 ≤ 4095 ∧ stored.2.FindsAgain found 2 ∧
      (found.execute (decode 0xF165)).2.register 1 = 203 ∧
      (found.execute (decode 0xF165)).2.register 2 = 7 ∧ early.index + 2 ≤ 4095 ∧
      100 * (digits.register 0).toNat + 10 * (digits.register 1).toNat + (digits.register 2).toNat =
        203 := by
  intro idle machine stored found early digits
  have inside : machine.index + (1 : Register).val ≤ 4095 := Nat.le_refl 4095
  have inside' : early.index + 2 ≤ 4095 := Nat.le_refl 4095
  have again : stored.2.FindsAgain found 2 := ⟨rfl, rfl⟩
  obtain ⟨loads, _, numbers⟩ := stored_registers_load_again (G := Stride)
  obtain ⟨_, low, high, _⟩ := (loads machine 1 inside).2 found again
  obtain ⟨_, _, _, _, _, total⟩ := numbers early 1 inside'
  have before : machine.register 1 = 203 := by
    rw [register_setRegister]
    rfl
  exact ⟨inside, again, (low 1 (Nat.le_refl 1)).trans before, high 2 (by decide), inside',
    total.trans (congrArg UInt8.toNat before)⟩

end Machine

end SpriteMachine
