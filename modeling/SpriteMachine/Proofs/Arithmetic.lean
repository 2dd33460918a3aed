import SpriteMachine.Proofs.Decoding
import SpriteMachine.Proofs.Steps
import SpriteMachine.Random.Stride

/-! What the instructions of group `8` compute, as equations between numbers without a limit. The flag of
a sum is its ninth bit, that of a difference says that nothing was borrowed, and that of a shift is the
bit which was pushed out. The equations leave no choice, and they hold for all operands, also where one
register is both and where the flag overwrites the result. -/

namespace SpriteMachine

namespace ArithOp

/-- The result and the flag that belong to two operands. The first four operations have no flag. -/
inductive Exact (x y result : UInt8) : ArithOp → Option UInt8 → Prop
  | assign (same : result = y) : Exact x y result assign none
  | or (either : result = x ||| y) : Exact x y result or none
  | and (both : result = x &&& y) : Exact x y result and none
  | xor (one : result = x ^^^ y) : Exact x y result xor none
  | add (flag : UInt8) (bit : flag.toNat ≤ 1)
      (sum : 256 * flag.toNat + result.toNat = x.toNat + y.toNat) : Exact x y result add (some flag)
  | sub (flag : UInt8) (bit : flag.toNat ≤ 1)
      (difference : result.toNat + y.toNat = x.toNat + 256 * (1 - flag.toNat)) :
      Exact x y result sub (some flag)
  | shiftRight (flag : UInt8) (bit : flag.toNat ≤ 1)
      (halves : 2 * result.toNat + flag.toNat = y.toNat) : Exact x y result shiftRight (some flag)
  | subReverse (flag : UInt8) (bit : flag.toNat ≤ 1)
      (difference : result.toNat + x.toNat = y.toNat + 256 * (1 - flag.toNat)) :
      Exact x y result subReverse (some flag)
  | shiftLeft (flag : UInt8) (bit : flag.toNat ≤ 1)
      (double : 256 * flag.toNat + result.toNat = 2 * y.toNat) : Exact x y result shiftLeft (some flag)

theorem carry_le_one (x y : UInt8) : (carry x y).toNat ≤ 1 := by
  rw [carry]
  split <;> decide

theorem noBorrow_le_one (x y : UInt8) : (noBorrow x y).toNat ≤ 1 := by
  rw [noBorrow]
  split <;> decide

theorem toNat_and_one (y : UInt8) : (y &&& 1).toNat = y.toNat % 2 := by
  rw [UInt8.toNat_and]
  exact Nat.and_one_is_mod y.toNat

theorem toNat_shiftRight_one (y : UInt8) : (y >>> 1).toNat = y.toNat / 2 := by
  rw [UInt8.toNat_shiftRight]
  exact Nat.shiftRight_eq_div_pow y.toNat 1

theorem toNat_shiftRight_seven (y : UInt8) : (y >>> 7).toNat = y.toNat / 128 := by
  rw [UInt8.toNat_shiftRight]
  exact Nat.shiftRight_eq_div_pow y.toNat 7

theorem toNat_shiftLeft_one (y : UInt8) : (y <<< 1).toNat = 2 * y.toNat % 256 := by
  rw [UInt8.toNat_shiftLeft, Nat.mul_comm]
  exact congrArg (· % 256) (Nat.shiftLeft_eq y.toNat 1)

theorem exact_result (op : ArithOp) (x y : UInt8) : Exact x y (op.result x y) op (op.flag? x y) := by
  have := y.toNat_lt
  cases op with
  | assign => exact .assign rfl
  | or => exact .or rfl
  | and => exact .and rfl
  | xor => exact .xor rfl
  | add => exact .add _ (carry_le_one x y) (carry_add x y)
  | sub => exact .sub _ (noBorrow_le_one x y) (sub_noBorrow x y)
  | subReverse => exact .subReverse _ (noBorrow_le_one y x) (sub_noBorrow y x)
  | shiftRight =>
    refine .shiftRight _ ?_ ?_
    · rw [toNat_and_one]
      omega
    · rw [result, toNat_and_one, toNat_shiftRight_one]
      omega
  | shiftLeft =>
    refine .shiftLeft _ ?_ ?_
    · rw [toNat_shiftRight_seven]
      omega
    · rw [result, toNat_shiftRight_seven, toNat_shiftLeft_one]
      omega

theorem Exact.unique {op : ArithOp} {x y result other : UInt8} {flag bit : Option UInt8}
    (first : Exact x y result op flag) (second : Exact x y other op bit) :
    other = result ∧ bit = flag := by
  have := result.toNat_lt
  have := other.toNat_lt
  cases first <;> cases second
  case assign.assign | or.or | and.and | xor.xor => subst_vars; exact ⟨rfl, rfl⟩
  all_goals
    refine ⟨UInt8.toNat_inj.1 ?_, congrArg some (UInt8.toNat_inj.1 ?_)⟩ <;> omega

theorem exact_iff {op : ArithOp} {x y other : UInt8} {bit : Option UInt8} :
    Exact x y other op bit ↔ other = op.result x y ∧ bit = op.flag? x y := by
  refine ⟨(op.exact_result x y).unique, ?_⟩
  rintro ⟨rfl, rfl⟩
  exact op.exact_result x y

end ArithOp

namespace Machine

open Instruction

variable {G : Type}

section Registers

variable {machine : Machine G} {op : ArithOp} {x y : Register}

theorem register_arith_of_unflagged
    (unflagged : op.flag? (machine.register x) (machine.register y) = none) (z : Register) :
    (machine.arith op x y).register z =
      if x = z then op.result (machine.register x) (machine.register y) else machine.register z := by
  simp only [arith, unflagged, register_setRegister]

/-- The flag goes before the result, and the result before the old value. -/
theorem register_arith_of_flagged {flag : UInt8}
    (flagged : op.flag? (machine.register x) (machine.register y) = some flag) (z : Register) :
    (machine.arith op x y).register z =
      if flagRegister = z then flag
      else if x = z then op.result (machine.register x) (machine.register y)
      else machine.register z := by
  simp only [arith, flagged, register_setRegister]

end Registers

variable [Generator G]

theorem step_of_arith {machine : Machine G} (running : machine.isHalted = false) {op : ArithOp}
    {x y : Register} (fetched : machine.fetched? = some (layoutDigits 0x8 x y op.selector))
    (keys : Keypad) :
    machine.step keys = (.ok .proceeded,
      { machine with
        word := layoutDigits 0x8 x y op.selector, keys := keys, counter := machine.counter + 2
        registers := (machine.arith op x y).registers }) := by
  have decoded : decode (layoutDigits 0x8 x y op.selector) = .arith op x y :=
    (decode_eq_iff rfl).2 rfl
  have next := Advance.apply_next_of_fetchable (counter_lt_of_fetched fetched)
  have clear : machine.obstacle? (.decode (layoutDigits 0x8 x y op.selector)) = none := by
    rw [decoded]
    rfl
  rw [step_of_clear running fetched clear, decoded, primed_of_fetched fetched, ← next]
  cases op <;> rfl

/-- A word of group `8` solves the equations of its operation for the old values of its registers. The
flag register gets the flag, if there is one, the first register gets the result unless the flag has
overwritten it, and nothing else is changed besides what every step changes. -/
theorem arithmetic_solves_equations {machine : Machine G} (running : machine.isHalted = false)
    {op : ArithOp} {x y : Register}
    (fetched : machine.fetched? = some (layoutDigits 0x8 x y op.selector)) (keys : Keypad) :
    let after := (machine.step keys).2
    (machine.step keys).1 = .ok .proceeded ∧
      after = { machine with
        word := layoutDigits 0x8 x y op.selector, keys := keys, counter := machine.counter + 2
        registers := after.registers } ∧
      ∃ result flag,
        (∀ other bit, ArithOp.Exact (machine.register x) (machine.register y) other op bit ↔
          other = result ∧ bit = flag) ∧
        (∀ bit, flag = some bit → after.register flagRegister = bit) ∧
        (x ≠ flagRegister ∨ flag = none → after.register x = result) ∧
        ∀ z, z ≠ x → z ≠ flagRegister ∨ flag = none → after.register z = machine.register z := by
  intro after
  have stepped := step_of_arith running fetched keys
  have registers (z : Register) : after.register z = (machine.arith op x y).register z := by
    simp only [after, stepped]
    rfl
  refine ⟨congrArg Prod.fst stepped, ?_, op.result (machine.register x) (machine.register y),
    op.flag? (machine.register x) (machine.register y), fun other bit => ArithOp.exact_iff, ?_, ?_, ?_⟩
  · simp only [after, stepped]
  · intro bit flagged
    rw [registers, register_arith_of_flagged flagged, if_pos rfl]
  · intro kept
    rw [registers]
    cases found : op.flag? (machine.register x) (machine.register y) with
    | none => rw [register_arith_of_unflagged found, if_pos rfl]
    | some flag =>
      have other : x ≠ flagRegister := kept.resolve_right (by simp [found])
      rw [register_arith_of_flagged found, if_neg other.symm, if_pos rfl]
  · intro z apart kept
    rw [registers]
    cases found : op.flag? (machine.register x) (machine.register y) with
    | none => rw [register_arith_of_unflagged found, if_neg apart.symm]
    | some flag =>
      have other : z ≠ flagRegister := kept.resolve_right (by simp [found])
      rw [register_arith_of_flagged found, if_neg other.symm, if_neg apart.symm]

theorem doubled_flag_solves_equations :
    let machine : Machine Stride :=
      (fresh (Memory.initial.store Memory.programStart [0x8F, 0xF4]) Screen.blank ⟨0, 0⟩).setRegister
        flagRegister 200
    machine.isHalted = false ∧ machine.fetched? = some (layoutDigits 0x8 15 15 0x4) ∧
      (machine.step Keypad.released).2.register flagRegister = 1 ∧
      (machine.step Keypad.released).2.register 3 = 0 := by
  intro machine
  have running : machine.isHalted = false := rfl
  have stored : machine.memory = Memory.initial.store Memory.programStart [0x8F, 0xF4] := rfl
  have fetched : machine.fetched? = some (Word.ofBytes 0x8F 0xF4) :=
    fetched?_store stored (by decide) (Nat.add_zero Memory.programStart).symm rfl rfl
  have word : Word.ofBytes 0x8F 0xF4 = layoutDigits 0x8 15 15 ArithOp.add.selector := by decide
  rw [word] at fetched
  obtain ⟨_, _, result, flag, solved, carried, _, kept⟩ :=
    arithmetic_solves_equations running fetched Keypad.released
  have before : machine.register 15 = 200 := by
    rw [register_setRegister]
    rfl
  rw [before] at solved
  have sum : ArithOp.Exact 200 200 144 .add (some 1) := .add 1 (by decide) (by decide)
  obtain ⟨rfl, rfl⟩ := (solved _ _).1 sum
  exact ⟨running, fetched, carried 1 rfl, kept 3 (by decide) (.inl (by decide))⟩

end Machine

end SpriteMachine
