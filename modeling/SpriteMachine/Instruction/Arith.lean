import SpriteMachine.Instruction.Basic

/-! What the instructions of group `8` compute: the new value of the first register, and the flag where
the operation has one. Carries set the flag, borrows clear it, and shifts move their lost bit into it. -/

namespace SpriteMachine.ArithOp

def carry (x y : UInt8) : UInt8 :=
  if 256 ≤ x.toNat + y.toNat then 1 else 0

def noBorrow (x y : UInt8) : UInt8 :=
  if x < y then 0 else 1

def result (op : ArithOp) (x y : UInt8) : UInt8 :=
  match op with
  | assign => y
  | or => x ||| y
  | and => x &&& y
  | xor => x ^^^ y
  | add => x + y
  | sub => x - y
  | shiftRight => y >>> 1
  | subReverse => y - x
  | shiftLeft => y <<< 1

def flag? (op : ArithOp) (x y : UInt8) : Option UInt8 :=
  match op with
  | assign | or | and | xor => none
  | add => some (carry x y)
  | sub => some (noBorrow x y)
  | shiftRight => some (y &&& 1)
  | subReverse => some (noBorrow y x)
  | shiftLeft => some (y >>> 7)

theorem carry_add (x y : UInt8) : 256 * (carry x y).toNat + (x + y).toNat = x.toNat + y.toNat := by
  have := x.toNat_lt
  have := y.toNat_lt
  rw [carry, UInt8.toNat_add]
  split <;> simp <;> omega

theorem sub_noBorrow (x y : UInt8) :
    (x - y).toNat + y.toNat = x.toNat + 256 * (1 - (noBorrow x y).toNat) := by
  have := x.toNat_lt
  have := y.toNat_lt
  simp only [noBorrow, UInt8.lt_iff_toNat_lt, UInt8.toNat_sub]
  split <;> simp <;> omega

end SpriteMachine.ArithOp
