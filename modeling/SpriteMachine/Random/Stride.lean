import SpriteMachine.Random.Generator

/-! The predictable generator: 64-bit numbers at a constant distance, of which the low halves are
drawn. -/

namespace SpriteMachine

structure Stride where
  current : UInt64
  distance : UInt64
  deriving DecidableEq, Repr

namespace Stride

instance : Generator Stride where
  next stride := (stride.current.toUInt32, { stride with current := stride.current + stride.distance })

theorem draw_eq (stride : Stride) :
    Generator.draw stride =
      (stride.current.toUInt32.toUInt8, ⟨stride.current + stride.distance, stride.distance⟩) := rfl

theorem after_eq (stride : Stride) (count : Nat) :
    Generator.after stride count =
      ⟨stride.current + UInt64.ofNat count * stride.distance, stride.distance⟩ := by
  induction count with
  | zero => simp [Generator.after]
  | succ count ih =>
    rw [Generator.after, ih, draw_eq]
    simp [UInt64.ofNat_add, UInt64.add_mul, UInt64.add_assoc]

end Stride

end SpriteMachine
