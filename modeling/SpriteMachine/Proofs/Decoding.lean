import SpriteMachine.Instruction.Basic

/-! Which words decode to which instruction. Laying out an instruction and decoding it again gives it
back, so a word decodes to a known instruction exactly if it is the layout of it, and the layouts are
sums of digits. -/

namespace SpriteMachine.Instruction

open Word

section Layout

variable {group : Nat} (digit : group < 16)

include digit

theorem toNat_layoutByte (x : Register) {byte : Nat} (small : byte < 256) :
    (layoutByte group x byte).toNat = group * 4096 + x.val * 256 + byte := by
  have := x.isLt
  simp only [layoutByte, UInt16.toNat_ofNat']
  omega

theorem toNat_layoutDigits (x y : Register) {n : Nat} (small : n < 16) :
    (layoutDigits group x y n).toNat = group * 4096 + x.val * 256 + y.val * 16 + n := by
  have := x.isLt
  have := y.isLt
  simp only [layoutDigits, UInt16.toNat_ofNat']
  omega

theorem toNat_layoutAddress (target : Address) :
    (layoutAddress group target).toNat = group * 4096 + target.val := by
  have := target.isLt
  simp only [layoutAddress, UInt16.toNat_ofNat']
  omega

theorem group_layoutByte (x : Register) {byte : Nat} (small : byte < 256) :
    Word.group (layoutByte group x byte) = group := by
  have := x.isLt
  rw [Word.group, toNat_layoutByte digit x small]
  omega

theorem x_layoutByte (x : Register) {byte : Nat} (small : byte < 256) :
    Word.x (layoutByte group x byte) = x := by
  apply Fin.ext
  simp only [Word.x, toNat_layoutByte digit x small]
  omega

theorem nn_layoutByte (x : Register) {byte : Nat} (small : byte < 256) :
    nn (layoutByte group x byte) = UInt8.ofNat byte := by
  rw [nn, toNat_layoutByte digit x small]
  congr 1
  omega

theorem group_layoutDigits (x y : Register) {n : Nat} (small : n < 16) :
    Word.group (layoutDigits group x y n) = group := by
  have := x.isLt
  have := y.isLt
  rw [Word.group, toNat_layoutDigits digit x y small]
  omega

theorem x_layoutDigits (x y : Register) {n : Nat} (small : n < 16) :
    Word.x (layoutDigits group x y n) = x := by
  apply Fin.ext
  simp only [Word.x, toNat_layoutDigits digit x y small]
  omega

theorem y_layoutDigits (x y : Register) {n : Nat} (small : n < 16) :
    Word.y (layoutDigits group x y n) = y := by
  apply Fin.ext
  simp only [Word.y, toNat_layoutDigits digit x y small]
  omega

theorem n_layoutDigits (x y : Register) {n : Nat} (small : n < 16) :
    Word.n (layoutDigits group x y n) = ⟨n, small⟩ := by
  apply Fin.ext
  simp only [Word.n, toNat_layoutDigits digit x y small]
  omega

theorem group_layoutAddress (target : Address) :
    Word.group (layoutAddress group target) = group := by
  have := target.isLt
  rw [Word.group, toNat_layoutAddress digit target]
  omega

theorem nnn_layoutAddress (target : Address) : nnn (layoutAddress group target) = target := by
  apply Fin.ext
  simp only [nnn, toNat_layoutAddress digit target]
  omega

end Layout

def isKnown : Instruction → Bool
  | unknown _ => false
  | _ => true

theorem decode_encode {instruction : Instruction} (known : instruction.isKnown = true) :
    decode (encode instruction) = instruction := by
  cases instruction with
  | system op => cases op <;> rfl
  | jump target | call target | setIndex target | jumpFrom target =>
    simp (disch := decide) only [encode, decode, group_layoutAddress, nnn_layoutAddress]
  | skipIfEqual x value | skipUnlessEqual x value | set x value | increase x value | random x value =>
    have small := value.toNat_lt
    simp (disch := first | decide | assumption) only [encode, decode, group_layoutByte, x_layoutByte,
      nn_layoutByte, UInt8.ofNat_toNat]
  | skipIfSame x y | skipUnlessSame x y =>
    simp (disch := decide) only [encode, decode, group_layoutDigits, x_layoutDigits, y_layoutDigits,
      n_layoutDigits, Fin.zero_eta, if_true]
  | draw x y height =>
    have small := height.isLt
    simp (disch := first | decide | assumption) only [encode, decode, group_layoutDigits,
      x_layoutDigits, y_layoutDigits, n_layoutDigits]
  | arith op x y =>
    have small : op.selector < 16 := by cases op <;> decide
    simp (disch := first | decide | assumption) only [encode, decode, group_layoutDigits,
      x_layoutDigits, y_layoutDigits, n_layoutDigits, ArithOp.ofSelector?_selector, Option.elim_some]
  | key test x =>
    have small : test.selector < 256 := by cases test <;> decide
    simp (disch := first | decide | assumption) only [encode, decode, group_layoutByte, x_layoutByte,
      nn_layoutByte, UInt8.toNat_ofNat', Nat.mod_eq_of_lt, KeyTest.ofSelector?_selector,
      Option.elim_some]
  | misc op x =>
    have small : op.selector < 256 := by cases op <;> decide
    simp (disch := first | decide | assumption) only [encode, decode, group_layoutByte, x_layoutByte,
      nn_layoutByte, UInt8.toNat_ofNat', Nat.mod_eq_of_lt, MiscOp.ofSelector?_selector,
      Option.elim_some]
  | unknown word => cases known

theorem decode_eq_iff {word : UInt16} {instruction : Instruction} (known : instruction.isKnown = true) :
    decode word = instruction ↔ word = encode instruction := by
  refine ⟨fun decoded => ?_, fun same => ?_⟩
  · rw [← decoded, encode_decode]
  · rw [same, decode_encode known]

end SpriteMachine.Instruction
