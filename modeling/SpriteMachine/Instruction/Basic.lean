import SpriteMachine.Word

/-! The instructions and their two-byte layout. `decode` is total: a word without a meaning is an
instruction of its own, `unknown`. `encode` lays the operands out again, and `encode_decode` says that
nothing of a word is lost. -/

namespace SpriteMachine

inductive SystemOp where
  | clear
  | leave
  deriving DecidableEq, Repr

inductive ArithOp where
  | assign
  | or
  | and
  | xor
  | add
  | sub
  | shiftRight
  | subReverse
  | shiftLeft
  deriving DecidableEq, Repr

inductive KeyTest where
  | pressed
  | notPressed
  deriving DecidableEq, Repr

inductive MiscOp where
  | getDelay
  | awaitKey
  | setDelay
  | setSound
  | addToIndex
  | pointToGlyph
  | storeDecimal
  | storeRegisters
  | loadRegisters
  deriving DecidableEq, Repr

inductive Instruction where
  | system (op : SystemOp)
  | jump (target : Address)
  | call (target : Address)
  | skipIfEqual (x : Register) (value : UInt8)
  | skipUnlessEqual (x : Register) (value : UInt8)
  | skipIfSame (x y : Register)
  | set (x : Register) (value : UInt8)
  | increase (x : Register) (value : UInt8)
  | arith (op : ArithOp) (x y : Register)
  | skipUnlessSame (x y : Register)
  | setIndex (target : Address)
  | jumpFrom (base : Address)
  | random (x : Register) (mask : UInt8)
  | draw (x y : Register) (height : Fin 16)
  | key (test : KeyTest) (x : Register)
  | misc (op : MiscOp) (x : Register)
  | unknown (word : UInt16)
  deriving DecidableEq, Repr

namespace SystemOp

def ofWord? (word : Nat) : Option SystemOp :=
  match word with
  | 0x00E0 => some clear
  | 0x00EE => some leave
  | _ => none

def word : SystemOp → Nat
  | clear => 0x00E0
  | leave => 0x00EE

theorem word_of_ofWord? {w : Nat} {op : SystemOp} (found : ofWord? w = some op) : op.word = w := by
  unfold ofWord? at found
  split at found <;> simp_all [word] <;> subst found <;> rfl

end SystemOp

namespace ArithOp

def ofSelector? (selector : Nat) : Option ArithOp :=
  match selector with
  | 0x0 => some assign
  | 0x1 => some or
  | 0x2 => some and
  | 0x3 => some xor
  | 0x4 => some add
  | 0x5 => some sub
  | 0x6 => some shiftRight
  | 0x7 => some subReverse
  | 0xE => some shiftLeft
  | _ => none

def selector : ArithOp → Nat
  | assign => 0x0
  | or => 0x1
  | and => 0x2
  | xor => 0x3
  | add => 0x4
  | sub => 0x5
  | shiftRight => 0x6
  | subReverse => 0x7
  | shiftLeft => 0xE

theorem ofSelector?_selector (op : ArithOp) : ofSelector? op.selector = some op := by
  cases op <;> rfl

theorem selector_of_ofSelector? {s : Nat} {op : ArithOp} (found : ofSelector? s = some op) :
    op.selector = s := by
  unfold ofSelector? at found
  split at found <;> simp_all [selector] <;> subst found <;> rfl

end ArithOp

namespace KeyTest

def ofSelector? (selector : Nat) : Option KeyTest :=
  match selector with
  | 0x9E => some pressed
  | 0xA1 => some notPressed
  | _ => none

def selector : KeyTest → Nat
  | pressed => 0x9E
  | notPressed => 0xA1

theorem ofSelector?_selector (test : KeyTest) : ofSelector? test.selector = some test := by
  cases test <;> rfl

theorem selector_of_ofSelector? {s : Nat} {test : KeyTest} (found : ofSelector? s = some test) :
    test.selector = s := by
  unfold ofSelector? at found
  split at found <;> simp_all [selector] <;> subst found <;> rfl

end KeyTest

namespace MiscOp

def ofSelector? (selector : Nat) : Option MiscOp :=
  match selector with
  | 0x07 => some getDelay
  | 0x0A => some awaitKey
  | 0x15 => some setDelay
  | 0x18 => some setSound
  | 0x1E => some addToIndex
  | 0x29 => some pointToGlyph
  | 0x33 => some storeDecimal
  | 0x55 => some storeRegisters
  | 0x65 => some loadRegisters
  | _ => none

def selector : MiscOp → Nat
  | getDelay => 0x07
  | awaitKey => 0x0A
  | setDelay => 0x15
  | setSound => 0x18
  | addToIndex => 0x1E
  | pointToGlyph => 0x29
  | storeDecimal => 0x33
  | storeRegisters => 0x55
  | loadRegisters => 0x65

theorem ofSelector?_selector (op : MiscOp) : ofSelector? op.selector = some op := by
  cases op <;> rfl

theorem selector_of_ofSelector? {s : Nat} {op : MiscOp} (found : ofSelector? s = some op) :
    op.selector = s := by
  unfold ofSelector? at found
  split at found <;> simp_all [selector] <;> subst found <;> rfl

end MiscOp

namespace Instruction

open Word

/-- The last case is group `F`. -/
def decode (word : UInt16) : Instruction :=
  match group word with
  | 0x0 => (SystemOp.ofWord? word.toNat).elim (unknown word) system
  | 0x1 => jump (nnn word)
  | 0x2 => call (nnn word)
  | 0x3 => skipIfEqual (x word) (nn word)
  | 0x4 => skipUnlessEqual (x word) (nn word)
  | 0x5 => if n word = 0 then skipIfSame (x word) (y word) else unknown word
  | 0x6 => set (x word) (nn word)
  | 0x7 => increase (x word) (nn word)
  | 0x8 => (ArithOp.ofSelector? (n word)).elim (unknown word) fun op => arith op (x word) (y word)
  | 0x9 => if n word = 0 then skipUnlessSame (x word) (y word) else unknown word
  | 0xA => setIndex (nnn word)
  | 0xB => jumpFrom (nnn word)
  | 0xC => random (x word) (nn word)
  | 0xD => draw (x word) (y word) (n word)
  | 0xE => (KeyTest.ofSelector? (nn word).toNat).elim (unknown word) fun test => key test (x word)
  | _ => (MiscOp.ofSelector? (nn word).toNat).elim (unknown word) fun op => misc op (x word)

def layoutByte (group : Nat) (x : Register) (byte : Nat) : UInt16 :=
  UInt16.ofNat (group * 4096 + x.val * 256 + byte)

def layoutDigits (group : Nat) (x y : Register) (n : Nat) : UInt16 :=
  UInt16.ofNat (group * 4096 + x.val * 256 + y.val * 16 + n)

def layoutAddress (group : Nat) (target : Address) : UInt16 :=
  UInt16.ofNat (group * 4096 + target.val)

def encode : Instruction → UInt16
  | system op => UInt16.ofNat op.word
  | jump target => layoutAddress 0x1 target
  | call target => layoutAddress 0x2 target
  | skipIfEqual x value => layoutByte 0x3 x value.toNat
  | skipUnlessEqual x value => layoutByte 0x4 x value.toNat
  | skipIfSame x y => layoutDigits 0x5 x y 0
  | set x value => layoutByte 0x6 x value.toNat
  | increase x value => layoutByte 0x7 x value.toNat
  | arith op x y => layoutDigits 0x8 x y op.selector
  | skipUnlessSame x y => layoutDigits 0x9 x y 0
  | setIndex target => layoutAddress 0xA target
  | jumpFrom base => layoutAddress 0xB base
  | random x mask => layoutByte 0xC x mask.toNat
  | draw x y height => layoutDigits 0xD x y height.val
  | key test x => layoutByte 0xE x test.selector
  | misc op x => layoutByte 0xF x op.selector
  | unknown word => word

@[simp] theorem encode_decode (word : UInt16) : encode (decode word) = word := by
  have bound := group_lt word
  unfold decode
  split
  case h_1 known =>
    cases found : SystemOp.ofWord? word.toNat with
    | none => rfl
    | some op => simp [encode, SystemOp.word_of_ofWord? found]
  case h_9 known =>
    cases found : ArithOp.ofSelector? (n word) with
    | none => rfl
    | some op =>
      have picked := ArithOp.selector_of_ofSelector? found
      apply UInt16.toNat_inj.1
      simp_all [encode, layoutDigits, group, x, y, n]
      omega
  case h_15 known =>
    cases found : KeyTest.ofSelector? (nn word).toNat with
    | none => rfl
    | some test =>
      have picked := KeyTest.selector_of_ofSelector? found
      apply UInt16.toNat_inj.1
      simp_all [encode, layoutByte, group, x]
      omega
  case h_16 =>
    cases found : MiscOp.ofSelector? (nn word).toNat with
    | none => rfl
    | some op =>
      have picked := MiscOp.selector_of_ofSelector? found
      apply UInt16.toNat_inj.1
      simp_all [encode, layoutByte, group, x]
      omega
  all_goals
    try split
    all_goals first
      | rfl
      | apply UInt16.toNat_inj.1
        simp_all [encode, layoutByte, layoutDigits, layoutAddress, group, x, y, n, nnn, Fin.ext_iff]
        try omega

end Instruction

end SpriteMachine
