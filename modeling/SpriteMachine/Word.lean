/-! Instruction words. A word is two bytes, the high one first, and is read as four hexadecimal digits:
the group digit, then `x`, `y` and `n`. The last two digits are also the byte `nn`, the last three the
address `nnn`. -/

namespace SpriteMachine

abbrev Register := Fin 16

/-- The literals of registers and keys all refer to this instance. -/
instance Register.neZero : @NeZero Nat Zero.ofOfNat0 16 := ⟨Nat.succ_ne_zero 15⟩

abbrev Address := Fin 4096

namespace Word

def width : Nat := 2

def ofBytes (high low : UInt8) : UInt16 :=
  UInt16.ofNat (high.toNat * 256 + low.toNat)

def highByte (word : UInt16) : UInt8 :=
  UInt8.ofNat (word.toNat / 256)

def lowByte (word : UInt16) : UInt8 :=
  UInt8.ofNat (word.toNat % 256)

def group (word : UInt16) : Nat :=
  word.toNat / 4096

theorem group_lt (word : UInt16) : group word < 16 := by
  have := word.toNat_lt
  unfold group
  omega

def x (word : UInt16) : Register :=
  ⟨word.toNat / 256 % 16, by omega⟩

def y (word : UInt16) : Register :=
  ⟨word.toNat / 16 % 16, by omega⟩

def n (word : UInt16) : Fin 16 :=
  ⟨word.toNat % 16, by omega⟩

def nn (word : UInt16) : UInt8 :=
  UInt8.ofNat (word.toNat % 256)

def nnn (word : UInt16) : Address :=
  ⟨word.toNat % 4096, by omega⟩

@[simp] theorem toNat_ofBytes (high low : UInt8) :
    (ofBytes high low).toNat = high.toNat * 256 + low.toNat := by
  have := high.toNat_lt
  have := low.toNat_lt
  simp only [ofBytes, UInt16.toNat_ofNat']
  omega

@[simp] theorem toNat_nn (word : UInt16) : (nn word).toNat = word.toNat % 256 := by
  simp [nn]

@[simp] theorem highByte_ofBytes (high low : UInt8) : highByte (ofBytes high low) = high := by
  apply UInt8.toNat_inj.1
  have := low.toNat_lt
  have := high.toNat_lt
  simp only [highByte, toNat_ofBytes, UInt8.toNat_ofNat']
  omega

@[simp] theorem lowByte_ofBytes (high low : UInt8) : lowByte (ofBytes high low) = low := by
  apply UInt8.toNat_inj.1
  have := low.toNat_lt
  simp only [lowByte, toNat_ofBytes, UInt8.toNat_ofNat']
  omega

@[simp] theorem ofBytes_highByte_lowByte (word : UInt16) :
    ofBytes (highByte word) (lowByte word) = word := by
  apply UInt16.toNat_inj.1
  have := word.toNat_lt
  simp only [toNat_ofBytes, highByte, lowByte, UInt8.toNat_ofNat']
  omega

end Word

end SpriteMachine
