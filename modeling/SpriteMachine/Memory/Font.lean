/-! The built-in font: sixteen glyphs of five rows, four pixels wide, one for each hexadecimal digit. -/

namespace SpriteMachine.Font

def base : Nat := 0x50

def glyphHeight : Nat := 5

def bytes : Vector UInt8 80 := #v[
  0xF0, 0x90, 0x90, 0x90, 0xF0,
  0x20, 0x60, 0x20, 0x20, 0x70,
  0xF0, 0x10, 0xF0, 0x80, 0xF0,
  0xF0, 0x10, 0xF0, 0x10, 0xF0,
  0x90, 0x90, 0xF0, 0x10, 0x10,
  0xF0, 0x80, 0xF0, 0x10, 0xF0,
  0xF0, 0x80, 0xF0, 0x90, 0xF0,
  0xF0, 0x10, 0x20, 0x40, 0x40,
  0xF0, 0x90, 0xF0, 0x90, 0xF0,
  0xF0, 0x90, 0xF0, 0x10, 0xF0,
  0xF0, 0x90, 0xF0, 0x90, 0x90,
  0xE0, 0x90, 0xE0, 0x90, 0xE0,
  0xF0, 0x80, 0x80, 0x80, 0xF0,
  0xE0, 0x90, 0x90, 0x90, 0xE0,
  0xF0, 0x80, 0xF0, 0x80, 0xF0,
  0xF0, 0x80, 0xF0, 0x80, 0x80]

/-- Only the low digit of `digit` picks the glyph. -/
def glyphAddress (digit : UInt8) : Nat :=
  base + glyphHeight * (digit.toNat % 16)

theorem glyphAddress_bounds (digit : UInt8) :
    base ≤ glyphAddress digit ∧ glyphAddress digit + glyphHeight ≤ base + 80 := by
  have := Nat.mod_lt digit.toNat (show 0 < 16 by decide)
  simp only [glyphAddress, glyphHeight]
  omega

def byteAt (address : Nat) : UInt8 :=
  if base ≤ address then bytes[address - base]?.getD 0 else 0

theorem byteAt_of_lt {address : Nat} (before : address < base) : byteAt address = 0 := by
  simp [byteAt, Nat.not_le_of_lt before]

theorem byteAt_of_le {address : Nat} (after : base + 80 ≤ address) : byteAt address = 0 := by
  have outside : ¬ address - base < 80 := by omega
  simp [byteAt, outside]

end SpriteMachine.Font
