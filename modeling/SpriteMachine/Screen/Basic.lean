import SpriteMachine.Rows

/-! The one-bit screen. Pixels are stored row by row and every coordinate wraps around the edges. A
sprite is eight pixels wide: each of its set bits toggles one cell, and the drawing collides when some
toggled cell was lit at that moment. -/

namespace SpriteMachine

namespace Screen

def width : Nat := 64

def height : Nat := 32

def resolution : Nat := width * height

def spriteWidth : Nat := 8

end Screen

/-- The screen is dirty until its picture is presented. -/
structure Screen where
  pixels : Vector Bool Screen.resolution
  dirty : Bool
  deriving DecidableEq

namespace Screen

abbrev Cell := Fin resolution

def cell (x y : Nat) : Cell :=
  ⟨y % height * width + x % width, by
    have column : x % width < width := Nat.mod_lt _ (by decide)
    have line : y % height < height := Nat.mod_lt _ (by decide)
    simp only [resolution, width, height] at column line ⊢
    omega⟩

theorem cell_congr {x x' y y' : Nat} (sameColumn : x % width = x' % width)
    (sameLine : y % height = y' % height) : cell x y = cell x' y' := by
  simp [cell, sameColumn, sameLine]

theorem cell_eq_iff {x y x' y' : Nat} :
    cell x y = cell x' y' ↔ x % width = x' % width ∧ y % height = y' % height := by
  refine ⟨fun same => ?_, fun ⟨column, line⟩ => cell_congr column line⟩
  have same := congrArg Fin.val same
  simp only [cell, width, height] at same ⊢
  omega

def blank : Screen where
  pixels := Vector.replicate resolution false
  dirty := true

def clear (_ : Screen) : Screen :=
  blank

def pixel (screen : Screen) (x y : Nat) : Bool :=
  screen.pixels[cell x y]

def setPixel (screen : Screen) (x y : Nat) (lit : Bool) : Screen where
  pixels := screen.pixels.set (cell x y) lit
  dirty := true

theorem pixel_setPixel (screen : Screen) (x y : Nat) (lit : Bool) (x' y' : Nat) :
    (screen.setPixel x y lit).pixel x' y' =
      if x % width = x' % width ∧ y % height = y' % height then lit else screen.pixel x' y' := by
  simp only [pixel, setPixel, Fin.getElem_fin, Vector.getElem_set, Fin.val_inj, cell_eq_iff]

def rowCells (x y : Nat) (bits : UInt8) : List Cell :=
  ((List.range spriteWidth).filter fun j => bits.toNat.testBit (7 - j)).map fun j => cell (x + j) y

def spriteCells (x y : Nat) : List UInt8 → List Cell
  | [] => []
  | bits :: below => rowCells x y bits ++ spriteCells x (y + 1) below

/-- The second component remembers whether a lit cell was hit so far. -/
def toggle : Vector Bool resolution × Bool → Cell → Vector Bool resolution × Bool
  | (pixels, hit), cell =>
    let lit := pixels[cell]
    (pixels.set cell (!lit), hit || lit)

def draw (screen : Screen) (x y : Nat) (sprite : List UInt8) : Screen × Bool :=
  let drawn := (spriteCells x y sprite).foldl toggle (screen.pixels, false)
  (⟨drawn.1, true⟩, drawn.2)

def present (screen : Screen) : Screen :=
  { screen with dirty := false }

theorem pixels_present (screen : Screen) : screen.present.pixels = screen.pixels := rfl

def rows (screen : Screen) : List (List Bool) :=
  Rows.cut width screen.pixels.toList

end Screen

end SpriteMachine
