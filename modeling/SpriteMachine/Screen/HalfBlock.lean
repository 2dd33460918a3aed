import SpriteMachine.Journal
import SpriteMachine.Screen.Basic

/-! Pictures as text. A character cell shows two pixels, one above the other, so two rows of the screen
make one line of text. Pixels that a short picture lacks count as unlit. -/

namespace SpriteMachine.HalfBlock

def block (upper lower : Bool) : Char :=
  match upper, lower with
  | true, true => '█'
  | true, false => '▀'
  | false, true => '▄'
  | false, false => ' '

theorem block_inj {upper lower upper' lower' : Bool} (same : block upper lower = block upper' lower') :
    upper = upper' ∧ lower = lower' := by
  revert same
  cases upper <;> cases lower <;> cases upper' <;> cases lower' <;> decide

def line (pair : List Bool) : List Char :=
  (List.range Screen.width).map fun x =>
    block (pair[x]?.getD false) (pair[Screen.width + x]?.getD false)

@[simp] theorem length_line (pair : List Bool) : (line pair).length = Screen.width := by
  simp [line]

theorem getElem?_line (pair : List Bool) {x : Nat} (inside : x < Screen.width) :
    (line pair)[x]? =
      some (block (pair[x]?.getD false) (pair[Screen.width + x]?.getD false)) := by
  simp [line, inside]

def lines (pixels : List Bool) : List (List Char) :=
  (Rows.cut (2 * Screen.width) pixels).map line

@[simp] theorem length_lines (pixels : List Bool) :
    (lines pixels).length = Rows.count (2 * Screen.width) pixels.length := by
  simp [lines]

/-- Lines of a terminal are counted from one, in sixteen bits. -/
def cursorTo (row : Nat) : String :=
  "\x1b[" ++ Nat.repr ((row + 1) % 65536) ++ ";1H"

def paint (pixels : List Bool) : String :=
  String.join ((lines pixels).mapIdx fun row text => cursorTo row ++ String.ofList text)

def paintRecords : List Journal.Record :=
  [⟨.trace, "Drawing the display"⟩]

end SpriteMachine.HalfBlock
