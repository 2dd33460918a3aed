import SpriteMachine.Screen.HalfBlock

/-! What a picture looks like as text. Line `k` holds the rows `2 * k` and `2 * k + 1` of the screen, the
first in the upper and the second in the lower halves of its characters, so every pixel has one half of one
character to itself. Pictures of one size that look alike are therefore the same. -/

namespace SpriteMachine.HalfBlock

/-- A picture as far as its pixels go, and unlit behind them. -/
def litAt (pixels : List Bool) (position : Nat) : Bool :=
  pixels[position]?.getD false

inductive Shows : Char → Bool → Bool → Prop
  | full : Shows '█' true true
  | upper : Shows '▀' true false
  | lower : Shows '▄' false true
  | empty : Shows ' ' false false

theorem shows_block (upper lower : Bool) : Shows (block upper lower) upper lower := by
  cases upper <;> cases lower <;> constructor

theorem length_lines_eq (pixels : List Bool) : (lines pixels).length = (pixels.length + 127) / 128 := by
  rw [length_lines, Rows.count, Screen.width]
  omega

theorem length_of_mem_lines {pixels : List Bool} {text : List Char} (member : text ∈ lines pixels) :
    text.length = 64 := by
  obtain ⟨pair, _, rfl⟩ := List.mem_map.1 member
  exact length_line pair

theorem get?_lines (pixels : List Bool) {k x : Nat} (shown : k < (pixels.length + 127) / 128)
    (inside : x < 64) :
    Rows.get? (lines pixels) k x =
      some (block (litAt pixels (128 * k + x)) (litAt pixels (128 * k + 64 + x))) := by
  have row : k < Rows.count (2 * Screen.width) pixels.length := by
    rwa [← length_lines, length_lines_eq]
  rw [Rows.get?, lines, List.getElem?_map, Rows.getElem?_cut _ _ row, Option.map_some, Option.bind_some,
    getElem?_line _ inside, Rows.getElem?_row _ _ (by simp only [Screen.width]; omega),
    Rows.getElem?_row _ _ (by simp only [Screen.width]; omega), Nat.mul_comm k, ← Nat.add_assoc]
  rfl

theorem litAt_eq_of_lines_eq {first second : List Bool} (lengths : first.length = second.length)
    (alike : lines first = lines second) (position : Nat) :
    litAt first position = litAt second position := by
  rcases Nat.lt_or_ge position first.length with inside | outside
  · have shown : position / 128 < (first.length + 127) / 128 := by omega
-- The line of the position shows the same pairs of pixels for both.
    have pairs (x : Nat) (column : x < 64) := block_inj (Option.some.inj
      ((get?_lines first shown column).symm.trans
        ((congrArg (Rows.get? · (position / 128) x) alike).trans
          (get?_lines second (lengths ▸ shown) column))))
    rcases Nat.lt_or_ge (position % 128) 64 with upper | lower
    · have place : 128 * (position / 128) + position % 128 = position := Nat.div_add_mod position 128
      rw [← place]
      exact (pairs (position % 128) upper).1
    · have place : 128 * (position / 128) + 64 + (position % 128 - 64) = position := by omega
      rw [← place]
      exact (pairs (position % 128 - 64) (by omega)).2
  · rw [litAt, litAt, List.getElem?_eq_none outside, List.getElem?_eq_none (lengths ▸ outside)]

theorem lines_injective {first second : List Bool} (lengths : first.length = second.length)
    (alike : lines first = lines second) : first = second := by
  refine List.ext_getElem lengths fun position inside inside' => ?_
  have lit := litAt_eq_of_lines_eq lengths alike position
  rwa [litAt, litAt, List.getElem?_eq_getElem inside, List.getElem?_eq_getElem inside',
    Option.getD_some, Option.getD_some] at lit

theorem litAt_screen (screen : Screen) {x y : Nat} (column : x < 64) (line : y < 32) :
    litAt screen.pixels.toList (64 * y + x) = screen.pixel x y := by
  have place : (Screen.cell x y).val = 64 * y + x := by
    simp only [Screen.cell, Screen.width, Screen.height]
    omega
  have lit : screen.pixels[64 * y + x]? = some (screen.pixel x y) := by
    rw [← place]
    exact Vector.getElem?_eq_getElem (Screen.cell x y).isLt
  rw [litAt, Vector.getElem?_toList, lit, Option.getD_some]

/-- A picture of any length is shown in as many lines as it has pairs of rows, the last one perhaps not
whole. Every line has a character for each column, which shows the two pixels in its place, and a pixel
that is missing counts as unlit. So nothing is lost: pictures of equal length with the same lines are equal.
On a screen there are sixteen lines, and line `k` shows the rows `2 * k` and `2 * k + 1`. -/
theorem lines_show_every_pixel :
    (∀ pixels : List Bool,
      (lines pixels).length = (pixels.length + 127) / 128 ∧
      (∀ text ∈ lines pixels, text.length = 64) ∧
      (∀ k x, k < (pixels.length + 127) / 128 → x < 64 →
        ∃ shown, Rows.get? (lines pixels) k x = some shown ∧
          Shows shown (litAt pixels (128 * k + x)) (litAt pixels (128 * k + 64 + x))) ∧
      ∀ other : List Bool, other.length = pixels.length → lines other = lines pixels → other = pixels) ∧
    ∀ screen : Screen,
      let text := lines screen.pixels.toList
      text.length = 16 ∧
      (∀ k x, k < 16 → x < 64 →
        ∃ shown, Rows.get? text k x = some shown ∧
          Shows shown (screen.pixel x (2 * k)) (screen.pixel x (2 * k + 1))) ∧
      ∀ other : Screen, lines other.pixels.toList = text → other.pixels = screen.pixels := by
  refine ⟨fun pixels => ⟨length_lines_eq pixels, fun text => length_of_mem_lines, ?_, ?_⟩,
    fun screen => ⟨?_, ?_, ?_⟩⟩
  · exact fun k x shown inside => ⟨_, get?_lines pixels shown inside, shows_block _ _⟩
  · exact fun other lengths alike => lines_injective lengths alike
  · rw [length_lines_eq, Vector.length_toList]
    rfl
  · intro k x line column
    have shown : k < (screen.pixels.toList.length + 127) / 128 := by
      rw [Vector.length_toList, Screen.resolution, Screen.width, Screen.height]
      omega
    have above : 64 * (2 * k) + x = 128 * k + x := by omega
    have below : 64 * (2 * k + 1) + x = 128 * k + 64 + x := by omega
    refine ⟨_, get?_lines _ shown column, ?_⟩
    rw [← litAt_screen screen column (by omega), ← litAt_screen screen column (by omega), above, below]
    exact shows_block _ _
  · intro other alike
    have lengths : other.pixels.toList.length = screen.pixels.toList.length := by
      rw [Vector.length_toList, Vector.length_toList]
    exact Vector.toList_inj.1 (lines_injective lengths alike)

theorem overhanging_pixel_shows :
    let picture := List.replicate 129 true
    let corner := Screen.blank.setPixel 63 31 true
    (lines picture).length = 2 ∧ Rows.get? (lines picture) 0 63 = some '█' ∧
      Rows.get? (lines picture) 1 0 = some '▀' ∧ lines (List.replicate 129 false) ≠ lines picture ∧
      Rows.get? (lines corner.pixels.toList) 15 63 = some '▄' ∧
      lines corner.pixels.toList ≠ lines Screen.blank.pixels.toList := by
  intro picture corner
  obtain ⟨pictures, screens⟩ := lines_show_every_pixel
  obtain ⟨height, _, shows, distinct⟩ := pictures picture
  have painted (position : Nat) : litAt picture position = decide (position < 129) := by
    rw [litAt, List.getElem?_replicate]
    split <;> simp [*]
  have lit : corner.pixel 63 31 = true := by
    rw [Screen.pixel_setPixel, if_pos ⟨rfl, rfl⟩]
  have unlit (x y : Nat) : Screen.blank.pixel x y = false := by
    simp [Screen.pixel, Screen.blank]
  have above : corner.pixel 63 30 = false := by
    rw [Screen.pixel_setPixel, if_neg (by decide), unlit]
  refine ⟨height.trans (by rw [List.length_replicate]), ?_, ?_, fun alike => ?_, ?_, fun alike => ?_⟩
  · obtain ⟨shown, placed, both⟩ := shows 0 63 (by rw [List.length_replicate]; decide) (by decide)
    simp only [painted, Nat.reduceMul, Nat.reduceAdd, Nat.reduceLT, decide_true] at both
    cases both
    exact placed
  · obtain ⟨shown, placed, half⟩ := shows 1 0 (by rw [List.length_replicate]; decide) (by decide)
    simp only [painted, Nat.reduceMul, Nat.reduceAdd, Nat.reduceLT, decide_true, decide_false] at half
    cases half
    exact placed
  · have same := distinct (List.replicate 129 false) (by simp [picture]) alike
    exact absurd (congrArg List.head? same) (by decide)
  · obtain ⟨shown, placed, half⟩ := (screens corner).2.1 15 63 (by decide) (by decide)
    rw [above, lit] at half
    cases half
    exact placed
  · have same : corner.pixels = Screen.blank.pixels := (screens Screen.blank).2.2 corner alike
    have dark : corner.pixel 63 31 = false := by
      rw [Screen.pixel, same]
      exact unlit 63 31
    exact Bool.false_ne_true (dark.symm.trans lit)

end SpriteMachine.HalfBlock
