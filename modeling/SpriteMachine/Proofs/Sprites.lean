import Mathlib.Algebra.BigOperators.Intervals
import Mathlib.Algebra.Ring.Parity
import SpriteMachine.Screen.Basic

/-! What drawing a sprite does to the screen. Every set bit of the sprite falls on one pixel, and a pixel
ends up toggled as often as set bits fall on it. The drawing meets a lit pixel when a bit falls on one
that was lit before, or when a second bit falls on one that was not. No sprite of a screen's height or
less is ever wrapped onto itself. -/

namespace SpriteMachine.Screen

/-- The set bits of a sprite that fall on a pixel, each as its row and its column in the sprite. -/
def covering (x y : Nat) (sprite : List UInt8) (px py : Nat) : Finset (Nat × Nat) :=
  (Finset.range sprite.length ×ˢ Finset.range 8).filter fun bit =>
    (sprite.getD bit.1 0).toNat.testBit (7 - bit.2) = true ∧
      (x + bit.2) % width = px ∧ (y + bit.1) % height = py

theorem mem_covering {x y : Nat} {sprite : List UInt8} {px py i j : Nat} :
    (i, j) ∈ covering x y sprite px py ↔
      (i < sprite.length ∧ j < 8) ∧ (sprite.getD i 0).toNat.testBit (7 - j) = true ∧
        (x + j) % width = px ∧ (y + i) % height = py := by
  simp only [covering, Finset.mem_filter, Finset.mem_product, Finset.mem_range]

theorem countP_range (count : Nat) (holds : Nat → Bool) :
    (List.range count).countP holds = ∑ k ∈ Finset.range count, if holds k then 1 else 0 := by
  induction count with
  | zero => rfl
  | succ count ih =>
    rw [List.range_succ, List.countP_append, ih, List.countP_singleton, Finset.sum_range_succ]

theorem card_covering (x y : Nat) (sprite : List UInt8) (px py : Nat) :
    (covering x y sprite px py).card =
      ∑ i ∈ Finset.range sprite.length, ∑ j ∈ Finset.range 8,
        if (sprite.getD i 0).toNat.testBit (7 - j) = true ∧ (x + j) % width = px ∧
          (y + i) % height = py then 1 else 0 := by
  rw [covering, Finset.card_filter, Finset.sum_product]

theorem count_rowCells (x y : Nat) (bits : UInt8) (px : Fin width) (py : Fin height) :
    (rowCells x y bits).count (cell px py) =
      ∑ j ∈ Finset.range 8,
        if bits.toNat.testBit (7 - j) = true ∧ (x + j) % width = px ∧ y % height = py then 1
        else 0 := by
  rw [rowCells, List.count, List.countP_map, List.countP_filter, countP_range]
  refine Finset.sum_congr rfl fun j _ => if_congr ?_ rfl rfl
  simp only [Function.comp_apply, Bool.and_eq_true, beq_iff_eq, cell_eq_iff,
    Nat.mod_eq_of_lt px.isLt, Nat.mod_eq_of_lt py.isLt]
  exact and_comm

theorem count_spriteCells (x y : Nat) (sprite : List UInt8) (px : Fin width) (py : Fin height) :
    (spriteCells x y sprite).count (cell px py) = (covering x y sprite px py).card := by
  induction sprite generalizing y with
  | nil => rfl
  | cons bits below ih =>
    rw [spriteCells, List.count_append, ih, count_rowCells, card_covering, card_covering,
      List.length_cons, Finset.sum_range_succ' _ below.length, Nat.add_comm]
    simp only [List.getD_cons_succ, List.getD_cons_zero, Nat.add_zero, Nat.add_assoc,
      Nat.add_comm 1]

theorem exists_cell (c : Cell) : ∃ (px : Fin width) (py : Fin height), cell px py = c := by
  have inside : c.val < 2048 := c.isLt
  refine ⟨⟨c.val % 64, by simp only [width]; omega⟩, ⟨c.val / 64, by simp only [height]; omega⟩, ?_⟩
  apply Fin.ext
  simp only [cell, width, height]
  omega

theorem get_toggle (state : Vector Bool resolution × Bool) (first c : Cell) :
    (toggle state first).1.get c = (state.1.get c ^^ decide (first = c)) := by
  change (state.1.set first (!state.1[first]))[c] = (state.1[c] ^^ decide (first = c))
  by_cases same : first = c
  · subst same
    simp
  · have other : first.val ≠ c.val := fun equal => same (Fin.ext equal)
    simp [same, Vector.getElem_set_ne, other]

theorem hit_toggle (state : Vector Bool resolution × Bool) (first : Cell) :
    (toggle state first).2 = (state.2 || state.1.get first) := rfl

theorem get_foldl_toggle (cells : List Cell) (state : Vector Bool resolution × Bool) (c : Cell) :
    (cells.foldl toggle state).1.get c = (state.1.get c ^^ decide (Odd (cells.count c))) := by
  induction cells generalizing state with
  | nil => simp
  | cons first later ih =>
    rw [List.foldl_cons, ih, get_toggle, List.count_cons, Bool.xor_assoc]
    by_cases same : first = c
    · subst same
      simp [Nat.odd_add_one, -Nat.not_odd_iff_even]
    · simp [same]

theorem hit_foldl_toggle (cells : List Cell) (state : Vector Bool resolution × Bool) :
    (cells.foldl toggle state).2 = true ↔
      state.2 = true ∨ ∃ c : Cell, state.1.get c = true ∧ 1 ≤ cells.count c ∨
        state.1.get c = false ∧ 2 ≤ cells.count c := by
  induction cells generalizing state with
  | nil => simp
  | cons first later ih =>
    rw [List.foldl_cons, ih, hit_toggle]
-- Toggling the first cell meets it if it is lit, and else leaves it to be met by a second listing.
    cases lit : state.1.get first with
    | true =>
      have met : state.1.get first = true ∧ 1 ≤ (first :: later).count first :=
        ⟨lit, by rw [List.count_cons_self]; omega⟩
      simp only [Bool.or_true, true_or, true_iff]
      exact .inr ⟨first, .inl met⟩
    | false =>
      rw [Bool.or_false]
      refine or_congr_right (exists_congr fun c => ?_)
      rw [get_toggle]
      by_cases same : first = c
      · subst same
        simp [lit]
      · simp [same]

theorem get_pixels_draw (screen : Screen) (x y : Nat) (sprite : List UInt8) (c : Cell) :
    (screen.draw x y sprite).1.pixels.get c =
      (screen.pixels.get c ^^ decide (Odd ((spriteCells x y sprite).count c))) :=
  get_foldl_toggle (spriteCells x y sprite) (screen.pixels, false) c

theorem pixel_draw (screen : Screen) (x y : Nat) (sprite : List UInt8) (px : Fin width)
    (py : Fin height) :
    (screen.draw x y sprite).1.pixel px py =
      (screen.pixel px py ^^ decide (Odd (covering x y sprite px py).card)) := by
  have toggled := screen.get_pixels_draw x y sprite (cell px py)
  rw [count_spriteCells] at toggled
  exact toggled

theorem draw_collides_iff (screen : Screen) (x y : Nat) (sprite : List UInt8) :
    (screen.draw x y sprite).2 = true ↔
      ∃ (px : Fin width) (py : Fin height),
        screen.pixel px py = true ∧ 1 ≤ (covering x y sprite px py).card ∨
          screen.pixel px py = false ∧ 2 ≤ (covering x y sprite px py).card := by
  have met := hit_foldl_toggle (spriteCells x y sprite) (screen.pixels, false)
  simp only [Bool.false_eq_true, false_or] at met
  refine met.trans ⟨?_, ?_⟩
  · rintro ⟨c, collides⟩
    obtain ⟨px, py, rfl⟩ := exists_cell c
    rw [count_spriteCells] at collides
    exact ⟨px, py, collides⟩
  · rintro ⟨px, py, collides⟩
    rw [← count_spriteCells] at collides
    exact ⟨cell px py, collides⟩

theorem card_covering_le_one (x y : Nat) {sprite : List UInt8} (short : sprite.length ≤ height)
    (px py : Nat) : (covering x y sprite px py).card ≤ 1 := by
  refine Finset.card_le_one.2 ?_
  rintro ⟨i, j⟩ first ⟨i', j'⟩ second
  obtain ⟨⟨row, column⟩, _, across, down⟩ := mem_covering.1 first
  obtain ⟨⟨row', column'⟩, _, across', down'⟩ := mem_covering.1 second
  simp only [width, height] at *
  exact Prod.ext (by omega) (by omega)

theorem draw_collides_iff_of_short (screen : Screen) (x y : Nat) {sprite : List UInt8}
    (short : sprite.length ≤ height) :
    (screen.draw x y sprite).2 = true ↔
      ∃ (px : Fin width) (py : Fin height),
        (covering x y sprite px py).Nonempty ∧ screen.pixel px py = true := by
  rw [draw_collides_iff]
  refine exists_congr fun px => exists_congr fun py => ?_
  have single := card_covering_le_one x y short px py
  rw [← Finset.card_pos]
  constructor
  · rintro (⟨lit, covered⟩ | ⟨_, twice⟩)
    · exact ⟨covered, lit⟩
    · omega
  · exact fun ⟨covered, lit⟩ => .inl ⟨lit, covered⟩

/-- Drawing toggles every pixel as often as set bits of the sprite fall on it, with all coordinates
wrapped around the edges, and collides exactly if one of these bits meets a lit pixel. A sprite that is
no higher than the screen covers no pixel twice, so it toggles the pixels that it covers and collides
exactly if one of them was lit before. -/
theorem draw_toggles_covered_pixels (screen : Screen) (x y : Nat) (sprite : List UInt8) :
    let hits := fun (px : Fin width) (py : Fin height) => (covering x y sprite px py).card
    let drawn := screen.draw x y sprite
    (∀ (px : Fin width) (py : Fin height),
        drawn.1.pixel px py = (screen.pixel px py ^^ decide (Odd (hits px py)))) ∧
      (drawn.2 = true ↔ ∃ (px : Fin width) (py : Fin height),
        screen.pixel px py = true ∧ 1 ≤ hits px py ∨ screen.pixel px py = false ∧ 2 ≤ hits px py) ∧
      drawn.1.dirty = true ∧
      (sprite.length ≤ 32 →
        (∀ (px : Fin width) (py : Fin height),
          hits px py ≤ 1 ∧ (hits px py = 0 → drawn.1.pixel px py = screen.pixel px py)) ∧
        (drawn.2 = true ↔ ∃ (px : Fin width) (py : Fin height),
          1 ≤ hits px py ∧ screen.pixel px py = true)) := by
  intro hits drawn
  have toggled := screen.pixel_draw x y sprite
  refine ⟨toggled, screen.draw_collides_iff x y sprite, rfl, fun short => ⟨fun px py => ⟨?_, ?_⟩, ?_⟩⟩
  · exact card_covering_le_one x y short px py
  · intro uncovered
    have even : (covering x y sprite px py).card = 0 := uncovered
    rw [toggled, even]
    simp
  · rw [screen.draw_collides_iff_of_short x y short]
    simp only [hits, Nat.succ_le_iff, Finset.card_pos]

theorem corner_sprite_toggles :
    let screen := blank.setPixel 0 31 true
    let drawn := screen.draw 60 31 [0xFF, 0x80]
    [0xFF, 0x80].length ≤ 32 ∧ drawn.2 = true ∧ drawn.1.pixel 0 31 = false ∧
      drawn.1.pixel 60 0 = true ∧ drawn.1.pixel 59 31 = false := by
  intro screen drawn
  have lit : screen.pixel 0 31 = true := by
    rw [pixel_setPixel, if_pos ⟨rfl, rfl⟩]
  have unlit : ∀ px, px % width ≠ 0 → ∀ py, screen.pixel px py = false := by
    intro px other py
    rw [pixel_setPixel, if_neg fun same => other same.1.symm]
    simp [pixel, blank]
  obtain ⟨toggled, _, _, short⟩ := draw_toggles_covered_pixels screen 60 31 [0xFF, 0x80]
  obtain ⟨spared, collides⟩ := short (by decide)
  let corner : Fin width × Fin height := (⟨0, by decide⟩, ⟨31, by decide⟩)
  let top : Fin width × Fin height := (⟨60, by decide⟩, ⟨0, by decide⟩)
  let left : Fin width × Fin height := (⟨59, by decide⟩, ⟨31, by decide⟩)
  refine ⟨by decide, collides.2 ⟨corner.1, corner.2, by decide, lit⟩, ?_, ?_, ?_⟩
  · refine (toggled corner.1 corner.2).trans ?_
    rw [lit]
    decide
  · refine (toggled top.1 top.2).trans ?_
    rw [unlit 60 (by decide)]
    decide
  · exact ((spared left.1 left.2).2 (by decide)).trans (unlit 59 (by decide) 31)

end SpriteMachine.Screen
