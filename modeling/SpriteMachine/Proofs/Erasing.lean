import SpriteMachine.Proofs.Sprites
import SpriteMachine.Proofs.Steps
import SpriteMachine.Random.Stride

/-! Drawing over a drawing. Toggling a pixel twice leaves it as it was, in whatever order it is toggled,
so a sprite is erased by drawing it again and sprites can be drawn in any order. The draw instruction
inherits this as long as the flag that it leaves behind is none of its coordinates. -/

namespace SpriteMachine

namespace Screen

theorem pixels_draw_draw (screen : Screen) (x y : Nat) (sprite : List UInt8) :
    ((screen.draw x y sprite).1.draw x y sprite).1.pixels = screen.pixels := by
  refine Vector.ext fun i inside => ?_
  have twice := (screen.draw x y sprite).1.get_pixels_draw x y sprite ⟨i, inside⟩
  rw [screen.get_pixels_draw, Bool.xor_assoc, Bool.xor_self, Bool.xor_false] at twice
  exact twice

theorem draw_comm (screen : Screen) (x y : Nat) (sprite : List UInt8) (x' y' : Nat)
    (sprite' : List UInt8) :
    ((screen.draw x y sprite).1.draw x' y' sprite').1 =
      ((screen.draw x' y' sprite').1.draw x y sprite).1 := by
  refine congrArg (Screen.mk · true) (Vector.ext fun i inside => ?_)
  have first := (screen.draw x y sprite).1.get_pixels_draw x' y' sprite' ⟨i, inside⟩
  have second := (screen.draw x' y' sprite').1.get_pixels_draw x y sprite ⟨i, inside⟩
  rw [screen.get_pixels_draw] at first second
  exact first.trans ((Bool.xor_right_comm _ _ _).trans second.symm)

theorem redraw_collides_iff_of_short (screen : Screen) (x y : Nat) {sprite : List UInt8}
    (short : sprite.length ≤ height) :
    ((screen.draw x y sprite).1.draw x y sprite).2 = true ↔
      ∃ (px : Fin width) (py : Fin height),
        (covering x y sprite px py).Nonempty ∧ screen.pixel px py = false := by
  rw [draw_collides_iff_of_short _ _ _ short]
  refine exists_congr fun px => exists_congr fun py => and_congr_right fun covered => ?_
  have once : (covering x y sprite px py).card = 1 := by
    have := card_covering_le_one x y short px py
    have := Finset.card_pos.2 covered
    omega
  rw [pixel_draw, once]
  simp

theorem exists_covered_iff (x y : Nat) (sprite : List UInt8) :
    (∃ (px : Fin width) (py : Fin height), (covering x y sprite px py).Nonempty) ↔
      ∃ i < sprite.length, sprite.getD i 0 ≠ 0 := by
  constructor
  · rintro ⟨px, py, ⟨i, j⟩, covers⟩
    obtain ⟨⟨row, _⟩, set, _⟩ := mem_covering.1 covers
    refine ⟨i, row, fun zero => ?_⟩
    rw [zero] at set
    simp at set
  · rintro ⟨i, row, nonzero⟩
    obtain ⟨k, set⟩ := Nat.exists_testBit_of_ne_zero fun zero => nonzero (UInt8.toNat_inj.1 zero)
    have low : k < 8 := by
      refine Nat.lt_of_not_le fun high => ?_
      have small := Nat.testBit_lt_two_pow
        (Nat.lt_of_lt_of_le (sprite.getD i 0).toNat_lt (Nat.pow_le_pow_right (by decide) high))
      rw [small] at set
      cases set
    have mirrored : 7 - (7 - k) = k := by omega
    refine ⟨⟨(x + (7 - k)) % width, Nat.mod_lt _ (by decide)⟩,
      ⟨(y + i) % height, Nat.mod_lt _ (by decide)⟩, (i, 7 - k), ?_⟩
    exact mem_covering.2 ⟨⟨row, by omega⟩, by rw [mirrored, set], rfl, rfl⟩

end Screen

namespace Machine

variable {G : Type}

/-- What a draw instruction does to a screen, and whether it collides. -/
def stencil (machine : Machine G) (x y : Register) (height : Fin 16) (screen : Screen) :
    Screen × Bool :=
  screen.draw (machine.register x).toNat (machine.register y).toNat
    (machine.memory.slice machine.index height.val)

def stamped (machine : Machine G) (drawn : Screen × Bool) : Machine G :=
  { machine.setRegister flagRegister (if drawn.2 then 1 else 0) with
    screen := drawn.1, counter := machine.counter + 2 }

/-- The sprite lies in memory, and the flag does not overwrite where it is drawn. -/
structure Drawable (machine : Machine G) (x y : Register) (height : Fin 16) : Prop where
  column : x ≠ flagRegister
  line : y ≠ flagRegister
  sprite : machine.index + height.val ≤ 4096

def OnlyDraws (before : Machine G) (result : Except Fault Outcome × Machine G) : Prop :=
  result.1 = .ok .drew ∧
    result.2 = { before.setRegister flagRegister (result.2.register flagRegister) with
      screen := result.2.screen, counter := before.counter + 2 }

theorem register_stamped (machine : Machine G) (drawn : Screen × Bool) (x : Register) :
    (machine.stamped drawn).register x =
      if flagRegister = x then (if drawn.2 then 1 else 0) else machine.register x :=
  register_setRegister machine flagRegister x _

theorem onlyDraws_stamped (machine : Machine G) (drawn : Screen × Bool) :
    machine.OnlyDraws (.ok .drew, machine.stamped drawn) := by
  rw [OnlyDraws, register_stamped, if_pos rfl]
  exact ⟨rfl, rfl⟩

theorem flag_stamped_eq_one_iff (machine : Machine G) (drawn : Screen × Bool) :
    (machine.stamped drawn).register flagRegister = 1 ↔ drawn.2 = true := by
  rw [register_stamped, if_pos rfl]
  cases drawn.2 <;> simp

theorem flag_stamped_eq_zero_iff (machine : Machine G) (drawn : Screen × Bool) :
    (machine.stamped drawn).register flagRegister = 0 ↔ drawn.2 = false := by
  rw [register_stamped, if_pos rfl]
  cases drawn.2 <;> simp

theorem stencil_stamped {machine : Machine G} {x y : Register} {height : Fin 16}
    (drawable : machine.Drawable x y height) (drawn : Screen × Bool) :
    (machine.stamped drawn).stencil x y height = machine.stencil x y height := by
  funext screen
  rw [stencil, register_stamped, register_stamped, if_neg drawable.column.symm,
    if_neg drawable.line.symm]
  rfl

theorem length_slice_le_height (machine : Machine G) (height : Fin 16) :
    (machine.memory.slice machine.index height.val).length ≤ Screen.height := by
  have := height.isLt
  rw [Memory.length_slice, Screen.height]
  omega

def Covers (machine : Machine G) (x y : Register) (height : Fin 16) (px : Fin Screen.width)
    (py : Fin Screen.height) : Prop :=
  (Screen.covering (machine.register x).toNat (machine.register y).toNat
    (machine.memory.slice machine.index height.val) px py).Nonempty

theorem exists_covers_iff (machine : Machine G) (x y : Register) (height : Fin 16) :
    (∃ px py, machine.Covers x y height px py) ↔
      ∃ i < height.val, machine.memory.byte (machine.index + i) ≠ 0 := by
  have rows := Screen.exists_covered_iff (machine.register x).toNat (machine.register y).toNat
    (machine.memory.slice machine.index height.val)
  rw [Memory.length_slice] at rows
  refine rows.trans (exists_congr fun i => and_congr_right fun inside => ?_)
  rw [List.getD_eq_getElem?_getD, Memory.getElem?_slice _ _ inside, Option.getD_some]

theorem uncovered_iff (machine : Machine G) (x y : Register) (height : Fin 16) :
    (¬ (∃ px py, machine.Covers x y height px py ∧ machine.screen.pixel px py = true) ∧
        ¬ ∃ px py, machine.Covers x y height px py ∧ machine.screen.pixel px py = false) ↔
      ∀ i < height.val, machine.memory.byte (machine.index + i) = 0 := by
  have rows := not_congr (machine.exists_covers_iff x y height)
  simp only [not_exists, not_and, not_not] at rows ⊢
  refine Iff.trans ⟨?_, ?_⟩ rows
  · rintro ⟨unlit, lit⟩ px py covers
-- A covered pixel is lit or not, and either way it has been excluded.
    cases shown : machine.screen.pixel px py with
    | true => exact unlit px py covers shown
    | false => exact lit px py covers shown
  · intro uncovered
    exact ⟨fun px py covers => absurd covers (uncovered px py),
      fun px py covers => absurd covers (uncovered px py)⟩

variable [Generator G]

theorem execute_draw {machine : Machine G} {x y : Register} {height : Fin 16}
    (small : machine.counter ≤ 0x1004) (fits : machine.index + height.val ≤ 4096) :
    machine.execute (.draw x y height) =
      (.ok .drew, machine.stamped (machine.stencil x y height machine.screen)) := by
  have clear : machine.obstacle? (.draw x y height) = none := rangeObstacle?_eq_none_iff.2 fits
  have next : Advance.next.apply machine.counter = machine.counter + 2 := by
    apply Advance.apply_next
    simp only [Memory.addressLimit, Word.width]
    omega
  rw [execute_of_clear clear, stamped, ← next]
  rfl

theorem act_of_draw {machine : Machine G} {keys : Keypad} {x y : Register} {height : Fin 16}
    (draws : machine.performs? (.step keys) = some (.draw x y height)) :
    machine.act (.step keys) =
      (machine.primed keys).stamped (machine.stencil x y height machine.screen) := by
  have next := Advance.apply_next_of_fetchable (counter_lt_of_performs draws)
  rw [act, step_of_performs draws, stamped, primed, ← next]
  rfl

theorem execute_draw_stamped {machine : Machine G} {x y : Register} {height : Fin 16}
    (small : machine.counter ≤ 0x1002) (drawable : machine.Drawable x y height)
    (drawn : Screen × Bool) :
    (machine.stamped drawn).execute (.draw x y height) =
      (.ok .drew, (machine.stamped drawn).stamped (machine.stencil x y height drawn.1)) := by
  have later : (machine.stamped drawn).counter ≤ 0x1004 := Nat.add_le_add_right small 2
  rw [execute_draw later drawable.sprite, stencil_stamped drawable]
  rfl

/-- Drawing the same sprite twice restores the picture. The first drawing reports whether it met a lit
pixel, the second one whether the first one met an unlit one, so neither reports anything only if the
sprite is empty. Two draw instructions can be exchanged. And each of them changes nothing but the screen,
the flag and the counter. -/
theorem drawing_twice_erases_and_drawings_commute {machine : Machine G}
    (small : machine.counter ≤ 0x1002) {x y : Register} {height : Fin 16}
    (drawable : machine.Drawable x y height) :
    let once := machine.execute (.draw x y height)
    let twice := once.2.execute (.draw x y height)
    let metLit := ∃ px py, machine.Covers x y height px py ∧ machine.screen.pixel px py = true
    let metUnlit := ∃ px py, machine.Covers x y height px py ∧ machine.screen.pixel px py = false
    machine.OnlyDraws once ∧ once.2.OnlyDraws twice ∧
      twice.2.screen.pixels = machine.screen.pixels ∧
      (once.2.register flagRegister = 1 ↔ metLit) ∧ (once.2.register flagRegister = 0 ↔ ¬ metLit) ∧
      (twice.2.register flagRegister = 1 ↔ metUnlit) ∧
      (twice.2.register flagRegister = 0 ↔ ¬ metUnlit) ∧
      (once.2.register flagRegister = 0 ∧ twice.2.register flagRegister = 0 ↔
        ∀ i < height.val, machine.memory.byte (machine.index + i) = 0) ∧
      ∀ x' y' height', machine.Drawable x' y' height' →
        let other := machine.execute (.draw x' y' height')
        let both := once.2.execute (.draw x' y' height')
        let swapped := other.2.execute (.draw x y height)
        once.2.OnlyDraws both ∧ other.2.OnlyDraws swapped ∧ both.2.screen = swapped.2.screen := by
  intro once twice metLit metUnlit
  let stencil := machine.stencil x y height
  have early : machine.counter ≤ 0x1004 := Nat.le_trans small (by decide)
  have drawnOnce : once = (.ok .drew, machine.stamped (stencil machine.screen)) :=
    execute_draw early drawable.sprite
  have drawnTwice : twice = (.ok .drew, (machine.stamped (stencil machine.screen)).stamped
      (stencil (stencil machine.screen).1)) := by
    simp only [twice, drawnOnce]
    exact execute_draw_stamped small drawable _
  have short := machine.length_slice_le_height height
  have first : (stencil machine.screen).2 = true ↔ metLit :=
    machine.screen.draw_collides_iff_of_short _ _ short
  have second : (stencil (stencil machine.screen).1).2 = true ↔ metUnlit :=
    machine.screen.redraw_collides_iff_of_short _ _ short
  rw [drawnTwice, drawnOnce]
  simp only [flag_stamped_eq_one_iff, flag_stamped_eq_zero_iff, ← Bool.not_eq_true, first, second,
    true_and]
  refine ⟨onlyDraws_stamped _ _, onlyDraws_stamped _ _, ?_, ?_, ?_⟩
  · exact machine.screen.pixels_draw_draw _ _ _
  · exact machine.uncovered_iff x y height
  · intro x' y' height' drawable'
    rw [execute_draw_stamped small drawable', execute_draw early drawable'.sprite,
      execute_draw_stamped small drawable]
    refine ⟨onlyDraws_stamped _ _, onlyDraws_stamped _ _, ?_⟩
    exact machine.screen.draw_comm _ _ _ _ _ _

theorem glyph_erases :
    let machine : Machine Stride := { fresh Memory.initial Screen.blank ⟨0, 0⟩ with index := 0x50 }
    let once := machine.execute (.draw 0 1 5)
    let twice := once.2.execute (.draw 0 1 5)
    let both := once.2.execute (.draw 2 3 4)
    let swapped := (machine.execute (.draw 2 3 4)).2.execute (.draw 0 1 5)
    machine.counter ≤ 0x1002 ∧ machine.Drawable 0 1 5 ∧ machine.Drawable 2 3 4 ∧
      once.2.register flagRegister = 0 ∧ twice.2.register flagRegister ≠ 0 ∧
      twice.2.screen.pixels = machine.screen.pixels ∧ both.2.screen = swapped.2.screen := by
  intro machine once twice both swapped
  have small : machine.counter ≤ 0x1002 := by decide
  have glyph : machine.Drawable 0 1 5 := ⟨by decide, by decide, by decide⟩
  have part : machine.Drawable 2 3 4 := ⟨by decide, by decide, by decide⟩
  obtain ⟨_, _, restored, _, unlit, _, _, vanished, commute⟩ :=
    drawing_twice_erases_and_drawings_commute small glyph
  have dark : once.2.register flagRegister = 0 := by
    refine unlit.2 ?_
    rintro ⟨px, py, _, lit⟩
    simp [machine, fresh, Screen.pixel, Screen.blank] at lit
  have row : machine.memory.byte (machine.index + 0) = 0xF0 := Memory.byte_initial 0x50
  have drawn : twice.2.register flagRegister ≠ 0 := by
    intro erased
    rw [vanished.1 ⟨dark, erased⟩ 0 (by decide)] at row
    cases row
  exact ⟨small, glyph, part, dark, drawn, restored, (commute 2 3 4 part).2.2⟩

end Machine

end SpriteMachine
