import SpriteMachine.Proofs.Steps

/-! The bounds that every run keeps. The counter may run up to four bytes past the last whole word, since
a skip passes over two words, and then the next fetch fails. Return addresses lie behind a word that was
fetched, which bounds them on both sides, and so bounds the counter after a return. -/

namespace SpriteMachine

namespace Instruction

def isTransfer : Instruction → Bool
  | system .leave | jump _ | call _ | jumpFrom _ => true
  | _ => false

end Instruction

namespace Machine

variable {G : Type}

/-- The bounds of a machine that was run from the start of a program. -/
structure Bounded (machine : Machine G) : Prop where
  counter : machine.counter ≤ 0x1002
  index : machine.index ≤ 0xFFFF
  depth : machine.stack.length ≤ stackLimit
  returns : ∀ back ∈ machine.stack, 2 ≤ back ∧ back ≤ 0x1000

theorem bounded_fresh (memory : Memory) (screen : Screen) (random : G) :
    (fresh memory screen random).Bounded where
  counter := by simp [fresh, Memory.programStart]
  index := by simp [fresh]
  depth := by simp [fresh]
  returns := by simp [fresh]

theorem Bounded.congr {first second : Machine G} (bounded : first.Bounded)
    (counter : second.counter = first.counter) (index : second.index = first.index)
    (stack : second.stack = first.stack) : second.Bounded where
  counter := counter ▸ bounded.counter
  index := index ▸ bounded.index
  depth := stack ▸ bounded.depth
  returns := stack ▸ bounded.returns

theorem advance_skipIf (condition : Bool) :
    Advance.skipIf condition = .next ∨ Advance.skipIf condition = .skip := by
  cases condition
  · exact .inl rfl
  · exact .inr rfl

variable [Generator G]

theorem effect_advance_of_plain (machine : Machine G) {instruction : Instruction}
    (plain : instruction.isTransfer = false) :
    (machine.effect instruction).advance = .stay ∨ (machine.effect instruction).advance = .next ∨
      (machine.effect instruction).advance = .skip := by
  cases instruction with
  | system op =>
    cases op with
    | clear => exact .inr (.inl rfl)
    | leave => cases plain
  | jump | call | jumpFrom => cases plain
  | skipIfEqual | skipUnlessEqual | skipIfSame | skipUnlessSame | key =>
    exact .inr (advance_skipIf _)
  | misc op x =>
    cases op with
    | awaitKey =>
      simp only [effect, misc]
      split
      · exact .inr (.inl rfl)
      · exact .inl rfl
    | _ => exact .inr (.inl rfl)
  | _ => exact .inr (.inl rfl)

theorem apply_le_of_plain {advance : Advance}
    (plain : advance = .stay ∨ advance = .next ∨ advance = .skip) {counter : Nat}
    (inside : counter + 1 < Memory.size) : advance.apply counter ≤ 0x1002 := by
  have small : counter + 1 < 4096 := inside
  rcases plain with rfl | rfl | rfl
  · simp only [Advance.apply]
    omega
  · rw [Advance.apply_next_of_fetchable inside]
    omega
  · rw [Advance.apply_skip_of_fetchable inside]
    omega

theorem counter_effect_le {machine : Machine G} {instruction : Instruction} (bounded : machine.Bounded)
    (inside : machine.counter + 1 < Memory.size) (clear : machine.obstacle? instruction = none) :
    (machine.effect instruction).advance.apply machine.counter ≤ 0x1002 := by
  have inReach := (obstacle?_eq_none_iff.1 clear).1
  cases plain : instruction.isTransfer with
  | false => exact apply_le_of_plain (machine.effect_advance_of_plain plain) inside
  | true =>
    cases instruction with
    | system op =>
      cases op with
      | clear => cases plain
      | leave =>
        obtain ⟨back, rest, entries⟩ := exists_stack_of_clear_leave clear
        have upper := (bounded.returns back (by simp [entries])).2
        simp only [effect, Advance.apply, entries, List.headD_cons]
        omega
    | jump target | call target | jumpFrom base =>
      have fits := inReach _ _ rfl
      simp only [Memory.size, Word.width] at fits
      simp only [effect, Advance.apply]
      omega
    | _ => cases plain

theorem index_effect_le {machine : Machine G} (bounded : machine.Bounded) (instruction : Instruction) :
    (machine.effect instruction).machine.index ≤ 0xFFFF := by
  cases spared : instruction.writes .index with
  | false => exact machine.effect_agreeOn instruction spared ▸ bounded.index
  | true =>
    cases instruction with
    | setIndex target =>
      have := target.isLt
      simp only [effect]
      omega
    | misc op x =>
      cases op with
      | addToIndex =>
        simp only [effect, misc]
        omega
      | pointToGlyph =>
        have upper := (Font.glyphAddress_bounds (machine.register x)).2
        simp only [Font.glyphHeight, Font.base] at upper
        simp only [effect, misc]
        omega
      | _ => cases spared
    | system op => cases op <;> cases spared
    | _ => cases spared

theorem stack_effect (machine : Machine G) (instruction : Instruction) :
    (machine.effect instruction).machine.stack =
      match instruction with
      | .system .leave => machine.stack.tail
      | .call _ => Advance.next.apply machine.counter :: machine.stack
      | _ => machine.stack := by
  split
  · rfl
  · rfl
  · next keeps pushes =>
    have spared : instruction.writes .stack = false := by
      cases instruction with
      | system op => cases op <;> first | rfl | exact absurd rfl keeps
      | call target => exact absurd rfl (pushes target)
      | misc op x => cases op <;> rfl
      | _ => rfl
    exact machine.effect_agreeOn instruction spared

theorem stack_effect_bounded {machine : Machine G} {instruction : Instruction}
    (bounded : machine.Bounded) (inside : machine.counter + 1 < Memory.size)
    (clear : machine.obstacle? instruction = none) :
    (machine.effect instruction).machine.stack.length ≤ stackLimit ∧
      ∀ back ∈ (machine.effect instruction).machine.stack, 2 ≤ back ∧ back ≤ 0x1000 := by
  rw [stack_effect]
  split
  · refine ⟨?_, fun back found => bounded.returns back (List.mem_of_mem_tail found)⟩
    have := bounded.depth
    rw [List.length_tail]
    omega
  · refine ⟨length_stack_of_clear_call clear, ?_⟩
    have small : machine.counter + 1 < 4096 := inside
    rw [Advance.apply_next_of_fetchable inside]
    intro back found
    rcases List.mem_cons.1 found with rfl | older
    · omega
    · exact bounded.returns back older
  · exact ⟨bounded.depth, bounded.returns⟩

theorem Bounded.effect {machine : Machine G} {instruction : Instruction} (bounded : machine.Bounded)
    (inside : machine.counter + 1 < Memory.size) (clear : machine.obstacle? instruction = none) :
    ((machine.effect instruction).machine.move (machine.effect instruction).advance).Bounded where
  counter := by
    simp only [move, (machine.effect_step_fields instruction).1]
    exact counter_effect_le bounded inside clear
  index := index_effect_le bounded instruction
  depth := (stack_effect_bounded bounded inside clear).1
  returns := (stack_effect_bounded bounded inside clear).2

theorem Bounded.step {machine : Machine G} (bounded : machine.Bounded) (keys : Keypad) :
    (machine.step keys).2.Bounded := by
  have primed : (machine.primed keys).Bounded := bounded.congr rfl rfl rfl
  cases machine.stepCase keys with
  | halted stopped result => rwa [result]
  | unfetched running missing result =>
    rw [result]
    exact primed.congr rfl rfl rfl
  | performed running word fetched clear result =>
    rw [result]
    exact primed.effect (counter_lt_of_fetched fetched) (by rw [obstacle?_primed, clear])
  | rejected running word fetched cause blocked result =>
    rw [result]
    have inside := counter_lt_of_fetched fetched
    exact ⟨apply_le_of_plain (.inr (.inl rfl)) inside, primed.index, primed.depth, primed.returns⟩
  | failed running word fetched cause blocked result =>
    rw [result]
    exact primed.congr rfl rfl rfl

theorem Bounded.act {machine : Machine G} (bounded : machine.Bounded) (action : Action) :
    (machine.act action).Bounded := by
  cases action with
  | step keys => exact bounded.step keys
  | tick => exact bounded.congr rfl rfl rfl
  | present => exact bounded.congr rfl rfl rfl

theorem Bounded.run {machine : Machine G} (bounded : machine.Bounded) (actions : List Action) :
    (machine.run actions).Bounded := by
  induction actions generalizing machine with
  | nil => exact bounded
  | cons action later ih => exact ih (bounded.act action)

end Machine

end SpriteMachine
