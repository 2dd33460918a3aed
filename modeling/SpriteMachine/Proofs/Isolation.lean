import SpriteMachine.Proofs.Interleaving
import SpriteMachine.Random.Stride

/-! What a program cannot notice. The sound timer and the mark on the screen are only written to, and the
noted word and keys are replaced before an instruction can see them. Two machines that differ in nothing
else give the same answers to the same actions, and stay as much alike. -/

namespace SpriteMachine

namespace Machine

variable {G : Type}

/-- The machines agree on everything but the sound timer, the mark on the screen, and the word and the
keys that they last took note of. -/
structure SameCourse (first second : Machine G) : Prop extends SameSight first second where
  pixels : second.screen.pixels = first.screen.pixels
  delay : second.delay = first.delay
  random : second.random = first.random

theorem likeness_sameCourse : Likeness (SameCourse (G := G)) where
  sight like := like.toSameSight
  primed like _ := ⟨⟨like.fault, like.memory, like.counter, like.registers, like.index, like.stack⟩,
    like.pixels, like.delay, like.random⟩
  halt like _ := ⟨⟨rfl, like.memory, like.counter, like.registers, like.index, like.stack⟩,
    like.pixels, like.delay, like.random⟩
  move like advance := ⟨⟨like.fault, like.memory, congrArg advance.apply like.counter, like.registers,
    like.index, like.stack⟩, like.pixels, like.delay, like.random⟩

def renoted (machine : Machine G) (word : UInt16) (sound : Timer) : Machine G :=
  { machine with word := word, sound := sound }

theorem SameCourse.eq_renoted {first second : Machine G} (same : SameCourse first second)
    (keys : second.keys = first.keys) :
    second = (first.renoted second.word second.sound).marked second.screen.dirty := by
  obtain ⟨⟨fault, memory, counter, registers, index, stack⟩, pixels, delay, random⟩ := same
  rw [marked, renoted, ← fault, ← memory, ← counter, ← registers, ← index, ← stack, ← pixels, ← delay,
    ← random, ← keys]

theorem sameCourse_renoted (machine : Machine G) (word : UInt16) (sound : Timer) (mark : Bool) :
    SameCourse machine ((machine.renoted word sound).marked mark) :=
  ⟨⟨rfl, rfl, rfl, rfl, rfl, rfl⟩, rfl, rfl, rfl⟩

variable [Generator G]

theorem effect_renoted (machine : Machine G) (instruction : Instruction) (word : UInt16)
    (sound : Timer) :
    (machine.renoted word sound).effect instruction =
      { machine.effect instruction with
        machine := (machine.effect instruction).machine.renoted word
          (if instruction.writes .sound then (machine.effect instruction).machine.sound else sound) } := by
  cases instruction with
  | system op => cases op <;> rfl
  | arith op x y => cases op <;> rfl
  | misc op x =>
    cases op with
    | awaitKey =>
      have same : (machine.renoted word sound).keys = machine.keys := rfl
      simp only [effect, misc, same]
      cases machine.keys.firstPressed <;> rfl
    | _ => rfl
  | _ => rfl

theorem SameCourse.effect {first second : Machine G} (same : SameCourse first second)
    (keys : second.keys = first.keys) (instruction : Instruction) :
    ∃ after, second.effect instruction = { first.effect instruction with machine := after } ∧
      SameCourse (first.effect instruction).machine after := by
  have told := effect_marked (first.renoted second.word second.sound) instruction second.screen.dirty
  rw [← same.eq_renoted keys, effect_renoted] at told
  exact ⟨_, told, sameCourse_renoted _ _ _ _⟩

section Runs

variable {first second : Machine G} (same : SameCourse first second)

include same

theorem SameCourse.step (keys : Keypad) :
    (second.step keys).1 = (first.step keys).1 ∧
      SameCourse (first.step keys).2 (second.step keys).2 := by
  refine likeness_sameCourse.step same fun instruction _ => ?_
  exact (likeness_sameCourse.primed same keys).effect rfl instruction

theorem SameCourse.act (action : Action) :
    second.answer action = first.answer action ∧
      SameCourse (first.act action) (second.act action) := by
  cases action with
  | step keys =>
    obtain ⟨result, after⟩ := same.step keys
    exact ⟨congrArg Answer.stepped result, after⟩
  | tick =>
    have ticked : SameCourse first.tick second.tick :=
      { same with delay := congrArg Timer.tick same.delay }
    exact ⟨rfl, ticked⟩
  | present => exact ⟨congrArg Answer.presented same.pixels, { same with }⟩

end Runs

theorem SameCourse.run {first second : Machine G} (same : SameCourse first second)
    (actions : List Action) : SameCourse (first.run actions) (second.run actions) := by
  induction actions generalizing first second with
  | nil => exact same
  | cons action later ih => exact ih (same.act action).2

theorem SameCourse.answers {first second : Machine G} (same : SameCourse first second)
    (actions : List Action) : second.answers actions = first.answers actions := by
  induction actions generalizing first second with
  | nil => rfl
  | cons action later ih =>
    rw [Machine.answers, Machine.answers, (same.act action).1, ih (same.act action).2]

/-- Two machines on the same course get the same answers all along a history of actions, and are on the
same course after each of them. So keys only count in the step that they are given to, and the sound
timer and the mark on the screen do not count at all. -/
theorem course_independent_of_sound_mark_and_notes {first second : Machine G}
    (same : SameCourse first second) (actions : List Action) :
    second.answers actions = first.answers actions ∧
      ∀ earlier, earlier <+: actions → SameCourse (first.run earlier) (second.run earlier) :=
  ⟨same.answers actions, fun earlier _ => same.run earlier⟩

def sounding : Machine Stride :=
  fresh (Memory.initial.store Memory.programStart [0xF0, 0x18, 0xF0, 0x0A]) Screen.blank ⟨0, 0⟩

theorem sounding_independent :
    let other : Machine Stride :=
      { sounding with
        word := 0xF00A, keys := Keypad.released.setKey 7 true, sound := ⟨9⟩
        screen := sounding.screen.present }
    let actions := [.step Keypad.released, .tick, .step Keypad.released, .present]
    SameCourse sounding other ∧ other.answers actions = sounding.answers actions ∧
      SameCourse (sounding.run actions) (other.run actions) := by
  intro other actions
  have same : SameCourse sounding other := ⟨⟨rfl, rfl, rfl, rfl, rfl, rfl⟩, rfl, rfl, rfl⟩
  obtain ⟨answers, runs⟩ := course_independent_of_sound_mark_and_notes same actions
  exact ⟨same, answers, runs actions (List.prefix_refl actions)⟩

end Machine

end SpriteMachine
