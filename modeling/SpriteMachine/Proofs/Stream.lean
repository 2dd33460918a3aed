import SpriteMachine.Proofs.Decoding
import SpriteMachine.Proofs.Steps
import SpriteMachine.Random.Stride

/-! Where the random numbers of a program come from. The numbers that a generator yields are a stream,
and only a random instruction takes one from it. So the place in the stream is the count of the random
instructions carried out so far, whatever else happens between them, and a run can be repeated from the
generator that it started with. -/

namespace SpriteMachine

namespace Generator

variable {G : Type} [Generator G]

/-- The number that the draw at `place` yields, counted from zero. -/
def stream (generator : G) (place : Nat) : UInt32 :=
  (next (after generator place)).1

theorem draw_after (generator : G) (place : Nat) :
    draw (after generator place) = ((stream generator place).toUInt8, after generator (place + 1)) :=
  rfl

end Generator

namespace Instruction

def isRandom : Instruction → Bool
  | random _ _ => true
  | _ => false

theorem writes_random (instruction : Instruction) :
    instruction.writes .random = instruction.isRandom := by
  cases instruction with
  | system op | misc op x => cases op <;> rfl
  | _ => rfl

end Instruction

namespace Machine

variable {G : Type} [Generator G]

theorem act_of_random {machine : Machine G} {keys : Keypad} {x : Register} {mask : UInt8}
    (rolled : machine.performs? (.step keys) = some (.random x mask)) :
    machine.act (.step keys) =
      { (machine.primed keys).setRegister x ((Generator.draw machine.random).1 &&& mask) with
        random := (Generator.draw machine.random).2, counter := machine.counter + 2 } := by
  have next := Advance.apply_next_of_fetchable (counter_lt_of_performs rolled)
  rw [act, step_of_performs rolled, ← next]
  rfl

theorem random_act_of_random {machine : Machine G} {keys : Keypad} {x : Register} {mask : UInt8}
    (rolled : machine.performs? (.step keys) = some (.random x mask)) :
    (machine.act (.step keys)).random = (Generator.draw machine.random).2 := by
  rw [act_of_random rolled]

theorem register_act_of_random {machine : Machine G} {keys : Keypad} {x : Register} {mask : UInt8}
    (rolled : machine.performs? (.step keys) = some (.random x mask)) :
    (machine.act (.step keys)).register x = (Generator.draw machine.random).1 &&& mask := by
  have kept := register_setRegister (machine.primed keys) x x ((Generator.draw machine.random).1 &&& mask)
  rw [if_pos rfl] at kept
  rw [act_of_random rolled]
  exact kept

theorem random_act_of_other {machine : Machine G} {action : Action}
    (other : ∀ x mask, machine.performs? action ≠ some (.random x mask)) :
    (machine.act action).random = machine.random := by
  cases action with
  | tick | present => rfl
  | step keys =>
    have kept : (machine.step keys).2.AgreeOn machine .random := by
      refine step_agreeOn fun instruction performed => ?_
      rw [Instruction.writes_random]
      cases instruction with
      | random x mask => exact absurd performed (other x mask)
      | _ => rfl
    exact kept

theorem random_act (machine : Machine G) (action : Action) :
    (machine.act action).random =
      Generator.after machine.random ((machine.performs? action).toList.countP Instruction.isRandom) := by
  by_cases rolls : ∃ x mask, machine.performs? action = some (.random x mask)
  · obtain ⟨x, mask, rolled⟩ := rolls
    cases action with
    | tick | present => cases rolled
    | step keys =>
      rw [random_act_of_random rolled, rolled]
      rfl
  · have other : ∀ x mask, machine.performs? action ≠ some (.random x mask) :=
      fun x mask rolled => rolls ⟨x, mask, rolled⟩
    have drawless : (machine.performs? action).toList.countP Instruction.isRandom = 0 := by
      rcases found : machine.performs? action with _ | instruction
      · rfl
      · cases instruction with
        | random x mask => exact absurd found (other x mask)
        | _ => rfl
    rw [random_act_of_other other, drawless, Generator.after]

theorem random_run (machine : Machine G) (actions : List Action) :
    (machine.run actions).random =
      Generator.after machine.random ((machine.performed actions).countP Instruction.isRandom) := by
  induction actions generalizing machine with
  | nil => rfl
  | cons action later ih =>
    rw [run_cons, ih, random_act, ← Generator.after_add, performed, List.countP_append]

theorem performs?_random_iff {machine : Machine G} {keys : Keypad} {x : Register} {mask : UInt8} :
    machine.performs? (.step keys) = some (.random x mask) ↔
      machine.isHalted = false ∧ machine.fetched? = some (Instruction.layoutByte 0xC x mask.toNat) := by
  rw [performs?_eq_some_iff]
  refine and_congr_right fun _ => ⟨?_, fun fetched => ?_⟩
  · rintro ⟨⟨word, fetched, decoded⟩, _⟩
    rwa [(Instruction.decode_eq_iff rfl).1 decoded] at fetched
  · exact ⟨⟨_, fetched, (Instruction.decode_eq_iff rfl).2 rfl⟩, rfl⟩

/-- After any history the generator is as many draws on as random instructions were carried out. The next
action draws exactly if it carries out such an instruction, which is what a running machine does with a
word of group `C`, and then its register gets the next number of the stream through its mask. -/
theorem random_instructions_follow_stream (memory : Memory) (screen : Screen) (random : G)
    (before : List Action) :
    let start := fresh memory screen random
    let machine := start.run before
    let place := (start.performed before).countP Instruction.isRandom
    machine.random = Generator.after random place ∧
      (∀ keys x mask, machine.performs? (.step keys) = some (.random x mask) ↔
        machine.isHalted = false ∧
          machine.fetched? = some (Instruction.layoutByte 0xC x mask.toNat)) ∧
      ∀ action,
        (∀ x mask, machine.performs? action = some (.random x mask) →
          (machine.act action).register x = (Generator.stream random place).toUInt8 &&& mask ∧
            (machine.act action).random = Generator.after random (place + 1)) ∧
        ((∀ x mask, machine.performs? action ≠ some (.random x mask)) →
          (machine.act action).random = machine.random) := by
  intro start machine place
  have reached : machine.random = Generator.after random place := start.random_run before
  refine ⟨reached, fun keys x mask => performs?_random_iff, fun action => ⟨fun x mask rolled => ?_, ?_⟩⟩
  · cases action with
    | tick | present => cases rolled
    | step keys =>
      rw [register_act_of_random rolled, random_act_of_random rolled, reached, Generator.draw_after]
      exact ⟨rfl, rfl⟩
  · exact random_act_of_other

def gambling : Machine Stride :=
  fresh (Memory.initial.store Memory.programStart [0xC0, 0xFF, 0xC1, 0x0F]) Screen.blank ⟨0x1234, 0x11⟩

theorem gambling_follows_stream :
    let before := [.step Keypad.released, .tick, .present]
    let machine := gambling.run before
    machine.performs? (.step Keypad.released) = some (.random 1 0x0F) ∧
      (machine.act (.step Keypad.released)).register 1 = 5 ∧
      (machine.act (.step Keypad.released)).random = ⟨0x1256, 0x11⟩ ∧
      (machine.act .tick).random = ⟨0x1245, 0x11⟩ := by
  intro before machine
  have stored : gambling.memory =
      Memory.initial.store Memory.programStart [0xC0, 0xFF, 0xC1, 0x0F] := rfl
  have fetched : gambling.fetched? = some (Word.ofBytes 0xC0 0xFF) :=
    fetched?_store stored (by decide) (Nat.add_zero Memory.programStart).symm rfl rfl
  have first : gambling.performs? (.step Keypad.released) = some (.random 0 0xFF) :=
    performs?_random_iff.2 ⟨rfl, fetched⟩
  have shown : machine = (gambling.act (.step Keypad.released)).tick.present := rfl
  rw [act_of_random first] at shown
  have inherited : machine.memory = gambling.memory := by rw [shown]; rfl
  have there : machine.counter = Memory.programStart + 2 := by rw [shown]; rfl
  have running : machine.isHalted = false := by rw [shown]; rfl
  have again : machine.fetched? = some (Word.ofBytes 0xC1 0x0F) :=
    fetched?_store (inherited.trans stored) (by decide) there rfl rfl
  have place : ((fresh gambling.memory Screen.blank gambling.random).performed before).countP
      Instruction.isRandom = 1 := by
    change (gambling.performed before).countP Instruction.isRandom = 1
    rw [performed, first]
    rfl
  obtain ⟨reached, carried, acts⟩ :=
    random_instructions_follow_stream gambling.memory Screen.blank gambling.random before
  have second : machine.performs? (.step Keypad.released) = some (.random 1 0x0F) :=
    (carried Keypad.released 1 0x0F).2 ⟨running, again⟩
  obtain ⟨kept, rest⟩ := (acts (.step Keypad.released)).1 1 0x0F second
  have idle := (acts .tick).2 (by simp [performs?])
  rw [place] at reached kept rest
  exact ⟨second, kept, rest, idle.trans reached⟩

end Machine

end SpriteMachine
