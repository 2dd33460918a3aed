import SpriteMachine.Proofs.Bounds
import SpriteMachine.Proofs.Bursts
import SpriteMachine.Proofs.Interleaving
import SpriteMachine.Proofs.Recall
import SpriteMachine.Proofs.WriteSets

/-! Where jumps land. A target is accepted exactly if a whole word can be fetched from it. So behind an
accepted jump or call there is a word to fetch, whatever the program has made of itself, and a program
runs past its last word only by going on from one word to another or by a return. -/

namespace SpriteMachine

namespace Memory

theorem exists_fetch_iff_lt {memory : Memory} {pointer : Nat} :
    (∃ word, memory.fetch pointer = .ok word) ↔ pointer + 1 < size := by
  simp only [fetch_eq_ok_iff, exists_and_left, exists_eq, and_true]

theorem exists_readSlice_iff_fetch {memory : Memory} {pointer : Nat} :
    (∃ bytes, memory.readSlice pointer Word.width = .ok bytes) ↔
      ∃ word, memory.fetch pointer = .ok word := by
  simp only [exists_fetch_iff_lt, readSlice_eq_guarded, guarded_eq_ok_iff, exists_and_left, exists_eq',
    and_true, Word.width]
  omega

end Memory

namespace Machine

open Instruction
open Word

variable {G : Type}

theorem jumpObstacle?_eq_none_iff {memory : Memory} {target : Nat} :
    jumpObstacle? target = none ↔ ∃ word, memory.fetch target = .ok word := by
  rw [Memory.exists_fetch_iff_lt, jumpObstacle?, rangeObstacle?_eq_none_iff, Word.width]
  omega

theorem fetched?_isSome_iff {machine : Machine G} :
    (∃ word, machine.fetched? = some word) ↔ machine.counter + 1 < Memory.size := by
  rw [← Option.ne_none_iff_exists', ne_eq, fetched?_eq_none_iff, Nat.not_le]

theorem fetched?_of_zeros {machine : Machine G} (inside : machine.counter + 1 < Memory.size)
    (high : machine.memory.byte machine.counter = 0)
    (low : machine.memory.byte (machine.counter + 1) = 0) : machine.fetched? = some 0 := by
  have bytes := machine.memory.fetch_of_lt inside
  rw [high, low] at bytes
  exact congrArg Except.toOption bytes

variable [Generator G]

theorem sameSight_run_of_quiet (machine : Machine G) {quiet : List Action}
    (calm : ∀ action ∈ quiet, action.isStep = false) : SameSight machine (machine.run quiet) := by
  have stepless : quiet.filter Action.isStep = [] := List.filter_eq_nil_iff.2 (by simpa using calm)
  have ticked := (Ticked.refl machine).run (stepless ▸ timerless_nil machine)
  rw [stepless] at ticked
  exact (likeness_ticked _).sight ticked

/-- The step fails, waits, jumps or returns. -/
inductive Diverts (machine : Machine G) (keys : Keypad) : Prop
  | failed (fault : Fault) (result : (machine.step keys).1 = .error fault)
  | waited (result : (machine.step keys).1 = .ok .waiting)
  | jumped (word : UInt16) (digit : group word ∈ [0x1, 0x2, 0xB])
      (carried : machine.CarriesOut keys word)
  | returned (carried : machine.CarriesOut keys 0x00EE)

/-- The step goes on with the next word, or skips that one. -/
inductive Proceeds (machine : Machine G) (keys : Keypad) : Prop
  | next (moved : (machine.step keys).2.counter = machine.counter + 2)
  | skipped (word : UInt16) (digit : group word ∈ [0x3, 0x4, 0x5, 0x9, 0xE])
      (carried : machine.CarriesOut keys word)
      (moved : (machine.step keys).2.counter = machine.counter + 4)

theorem diverts_or_proceeds_of_leadsTo {machine : Machine G} {keys : Keypad} {word : UInt16}
    (running : machine.isHalted = false) (carried : machine.CarriesOut keys word) {target : Nat}
    (leads : machine.LeadsTo keys word target) (reached : (machine.step keys).2.counter = target) :
    machine.Diverts keys ∨ machine.Proceeds keys := by
  have digits (digit : Nat) (x y : Register) (bound : digit < 16) :
      group (layoutDigits digit x y 0x0) = digit := group_layoutDigits bound x y (by decide)
  have byte (digit : Nat) (x : Register) (value : UInt8) (bound : digit < 16) :
      group (layoutByte digit x value.toNat) = digit := group_layoutByte bound x value.toNat_lt
  cases leads with
  | jump target =>
    exact .inl (.jumped _ (by simp [group_layoutAddress]) carried)
  | call target =>
    exact .inl (.jumped _ (by simp [group_layoutAddress]) carried)
  | jumpFrom base =>
    exact .inl (.jumped _ (by simp [group_layoutAddress]) carried)
  | leave back older pushed => exact .inl (.returned carried)
  | await x released => exact .inl (.waited ((step_waits_iff running carried.1).2 ⟨⟨x, rfl⟩, released⟩))
  | skipIfEqual x value equal => exact .inr (.skipped _ (by simp [byte]) carried reached)
  | skipUnlessEqual x value other => exact .inr (.skipped _ (by simp [byte]) carried reached)
  | skipIfSame x y equal => exact .inr (.skipped _ (by simp [digits]) carried reached)
  | skipUnlessSame x y other => exact .inr (.skipped _ (by simp [digits]) carried reached)
  | skipIfPressed x key pressed =>
    exact .inr (.skipped _ (by simp [group_layoutByte]) carried reached)
  | skipUnlessPressed x released =>
    exact .inr (.skipped _ (by simp [group_layoutByte]) carried reached)

theorem diverts_or_proceeds (machine : Machine G) (keys : Keypad) :
    machine.Diverts keys ∨ machine.Proceeds keys := by
  cases machine.stepCase keys with
  | halted _ result | unfetched _ _ result | failed _ _ _ _ _ result =>
    exact .inl (.failed _ (congrArg Prod.fst result))
  | rejected running word fetched cause blocked result =>
    have rejected : (machine.step keys).1 = .ok (.rejected cause) := congrArg Prod.fst result
    exact .inr (.next (counter_step_of_rejected running fetched rejected))
  | performed running word fetched clear result =>
    have inside := counter_lt_of_fetched fetched
    have carried : machine.CarriesOut keys word :=
      carriesOut_iff.2 ⟨fetched, performs?_eq_some_iff.2 ⟨running, ⟨word, fetched, rfl⟩, clear⟩⟩
    have moved : (machine.step keys).2.counter = _ := counter_step_of_clear running fetched clear
    rcases advance_eq_next_or_leadsTo inside clear with next | leads
    · rw [next, Advance.apply_next_of_fetchable inside] at moved
      exact .inr (.next moved)
    · rw [encode_decode] at leads
      exact diverts_or_proceeds_of_leadsTo running carried leads moved

theorem counter_lt_of_jump {machine : Machine G} {keys : Keypad} {word : UInt16}
    (digit : group word ∈ [0x1, 0x2, 0xB]) (carried : machine.CarriesOut keys word) :
    (machine.step keys).2.counter + 1 < Memory.size := by
  have performed := (carriesOut_iff.1 carried).2
  have inReach := (obstacle?_eq_none_iff.1 (performs?_eq_some_iff.1 performed).2.2).1
  have stepped := step_of_performs performed
  simp only [List.mem_cons, List.not_mem_nil, or_false] at digit
  rcases digit with digit | digit | digit
  · have decoded : decode word = .jump (nnn word) := by simp [decode, digit]
    rw [decoded] at stepped inReach
    rw [stepped]
    exact inReach _ _ rfl
  · have decoded : decode word = .call (nnn word) := by simp [decode, digit]
    rw [decoded] at stepped inReach
    rw [stepped]
    exact inReach _ _ rfl
  · have decoded : decode word = .jumpFrom (nnn word) := by simp [decode, digit]
    rw [decoded] at stepped inReach
    rw [stepped]
    exact inReach _ _ rfl

theorem of_fetch_error {machine : Machine G} {keys : Keypad} {cause : FetchFault}
    (failed : (machine.step keys).1 = .error (.fetch cause)) :
    machine.isHalted = false ∧ machine.fetched? = none ∧ cause = ⟨machine.counter, Memory.size⟩ := by
  cases machine.stepCase keys with
  | unfetched running missing result =>
    rw [result] at failed
    cases failed
    exact ⟨running, missing, rfl⟩
  | halted _ result | performed _ _ _ _ result | rejected _ _ _ _ _ result | failed _ _ _ _ _ result =>
    rw [result] at failed
    cases failed

theorem exists_last_step (actions : List Action) :
    (∀ action ∈ actions, action.isStep = false) ∨
      ∃ earlier keys quiet, actions = earlier ++ .step keys :: quiet ∧
        ∀ action ∈ quiet, action.isStep = false := by
  induction actions with
  | nil => exact .inl nofun
  | cons action later ih =>
    rcases ih with calm | ⟨earlier, keys, quiet, rfl, calm⟩
    · cases action with
      | step keys => exact .inr ⟨[], keys, later, rfl, calm⟩
      | tick | present => exact .inl (List.forall_mem_cons.2 ⟨rfl, calm⟩)
    · exact .inr ⟨action :: earlier, keys, quiet, rfl, calm⟩

theorem proceeds_or_returned_of_unfetched {machine : Machine G} {keys : Keypad}
    (running : (machine.step keys).2.isHalted = false) (missing : (machine.step keys).2.fetched? = none) :
    (machine.Proceeds keys ∨ machine.CarriesOut keys 0x00EE) ∧
      ∀ word, group word ∈ [0x1, 0x2, 0xB] → ¬ machine.CarriesOut keys word := by
  have outside := fetched?_eq_none_iff.1 missing
  have noJump : ∀ word, group word ∈ [0x1, 0x2, 0xB] → ¬ machine.CarriesOut keys word :=
    fun word digit carried => absurd (counter_lt_of_jump digit carried) (Nat.not_lt_of_le outside)
  refine ⟨?_, noJump⟩
  rcases machine.diverts_or_proceeds keys with diverts | proceeds
  · cases diverts with
    | failed fault result =>
      rw [isHalted_of_step_error result] at running
      cases running
    | waited result =>
      obtain ⟨word, fetched⟩ := exists_fetched_of_step_ok result
      have still : (machine.step keys).2 = machine.primed keys :=
        (step_of_waiting (Prod.ext result rfl)).1
      rw [still, fetched?_primed, fetched] at missing
      cases missing
    | jumped word digit carried => exact absurd carried (noJump word digit)
    | returned carried => exact .inr carried
  · exact .inl proceeds

/-- Jumps accept exactly the targets that a word can be fetched from, so the step behind an accepted one
never lacks its word. In a run a word is only missing behind a step that went on with the next word,
skipped it or returned, and then at one of the four places where the memory ends. -/
theorem accepted_jumps_land_on_words :
    (∀ (memory : Memory) target,
      (jumpObstacle? target = none ↔ ∃ word, memory.fetch target = .ok word) ∧
        ((∃ bytes, memory.readSlice target Word.width = .ok bytes) ↔
          ∃ word, memory.fetch target = .ok word)) ∧
    (∀ (machine : Machine G) keys word quiet, group word ∈ [0x1, 0x2, 0xB] →
      machine.CarriesOut keys word → (∀ action ∈ quiet, action.isStep = false) →
      let landed := (machine.act (.step keys)).run quiet
      landed.isHalted = false ∧ (∃ there, landed.fetched? = some there) ∧
        ∀ next cause, (landed.step next).1 ≠ .error (.fetch cause)) ∧
    ∀ memory screen (random : G) before keys cause,
      let start := fresh memory screen random
      let machine := start.run before
      (machine.step keys).1 = .error (.fetch cause) →
        0xFFF ≤ machine.counter ∧ machine.counter ≤ 0x1002 ∧ cause = ⟨machine.counter, 4096⟩ ∧
          ∃ earlier last quiet, before = earlier ++ .step last :: quiet ∧
            (∀ action ∈ quiet, action.isStep = false) ∧
            ((start.run earlier).Proceeds last ∨ (start.run earlier).CarriesOut last 0x00EE) ∧
            ∀ word, group word ∈ [0x1, 0x2, 0xB] → ¬ (start.run earlier).CarriesOut last word := by
  refine ⟨fun memory target => ⟨jumpObstacle?_eq_none_iff, Memory.exists_readSlice_iff_fetch⟩,
    fun machine keys word quiet digit carried calm => ?_, fun memory screen random before keys cause => ?_⟩
  · intro landed
    obtain ⟨outcome, ok, _⟩ := carried.2
    have sight := (machine.act (.step keys)).sameSight_run_of_quiet calm
    have running : landed.isHalted = false := sight.isHalted.trans (isHalted_step_of_ok ok)
    have there : ∃ there, landed.fetched? = some there := by
      rw [sight.fetched?]
      exact fetched?_isSome_iff.2 (counter_lt_of_jump digit carried)
    refine ⟨running, there, fun next cause failed => ?_⟩
    obtain ⟨there, fetched⟩ := there
    rw [(of_fetch_error failed).2.1] at fetched
    cases fetched
  · intro start machine failed
    obtain ⟨running, missing, rfl⟩ := of_fetch_error failed
    have outside : 4096 ≤ machine.counter + 1 := fetched?_eq_none_iff.1 missing
    have bounded : machine.Bounded := (bounded_fresh memory screen random).run before
    refine ⟨by omega, bounded.counter, rfl, ?_⟩
-- Ticks and frames do not move the counter, so the last step has to account for it.
    rcases exists_last_step before with calm | ⟨earlier, last, quiet, split, calm⟩
    · have still := (start.sameSight_run_of_quiet calm).counter
      have base : start.counter = 0x200 := rfl
      rw [still, base] at outside
      exact absurd outside (by decide)
    · have sight := ((start.run earlier).act (.step last)).sameSight_run_of_quiet calm
      have ends : machine = ((start.run earlier).act (.step last)).run quiet := by
        simp only [machine, split, run_append, run_cons]
      rw [ends, sight.isHalted] at running
      rw [ends, sight.fetched?] at missing
      exact ⟨earlier, last, quiet, split, calm, proceeds_or_returned_of_unfetched running missing⟩

theorem act_of_jump {machine : Machine G} {keys : Keypad} {target : Address}
    (jumped : machine.performs? (.step keys) = some (.jump target)) :
    machine.act (.step keys) = { machine.primed keys with counter := target.val } := by
  rw [act, step_of_performs jumped]
  rfl

theorem jump_lands_on_last_word :
    let start : Machine Stride :=
      fresh (Memory.initial.store Memory.programStart [0x1F, 0xFE]) Screen.blank ⟨0, 0⟩
    let keys := Keypad.released
    let landed := (start.act (.step keys)).run [.tick]
    let machine := start.run [.step keys, .tick, .step keys]
    start.CarriesOut keys 0x1FFE ∧ (∃ there, landed.fetched? = some there) ∧
      (machine.step keys).1 = .error (.fetch ⟨0x1000, 4096⟩) ∧ machine.counter ≤ 0x1002 ∧
      ∃ earlier last quiet, [.step keys, .tick, .step keys] = earlier ++ .step last :: quiet ∧
        (∀ action ∈ quiet, action.isStep = false) ∧
        ((start.run earlier).Proceeds last ∨ (start.run earlier).CarriesOut last 0x00EE) := by
  intro start keys landed machine
  -- Only these fields of the first machine are read, so its bytes stay out of the way.
  have begun : start =
      fresh (Memory.initial.store Memory.programStart [0x1F, 0xFE]) Screen.blank ⟨0, 0⟩ := rfl
  have stored : start.memory = Memory.initial.store Memory.programStart [0x1F, 0xFE] := rfl
  have pointed : start.counter = Memory.programStart + 0 := rfl
  have unfaulted : start.isHalted = false := rfl
  clear_value start
  have fetched : start.fetched? = some (Word.ofBytes 0x1F 0xFE) :=
    fetched?_store stored (by decide) pointed rfl rfl
  have performed : start.performs? (.step keys) = some (.jump 0xFFE) :=
    performs?_eq_some_iff.2 ⟨unfaulted, ⟨_, fetched, (decode_eq_iff rfl).2 rfl⟩, rfl⟩
  have carried : start.CarriesOut keys 0x1FFE := carriesOut_of_performs performed
  obtain ⟨_, lands, runs⟩ := accepted_jumps_land_on_words (G := Stride)
  obtain ⟨running, there, _⟩ := lands start keys 0x1FFE [.tick] (by decide) carried (by decide)
  have sight : SameSight (start.act (.step keys)) landed :=
    sameSight_run_of_quiet _ (by decide)
  have blank (address : Nat) (behind : 0x202 ≤ address) : start.memory.byte address = 0 := by
    rw [stored, Memory.byte_store _ _ _ (by decide), if_neg, Memory.byte_initial]
    · exact Font.byteAt_of_le (Nat.le_trans (by decide) behind)
    · simp only [Memory.programStart, List.length_cons, List.length_nil]
      omega
  have last : landed.fetched? = some 0 := by
    rw [sight.fetched?, act_of_jump performed, primed_of_fetched fetched]
    have room : (0xFFE : Address).val + 1 < Memory.size := by decide
    exact fetched?_of_zeros room (blank 0xFFE (by decide)) (blank 0xFFF (by decide))
  have arrived : landed.counter = 0xFFE := by
    rw [sight.counter, act_of_jump performed]
    rfl
  have meaningless : Meaningless 0 := .system (by decide) ⟨by decide, by decide⟩
  have ends : machine = (landed.step keys).2 := by
    change start.run [.step keys, .tick, .step keys] =
      (((start.act (.step keys)).run [.tick]).step keys).2
    rw [run_cons, run_cons, run_cons, run_nil, run_cons, run_nil, ← act]
  have unhalted : machine.isHalted = false := by
    rw [ends]
    exact isHalted_step_of_ok ((step_unimplemented_iff running last).2 ⟨rfl, meaningless⟩)
  have counted : machine.counter = 0x1000 := by
    rw [ends, step_of_meaningless running last meaningless, arrived]
  have missing : machine.fetched? = none := fetched?_eq_none_iff.2 (by rw [counted]; decide)
  have failed : (machine.step keys).1 = .error (.fetch ⟨0x1000, 4096⟩) := by
    rw [step_of_unfetched unhalted missing, counted]
    rfl
  have fell := runs (Memory.initial.store Memory.programStart [0x1F, 0xFE]) Screen.blank ⟨0, 0⟩
    [.step keys, .tick, .step keys] keys ⟨0x1000, 4096⟩ (by rw [← begun]; exact failed)
  rw [← begun] at fell
  obtain ⟨_, upper, _, earlier, last, quiet, split, calm, onward, _⟩ := fell
  exact ⟨carried, there, failed, upper, earlier, last, quiet, split, calm, onward⟩

end Machine

end SpriteMachine
