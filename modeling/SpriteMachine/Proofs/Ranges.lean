import SpriteMachine.Proofs.Rejection

/-! Which ranges of bytes can be read and written. By the rule for such accesses they fail exactly if some
address of the range lies outside of the memory, and report the first one that does. Two kinds of ranges
are treated otherwise. One without bytes fails if it begins behind the end of the memory, although no
address of it is missing. And one whose end has no 64-bit address is reported by its start, even where
that address exists. -/

namespace SpriteMachine

namespace Memory

def Missing (start length address : Nat) : Prop :=
  start ≤ address ∧ address < start + length ∧ size ≤ address

/-- The answer fails exactly if some address is missing, and reports the first one. -/
structure FollowsRule {α : Type} (start length : Nat) (answer : Except MemoryFault α) : Prop where
  fails : (∃ fault, answer = .error fault) ↔ ∃ address, Missing start length address
  reports : ∀ fault, answer = .error fault →
    fault.size = size ∧ Missing start length fault.address ∧
      ∀ address, Missing start length address → fault.address ≤ address

/-- The ranges that are not treated by the rule. -/
inductive Irregular (start length : Nat) : Prop
  | empty (nothing : length = 0) (behind : size < start)
  | endless (inside : start < size) (far : addressLimit ≤ start + length)

def guarded {α : Type} (start length : Nat) (value : α) : Except MemoryFault α :=
  match rangeFault? start length with
  | none => .ok value
  | some fault => .error fault

theorem readSlice_eq_guarded (memory : Memory) (start length : Nat) :
    memory.readSlice start length = guarded start length (memory.slice start length) := rfl

theorem writeSlice_eq_guarded (memory : Memory) (start : Nat) (data : List UInt8) :
    memory.writeSlice start data = guarded start data.length (memory.store start data) := rfl

theorem guarded_eq_ok_iff {α : Type} {start length : Nat} {value result : α} :
    guarded start length value = .ok result ↔ start + length ≤ size ∧ value = result := by
  rw [← rangeFault?_eq_none_iff, guarded]
  cases rangeFault? start length <;> simp

section Ranges

variable {start length : Nat}

theorem exists_missing_iff :
    (∃ address, Missing start length address) ↔ 0 < length ∧ size < start + length := by
  constructor
  · rintro ⟨address, from_start, to_end, outside⟩
    omega
  · rintro ⟨positive, outside⟩
    exact ⟨start + length - 1, by omega, by omega, by omega⟩

theorem missing_max (positive : 0 < length) (outside : size < start + length) :
    Missing start length (max start size) ∧
      ∀ address, Missing start length address → max start size ≤ address := by
  refine ⟨⟨Nat.le_max_left _ _, Nat.max_lt.2 ⟨by omega, outside⟩, Nat.le_max_right _ _⟩, ?_⟩
  rintro address ⟨from_start, _, behind⟩
  exact Nat.max_le.2 ⟨from_start, behind⟩

theorem rangeFault?_of_irregular (irregular : Irregular start length) :
    rangeFault? start length = some ⟨start, size⟩ := by
  by_cases far : addressLimit ≤ start + length
  · rw [rangeFault?, if_pos far]
  · cases irregular with
    | empty nothing behind =>
      rw [rangeFault?_of_lt (Nat.lt_of_not_le far) (by omega), Nat.max_eq_left (Nat.le_of_lt behind)]
    | endless _ beyond => exact absurd beyond far

theorem rangeFault?_of_regular (regular : ¬ Irregular start length) (outside : size < start + length) :
    0 < length ∧ rangeFault? start length = some ⟨max start size, size⟩ := by
  have positive : 0 < length := Nat.pos_of_ne_zero fun nothing =>
    regular (.empty nothing (by omega))
  refine ⟨positive, ?_⟩
  rcases Nat.lt_or_ge (start + length) addressLimit with near | far
  · exact rangeFault?_of_lt near outside
  · have behind : size ≤ start := Nat.le_of_not_lt fun inside => regular (.endless inside far)
    rw [rangeFault?, if_pos far, Nat.max_eq_left behind]

theorem guarded_of_irregular {α : Type} (irregular : Irregular start length) (value : α) :
    guarded start length value = .error ⟨start, size⟩ := by
  rw [guarded, rangeFault?_of_irregular irregular]

theorem guarded_followsRule_iff {α : Type} (value : α) :
    FollowsRule start length (guarded start length value) ↔ ¬ Irregular start length := by
  constructor
  · intro follows irregular
    have failed := guarded_of_irregular irregular value
    obtain ⟨positive, _⟩ := exists_missing_iff.1 (follows.fails.1 ⟨_, failed⟩)
-- An empty range misses nothing, and an endless one reports an address that is not missing.
    cases irregular with
    | empty nothing _ => omega
    | endless inside _ => exact absurd (follows.reports _ failed).2.1.2.2 (Nat.not_le_of_lt inside)
  · intro regular
    by_cases outside : size < start + length
    · obtain ⟨positive, fault⟩ := rangeFault?_of_regular regular outside
      have failed : guarded start length value = .error ⟨max start size, size⟩ := by
        rw [guarded, fault]
      refine ⟨iff_of_true ⟨_, failed⟩ (exists_missing_iff.2 ⟨positive, outside⟩), ?_⟩
      intro fault same
      cases failed.symm.trans same
      exact ⟨rfl, missing_max positive outside⟩
    · have passed : guarded start length value = .ok value :=
        guarded_eq_ok_iff.2 ⟨Nat.le_of_not_lt outside, rfl⟩
      refine ⟨iff_of_false ?_ fun missing => outside (exists_missing_iff.1 missing).2, ?_⟩
      · rintro ⟨fault, failed⟩
        cases passed.symm.trans failed
      · intro fault failed
        cases passed.symm.trans failed

end Ranges

end Memory

namespace Machine

variable {G : Type} [Generator G]

theorem step_of_flat_draw {machine : Machine G} {x y : Register} (running : machine.isHalted = false)
    (fetched : machine.fetched? = some (Instruction.layoutDigits 0xD x y 0)) (keys : Keypad)
    {cause : MemoryFault} :
    (machine.step keys).1 = .ok (.rejected cause) ↔
      Memory.size < machine.index ∧ cause = ⟨machine.index, Memory.size⟩ := by
  have decoded : Instruction.decode (Instruction.layoutDigits 0xD x y 0) = .draw x y 0 :=
    (Instruction.decode_eq_iff rfl).2 rfl
  have blocked : machine.obstacle? (.draw x y 0) = some (.memory cause) ↔
      Memory.size < machine.index ∧
        Fault.memory cause = .memory ⟨max machine.index Memory.size, Memory.size⟩ :=
    rangeObstacle?_eq_some_iff (Nat.zero_le Memory.size)
  rw [step_rejected_iff running fetched keys, decoded, blocked]
  refine and_congr_right fun behind => ?_
  rw [Nat.max_eq_left (Nat.le_of_lt behind), Fault.memory.injEq]

end Machine

namespace Memory

/-- Reading and writing follow the rule for all ranges but the irregular ones, and those are rejected with
their start for a report. So drawing no rows at all is passed over as soon as the index is behind the
memory. -/
theorem slices_follow_rule_iff_regular (memory : Memory) (start : Nat) :
    (∀ length,
      (FollowsRule start length (memory.readSlice start length) ↔ ¬ Irregular start length) ∧
        (Irregular start length → memory.readSlice start length = .error ⟨start, 4096⟩)) ∧
    (∀ data : List UInt8,
      (FollowsRule start data.length (memory.writeSlice start data) ↔ ¬ Irregular start data.length) ∧
        (Irregular start data.length → memory.writeSlice start data = .error ⟨start, 4096⟩)) ∧
    ∀ (G : Type) [Generator G] (machine : Machine G) (keys : Keypad) (x y : Register),
      machine.index = start → machine.isHalted = false →
        machine.fetched? = some (Instruction.layoutDigits 0xD x y 0) →
          ∀ cause, (machine.step keys).1 = .ok (.rejected cause) ↔
            4096 < start ∧ cause = ⟨start, 4096⟩ := by
  refine ⟨fun length => ?_, fun data => ?_, ?_⟩
  · rw [readSlice_eq_guarded]
    exact ⟨guarded_followsRule_iff _, fun irregular => guarded_of_irregular irregular _⟩
  · rw [writeSlice_eq_guarded]
    exact ⟨guarded_followsRule_iff _, fun irregular => guarded_of_irregular irregular _⟩
  · rintro G _ machine keys x y rfl running fetched cause
    exact Machine.step_of_flat_draw running fetched keys

theorem irregular_slices_fail :
    let machine : Machine Stride :=
      { Machine.fresh (initial.store programStart [0xD1, 0x20]) Screen.blank ⟨0, 0⟩ with index := 5000 }
    (initial.readSlice 5000 0 = .error ⟨5000, 4096⟩ ∧ ¬ ∃ address, Missing 5000 0 address) ∧
      (initial.readSlice 1 0xFFFFFFFFFFFFFFFF = .error ⟨1, 4096⟩ ∧
        ¬ FollowsRule 1 0xFFFFFFFFFFFFFFFF (initial.readSlice 1 0xFFFFFFFFFFFFFFFF)) ∧
      machine.isHalted = false ∧ machine.fetched? = some 0xD120 ∧
      (machine.step Keypad.released).1 = .ok (.rejected ⟨5000, 4096⟩) := by
  intro machine
  have distant : Irregular 5000 0 := .empty rfl (by decide)
  have endless : Irregular 1 0xFFFFFFFFFFFFFFFF := .endless (by decide) (by decide)
  have stored : machine.memory = initial.store programStart [0xD1, 0x20] := rfl
  have fetched : machine.fetched? = some (Word.ofBytes 0xD1 0x20) :=
    Machine.fetched?_store stored (by decide) (Nat.add_zero programStart).symm rfl rfl
  obtain ⟨none_read, _, draws⟩ := slices_follow_rule_iff_regular initial 5000
  obtain ⟨all_read, _, _⟩ := slices_follow_rule_iff_regular initial 1
  have drawn := draws Stride machine Keypad.released 1 2 rfl rfl fetched ⟨5000, 4096⟩
  refine ⟨⟨(none_read 0).2 distant, ?_⟩, ⟨(all_read _).2 endless, ?_⟩, rfl, fetched, ?_⟩
  · rintro ⟨address, from_start, to_end, _⟩
    omega
  · exact fun follows => (all_read _).1.1 follows endless
  · exact drawn.2 ⟨by decide, rfl⟩

end Memory

end SpriteMachine
