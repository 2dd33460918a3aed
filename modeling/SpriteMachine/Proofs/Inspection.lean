import SpriteMachine.Machine.Dump
import SpriteMachine.Proofs.Bounds
import SpriteMachine.Proofs.Folding

/-! What can be read off the dump of a machine. The sections around the memory have as many lines on
every machine that was run, so they are cut off from both ends, and the lines of the memory are left.
Free places of the stack are shown as zero, and no return address is. -/

namespace SpriteMachine.Machine

open Text
open Dump

variable {G H : Type}

theorem takeWhile_stackPlaces {machine : Machine G} (bounded : machine.Bounded) :
    machine.stackPlaces.takeWhile (· != 0) = machine.stack.reverse := by
-- Nothing returns to zero, so the free places begin with the first zero.
  have used : ∀ back ∈ machine.stack.reverse, (back != 0) = true := by
    intro back member
    have low := (bounded.returns back (List.mem_reverse.1 member)).1
    simpa using Nat.ne_of_gt (Nat.lt_of_lt_of_le Nat.two_pos low)
  rw [stackPlaces, List.takeWhile_append_of_pos used, List.takeWhile_replicate]
  exact List.append_nil _

theorem length_stackPlaces {machine : Machine G} (bounded : machine.Bounded) :
    machine.stackPlaces.length = stackLimit := by
  rw [stackPlaces, List.length_append, List.length_reverse, List.length_replicate,
    Nat.add_sub_cancel' bounded.depth]

theorem stack_eq_of_stackPlaces {first : Machine G} {second : Machine H} (bounded : first.Bounded)
    (bounded' : second.Bounded) (same : first.stackPlaces = second.stackPlaces) :
    first.stack = second.stack := by
  rw [← List.reverse_inj, ← takeWhile_stackPlaces bounded, same, takeWhile_stackPlaces bounded']

/-- A zero on the stack would be taken for a free place. -/
example (machine : Machine G) :
    stackPlaces { machine with stack := [0] } = stackPlaces { machine with stack := [] } := rfl

theorem isLine_of_mem_dumpLines {machine : Machine G} {line : String}
    (member : line ∈ machine.dumpLines) : IsLine line := by
  have shown (value : Nat) : ∀ line ∈ number value, IsLine line := by
    intro line member
    rw [List.mem_singleton.1 member]
    exact isLine_indent depth (isWord_hex value).isLine
  simp only [dumpLines, List.mem_append, List.mem_singleton, or_assoc] at member
  rcases member with rfl | word | counter | index | delay | sound | memory | keys | stack | registers | rfl
  · decide
  · exact isLine_of_mem_titled (by decide) (shown _) word
  · exact isLine_of_mem_titled (by decide) (shown _) counter
  · exact isLine_of_mem_titled (by decide) (shown _) index
  · exact isLine_of_mem_titled (by decide) (shown _) delay
  · exact isLine_of_mem_titled (by decide) (shown _) sound
  · exact isLine_of_mem_titled (by decide) (fun _ => isLine_of_mem_bytes) memory
  · exact isLine_of_mem_titled (by decide) (fun _ => isLine_of_mem_flags) keys
  · exact isLine_of_mem_titled (by decide) (fun _ => isLine_of_mem_numbers) stack
  · exact isLine_of_mem_titled (by decide) (fun _ => isLine_of_mem_numbers) registers
  · decide

/-- The parts of the state that a dump shows. -/
structure SameReadings (first : Machine G) (second : Machine H) : Prop where
  word : first.word = second.word
  counter : first.counter = second.counter
  index : first.index = second.index
  delay : first.delay = second.delay
  sound : first.sound = second.sound
  memory : first.memory = second.memory
  keys : first.keys = second.keys
  stack : first.stack = second.stack
  registers : first.registers = second.registers

theorem SameReadings.dump {first : Machine G} {second : Machine H} (same : SameReadings first second) :
    first.dump = second.dump := by
  simp only [Machine.dump, dumpLines, stackPlaces, same.word, same.counter, same.index, same.delay,
    same.sound, same.memory, same.keys, same.stack, same.registers]

theorem SameReadings.of_dumpLines {first : Machine G} {second : Machine H} (bounded : first.Bounded)
    (bounded' : second.Bounded) (same : first.dumpLines = second.dumpLines) :
    SameReadings first second := by
  have places := (length_stackPlaces bounded).trans (length_stackPlaces bounded').symm
  unfold dumpLines at same
-- Only the section of the memory has no fixed length. What is behind it is cut off from the end.
  obtain ⟨same, -⟩ := List.append_inj' same rfl
  obtain ⟨same, registers⟩ := List.append_inj' same (by simp)
  obtain ⟨same, stack⟩ := List.append_inj' same (by simp [places])
  obtain ⟨same, keys⟩ := List.append_inj' same (by simp)
  obtain ⟨same, memory⟩ := List.append_inj same (by simp)
  obtain ⟨same, sound⟩ := List.append_inj same (by simp)
  obtain ⟨same, delay⟩ := List.append_inj same (by simp)
  obtain ⟨same, index⟩ := List.append_inj same (by simp)
  obtain ⟨same, counter⟩ := List.append_inj same (by simp)
  obtain ⟨-, word⟩ := List.append_inj same (by simp)
  exact {
    word := UInt16.toNat_inj.1 (number_injective (titled_inj word))
    counter := number_injective (titled_inj counter)
    index := number_injective (titled_inj index)
    delay := Timer.ext_toNat (number_injective (titled_inj delay))
    sound := Timer.ext_toNat (number_injective (titled_inj sound))
    memory := by
      have bytes := Vector.toList_inj.1 (bytes_injective _ (titled_inj memory))
      exact congrArg Memory.mk bytes
    keys := by
      have flags := Vector.toList_inj.1 (flags_inj (by simp) (titled_inj keys))
      exact congrArg Keypad.mk flags
    stack := stack_eq_of_stackPlaces bounded bounded' (numbers_inj places (titled_inj stack))
    registers := by
      have values := numbers_inj (by simp) (titled_inj registers)
      exact Vector.toList_inj.1 ((List.map_inj_right fun _ _ => UInt8.toNat_inj.1).1 values) }

theorem SameReadings.of_dump {first : Machine G} {second : Machine H} (bounded : first.Bounded)
    (bounded' : second.Bounded) (same : first.dump = second.dump) : SameReadings first second :=
  of_dumpLines bounded bounded' <| joinLines_inj (by simp [dumpLines]) (by simp [dumpLines])
    (fun _ => isLine_of_mem_dumpLines) (fun _ => isLine_of_mem_dumpLines) same

/-- A dump is faithful. Two machines that were run, on whatever memories and with whatever keys and random
numbers, are shown by the same text exactly if they have the same readings. -/
theorem dump_eq_dump_iff_sameReadings [Generator G] [Generator H] (memory memory' : Memory)
    (screen screen' : Screen) (random : G) (random' : H) (actions actions' : List Action) :
    ((fresh memory screen random).run actions).dump =
        ((fresh memory' screen' random').run actions').dump ↔
      SameReadings ((fresh memory screen random).run actions)
        ((fresh memory' screen' random').run actions') :=
  ⟨.of_dump ((bounded_fresh memory screen random).run actions)
    ((bounded_fresh memory' screen' random').run actions'), SameReadings.dump⟩

end SpriteMachine.Machine
