import SpriteMachine.Program
import SpriteMachine.Proofs.Decoding
import SpriteMachine.Proofs.Steps

/-! Programs as lists of instructions. `Pattern.table` is the reference table of all layouts with a meaning,
written down apart from the decoder, and the decoder knows exactly the words that it covers. So a program
can be laid out, loaded and read back without any instruction being taken for another one. -/

namespace SpriteMachine

open Word

/-- A layout of four digits. Those that are left open belong to operands. -/
structure Pattern where
  group : Nat
  x : Option Nat := none
  y : Option Nat := none
  n : Option Nat := none
  deriving DecidableEq

namespace Pattern

def Covers (pattern : Pattern) (word : UInt16) : Prop :=
  Word.group word = pattern.group ∧ (∀ digit ∈ pattern.x, (Word.x word).val = digit) ∧
    (∀ digit ∈ pattern.y, (Word.y word).val = digit) ∧ ∀ digit ∈ pattern.n, (Word.n word).val = digit

instance (pattern : Pattern) (word : UInt16) : Decidable (pattern.Covers word) :=
  inferInstanceAs (Decidable (_ ∧ _ ∧ _ ∧ _))

def table : List Pattern :=
  [{ group := 0x0, x := some 0x0, y := some 0xE, n := some 0x0 },
    { group := 0x0, x := some 0x0, y := some 0xE, n := some 0xE },
    { group := 0x1 }, { group := 0x2 }, { group := 0x3 }, { group := 0x4 },
    { group := 0x5, n := some 0x0 }, { group := 0x6 }, { group := 0x7 },
    { group := 0x8, n := some 0x0 }, { group := 0x8, n := some 0x1 }, { group := 0x8, n := some 0x2 },
    { group := 0x8, n := some 0x3 }, { group := 0x8, n := some 0x4 }, { group := 0x8, n := some 0x5 },
    { group := 0x8, n := some 0x6 }, { group := 0x8, n := some 0x7 }, { group := 0x8, n := some 0xE },
    { group := 0x9, n := some 0x0 }, { group := 0xA }, { group := 0xB }, { group := 0xC },
    { group := 0xD },
    { group := 0xE, y := some 0x9, n := some 0xE }, { group := 0xE, y := some 0xA, n := some 0x1 },
    { group := 0xF, y := some 0x0, n := some 0x7 }, { group := 0xF, y := some 0x0, n := some 0xA },
    { group := 0xF, y := some 0x1, n := some 0x5 }, { group := 0xF, y := some 0x1, n := some 0x8 },
    { group := 0xF, y := some 0x1, n := some 0xE }, { group := 0xF, y := some 0x2, n := some 0x9 },
    { group := 0xF, y := some 0x3, n := some 0x3 }, { group := 0xF, y := some 0x5, n := some 0x5 },
    { group := 0xF, y := some 0x6, n := some 0x5 }]

end Pattern

namespace Word

theorem toNat_digits (word : UInt16) :
    word.toNat = group word * 4096 + (x word).val * 256 + (y word).val * 16 + (n word).val := by
  simp only [group, x, y, n]
  omega

theorem toNat_nn_digits (word : UInt16) : (nn word).toNat = (y word).val * 16 + (n word).val := by
  simp only [toNat_nn, y, n]
  omega

end Word

namespace Instruction

def Documented (word : UInt16) : Prop :=
  ∃ pattern ∈ Pattern.table, pattern.Covers word

instance (word : UInt16) : Decidable (Documented word) :=
  inferInstanceAs (Decidable (∃ pattern ∈ Pattern.table, pattern.Covers word))

theorem isKnown_decode_of_covers (word : UInt16) :
    ∀ pattern ∈ Pattern.table, pattern.Covers word → (decode word).isKnown = true := by
  have whole := toNat_digits word
  have low := toNat_nn_digits word
  have last : (n word).val = 0 → n word = 0 := fun zero => Fin.ext zero
  simp only [Pattern.table, List.forall_mem_cons, Pattern.Covers, Option.mem_some_iff, forall_eq']
  and_intros
  all_goals first
    | exact fun _ absent => absurd absent List.not_mem_nil
    | rintro ⟨group, x, y, n⟩
      simp [decode, isKnown, *, SystemOp.ofWord?, ArithOp.ofSelector?, KeyTest.ofSelector?,
        MiscOp.ofSelector?]

theorem covers_open {group : Nat} {word : UInt16} (same : Word.group word = group) :
    Pattern.Covers { group := group } word :=
  ⟨same, nofun, nofun, nofun⟩

theorem covers_layoutDigits {group : Nat} (digit : group < 16) (x y : Register) {n : Nat}
    (small : n < 16) : Pattern.Covers { group := group, n := some n } (layoutDigits group x y n) := by
  refine ⟨group_layoutDigits digit x y small, nofun, nofun, ?_⟩
  rintro _ ⟨⟩
  rw [n_layoutDigits digit x y small]

theorem covers_layoutByte {group : Nat} (digit : group < 16) (x : Register) {byte : Nat}
    (small : byte < 256) :
    Pattern.Covers { group := group, y := some (byte / 16), n := some (byte % 16) }
      (layoutByte group x byte) := by
  have whole := toNat_layoutByte digit x small
  refine ⟨group_layoutByte digit x small, nofun, ?_, ?_⟩
  · rintro _ ⟨⟩
    simp only [Word.y, whole]
    omega
  · rintro _ ⟨⟩
    simp only [Word.n, whole]
    omega

theorem documented_encode {instruction : Instruction} (known : instruction.isKnown = true) :
    Documented (encode instruction) := by
  cases instruction with
  | system op => cases op <;> decide
  | jump target | call target | setIndex target | jumpFrom target =>
    exact ⟨_, by decide, covers_open (group_layoutAddress (by decide) target)⟩
  | skipIfEqual x value | skipUnlessEqual x value | set x value | increase x value | random x value =>
    exact ⟨_, by decide, covers_open (group_layoutByte (by decide) x value.toNat_lt)⟩
  | skipIfSame x y | skipUnlessSame x y =>
    exact ⟨_, by decide, covers_layoutDigits (by decide) x y (by decide)⟩
  | draw x y height =>
    exact ⟨_, by decide, covers_open (group_layoutDigits (by decide) x y height.isLt)⟩
  | arith op x y =>
    have small : op.selector < 16 := by cases op <;> decide
    exact ⟨_, by cases op <;> decide, covers_layoutDigits (by decide) x y small⟩
  | key test x =>
    have small : test.selector < 256 := by cases test <;> decide
    exact ⟨_, by cases test <;> decide, covers_layoutByte (by decide) x small⟩
  | misc op x =>
    have small : op.selector < 256 := by cases op <;> decide
    exact ⟨_, by cases op <;> decide, covers_layoutByte (by decide) x small⟩
  | unknown word => cases known

theorem isKnown_decode_iff {word : UInt16} : (decode word).isKnown = true ↔ Documented word := by
  refine ⟨fun known => ?_, fun ⟨pattern, listed, covers⟩ => ?_⟩
  · have documented := documented_encode known
    rwa [encode_decode] at documented
  · exact isKnown_decode_of_covers word pattern listed covers

example : Documented 0x8AB4 ∧ ¬ Documented 0x8AB8 ∧ ¬ Documented 0x00E1 := by decide

/-- The operands of an instruction are in range by their types. What is left to ask for is that no word
with a meaning counts as unknown. -/
def WellFormed : Instruction → Prop
  | unknown word => ¬ Documented word
  | _ => True

theorem wellFormed_decode (word : UInt16) : (decode word).WellFormed := by
  cases decoded : decode word with
  | unknown other =>
    have same := encode_decode word
    rw [decoded, encode] at same
    intro documented
    have known := isKnown_decode_iff.2 documented
    rw [same, decoded] at known
    cases known
  | _ => trivial

theorem decode_encode_of_wellFormed {instruction : Instruction} (formed : instruction.WellFormed) :
    decode (encode instruction) = instruction := by
  cases instruction with
  | unknown word =>
    cases decoded : decode word with
    | unknown other =>
      have same := encode_decode word
      rw [decoded, encode] at same
      rw [encode, decoded, same]
    | _ =>
      refine absurd (isKnown_decode_iff.1 ?_) formed
      rw [decoded]
      rfl
  | _ => exact decode_encode rfl

def assemble : List Instruction → List UInt8
  | [] => []
  | instruction :: later =>
    highByte (encode instruction) :: lowByte (encode instruction) :: assemble later

@[simp] theorem length_assemble (program : List Instruction) :
    (assemble program).length = 2 * program.length := by
  induction program with
  | nil => rfl
  | cons instruction later ih =>
    rw [assemble, List.length_cons, List.length_cons, ih, List.length_cons]
    omega

theorem getElem?_assemble {program : List Instruction} {k : Nat} {instruction : Instruction}
    (placed : program[k]? = some instruction) :
    (assemble program)[2 * k]? = some (highByte (encode instruction)) ∧
      (assemble program)[2 * k + 1]? = some (lowByte (encode instruction)) := by
  induction program generalizing k with
  | nil => cases placed
  | cons first later ih =>
    cases k with
    | zero =>
      cases placed
      exact ⟨rfl, rfl⟩
    | succ k => exact ih placed

theorem fetch_assemble {program : List Instruction} (memory : Memory) {start : Nat}
    (fits : start + 2 * program.length ≤ Memory.size) {k : Nat} {instruction : Instruction}
    (placed : program[k]? = some instruction) :
    (memory.store start (assemble program)).fetch (start + 2 * k) = .ok (encode instruction) := by
  obtain ⟨high, low⟩ := getElem?_assemble placed
  rw [Memory.fetch_store memory (by rw [length_assemble]; exact fits) high low,
    ofBytes_highByte_lowByte]

end Instruction

namespace Memory

theorem readByte_of_fetch {memory : Memory} {pointer : Nat} {word : UInt16}
    (fetched : memory.fetch pointer = .ok word) :
    memory.readByte pointer = .ok (highByte word) ∧
      memory.readByte (pointer + 1) = .ok (lowByte word) := by
  obtain ⟨inside, rfl⟩ := fetch_eq_ok_iff.1 fetched
  rw [highByte_ofBytes, lowByte_ofBytes]
  exact ⟨readByte_eq_ok_iff.2 ⟨by omega, rfl⟩, readByte_eq_ok_iff.2 ⟨inside, rfl⟩⟩

end Memory

namespace Instruction

/-- A program of well-formed instructions that fits into memory is loaded, and every instruction is read
back from its place. And whatever a memory holds, two bytes that can be fetched are decoded to a
well-formed instruction, which lays out the same two bytes again. -/
theorem assembled_program_reads_back :
    (∀ (name : String) (program : List Instruction), program.length ≤ 1792 →
      (∀ instruction ∈ program, instruction.WellFormed) →
      ∃ loaded memory, Program.ofBytes name (assemble program) = .ok loaded ∧
        Memory.initial.loadProgram loaded.data = .ok memory ∧ loaded.memory = memory ∧
        ∀ k instruction, program[k]? = some instruction →
          (memory.fetch (0x200 + 2 * k)).map decode = .ok instruction) ∧
    ∀ (memory : Memory) (pointer : Nat) (word : UInt16), memory.fetch pointer = .ok word →
      (decode word).WellFormed ∧
        memory.readByte pointer = .ok (highByte (encode (decode word))) ∧
        memory.readByte (pointer + 1) = .ok (lowByte (encode (decode word))) := by
  refine ⟨fun name program short formed => ?_, fun memory pointer word fetched => ?_⟩
  · have fits : (assemble program).length ≤ Memory.programLimit := by
      rw [length_assemble]
      simp only [Memory.programLimit, Memory.size, Memory.programStart]
      omega
    let loaded : Program := ⟨name, assemble program, fits⟩
    refine ⟨loaded, loaded.memory, dif_pos fits, loaded.loadProgram_data, rfl, ?_⟩
    intro k instruction placed
    have inside : 0x200 + 2 * program.length ≤ Memory.size := by
      simp only [Memory.size]
      omega
    have member := List.mem_of_getElem? placed
    rw [Program.memory, Memory.programStart, fetch_assemble _ inside placed, Except.map,
      decode_encode_of_wellFormed (formed instruction member)]
  · rw [encode_decode]
    exact ⟨wellFormed_decode word, Memory.readByte_of_fetch fetched⟩

theorem jump_over_data_reads_back :
    let program := [.jump 0x206, .unknown 0x8AB8, .unknown 0x00E1, .draw 1 2 15, .misc .storeDecimal 3]
    (∀ instruction ∈ program, instruction.WellFormed) ∧
      (∃ loaded, Program.ofBytes "data" (assemble program) = .ok loaded ∧
        (loaded.memory.fetch 0x202).map decode = .ok (.unknown 0x8AB8) ∧
        (loaded.memory.fetch 0x206).map decode = .ok (.draw 1 2 15)) ∧
      Memory.initial.fetch 0x50 = .ok 0xF090 ∧
      Memory.initial.readByte 0x51 = .ok (lowByte (encode (decode 0xF090))) := by
  intro program
  obtain ⟨loads, reads⟩ := assembled_program_reads_back
  have formed : ∀ instruction ∈ program, instruction.WellFormed := by
    simp only [program, List.forall_mem_cons]
    exact ⟨trivial, by unfold WellFormed; decide, by unfold WellFormed; decide, trivial, trivial, nofun⟩
  obtain ⟨loaded, _, made, _, rfl, placed⟩ := loads "data" program (by decide) formed
  have fetched : Memory.initial.fetch 0x50 = .ok 0xF090 := by
    rw [Memory.fetch_of_lt _ (by decide), Memory.byte_initial, Memory.byte_initial]
    rfl
  exact ⟨formed, ⟨loaded, made, placed 1 _ rfl, placed 3 _ rfl⟩, fetched, (reads _ _ _ fetched).2.2⟩

end Instruction

end SpriteMachine
