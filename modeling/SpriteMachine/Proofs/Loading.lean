import SpriteMachine.Program
import SpriteMachine.Proofs.Recall

/-! Programs on their way into memory. A program is checked when it is made, against a limit, and again when
it is written, against the end of the memory, and both checks let the same lengths pass. In memory it lies
behind the font with zeros around both, so the last byte of a program of odd length is followed by one. -/

namespace SpriteMachine

/-- A memory that was started with the data: every address is accounted for. -/
structure Memory.LaidOut (memory : Memory) (data : List UInt8) : Prop where
  program : ∀ k value, data[k]? = some value → memory.readByte (0x200 + k) = .ok value
  font : ∀ k value, Font.bytes[k]? = some value → memory.readByte (0x50 + k) = .ok value
  blank : ∀ address < 4096, ¬ (0x50 ≤ address ∧ address ≤ 0x9F) →
    ¬ (0x200 ≤ address ∧ address < 0x200 + data.length) → memory.readByte address = .ok 0

namespace Memory

theorem exists_loadProgram_iff {memory : Memory} {data : List UInt8} :
    (∃ next, memory.loadProgram data = .ok next) ↔ data.length ≤ programLimit := by
  have accepted : (∃ next, memory.attempt (.program data) = .ok next) ↔
      programStart + data.length ≤ size := attempt_ok_iff
  exact accepted.trans programStart_add_le_iff

theorem loadProgram_of_lt {memory : Memory} {data : List UInt8} (large : programLimit < data.length) :
    (∃ fault, memory.loadProgram data = .error fault) ∧ memory.written (.program data) = memory := by
  rcases loaded : memory.loadProgram data with fault | next
  · exact ⟨⟨fault, rfl⟩, written_of_error loaded⟩
  · exact absurd (exists_loadProgram_iff.1 ⟨next, loaded⟩) (Nat.not_le_of_lt large)

end Memory

namespace Program

theorem exists_ofBytes {data : List UInt8} (fits : data.length ≤ Memory.programLimit) (name : String) :
    ∃ program, ofBytes name data = .ok program ∧ program.name = name ∧ program.data = data :=
  ⟨⟨name, data, fits⟩, dif_pos fits, rfl, rfl⟩

variable (program : Program)

theorem byte_memory (address : Nat) :
    program.memory.byte address =
      (if Memory.programStart ≤ address then program.data[address - Memory.programStart]? else none).getD
        (Memory.initial.byte address) :=
  Memory.initial.byte_store_eq_getD program.end_le address

theorem byte_memory_of_getElem? {k : Nat} {value : UInt8} (placed : program.data[k]? = some value) :
    program.memory.byte (Memory.programStart + k) = value := by
  rw [byte_memory, if_pos (Nat.le_add_right _ _), Nat.add_sub_cancel_left, placed, Option.getD_some]

theorem byte_memory_of_outside {address : Nat}
    (outside : ¬ (Memory.programStart ≤ address ∧
      address < Memory.programStart + program.data.length)) :
    program.memory.byte address = Memory.initial.byte address := by
  rw [byte_memory]
  by_cases before : Memory.programStart ≤ address
  · rw [if_pos before, List.getElem?_eq_none (by omega), Option.getD_none]
  · rw [if_neg before, Option.getD_none]

theorem laidOut_memory : program.memory.LaidOut program.data where
  program k value placed := by
    have short : k < program.data.length := (List.getElem?_eq_some_iff.1 placed).1
    have inside : Memory.programStart + k < Memory.size :=
      Nat.lt_of_lt_of_le (Nat.add_lt_add_left short _) program.end_le
    exact Memory.readByte_eq_ok_iff.2 ⟨inside, program.byte_memory_of_getElem? placed⟩
  font k value drawn := by
    have short : k < 80 := (Vector.getElem?_eq_some_iff.1 drawn).1
    have outside : ¬ (Memory.programStart ≤ 0x50 + k ∧
        0x50 + k < Memory.programStart + program.data.length) := by
      simp only [Memory.programStart]
      omega
    refine Memory.readByte_eq_ok_iff.2 ⟨by simp only [Memory.size]; omega, ?_⟩
    rw [program.byte_memory_of_outside outside, Memory.byte_initial_eq, if_pos (by omega),
      Nat.add_sub_cancel_left, drawn, Option.getD_some]
  blank address inside no_glyph no_data := by
    refine Memory.readByte_eq_ok_iff.2 ⟨inside, ?_⟩
    rw [program.byte_memory_of_outside no_data, Memory.byte_initial_eq, if_neg no_glyph]

theorem fetch_last (filled : program.data ≠ [])
    (room : program.data.length < Memory.programLimit) :
    ∃ last word, program.data.getLast? = some last ∧
      program.memory.fetch (0x200 + program.data.length - 1) = .ok word ∧
      word.toNat = 256 * last.toNat := by
  have laidOut := program.laidOut_memory
  have positive := List.length_pos_iff.2 filled
  have place : 0x200 + (program.data.length - 1) = 0x200 + program.data.length - 1 := by omega
  have next : 0x200 + program.data.length - 1 + 1 = 0x200 + program.data.length := by omega
  obtain ⟨last, ended⟩ : ∃ last, program.data.getLast? = some last :=
    ⟨_, List.getLast?_eq_some_getLast filled⟩
  have high : program.memory.readByte (0x200 + program.data.length - 1) = .ok last := by
    rw [← place]
    exact laidOut.program _ last (List.getLast?_eq_getElem?.symm.trans ended)
  have low : program.memory.readByte (0x200 + program.data.length - 1 + 1) = .ok 0 := by
    simp only [Memory.programLimit, Memory.size, Memory.programStart] at room
    rw [next]
    exact laidOut.blank _ (by omega) (by omega) (by omega)
  obtain ⟨word, fetched⟩ := Memory.exists_fetch_iff.2 ⟨⟨_, high⟩, _, low⟩
  exact ⟨last, word, ended, fetched, Memory.toNat_of_fetch fetched high low⟩

/-- Programs of up to 3584 bytes are accepted, and so are they by every memory. Longer ones are refused with
their length, and change no memory. A program that was accepted is always loaded, all of it, and the rest
of the memory is the font and zeros. -/
theorem loads_completely :
    (∀ name data,
      (data.length ≤ 3584 →
        ∃ program, ofBytes name data = .ok program ∧ program.name = name ∧ program.data = data) ∧
      (3584 < data.length → ofBytes name data = .error (.tooLarge data.length 3584))) ∧
    (∀ (memory : Memory) data,
      (data.length ≤ 3584 → ∃ next, memory.loadProgram data = .ok next) ∧
      (3584 < data.length → (∃ fault, memory.loadProgram data = .error fault) ∧
        memory.written (.program data) = memory)) ∧
    ∀ program : Program, ∃ memory, Memory.initial.loadProgram program.data = .ok memory ∧
      program.memory = memory ∧ memory.LaidOut program.data ∧
      (program.data.length % 2 = 1 → ∃ last word, program.data.getLast? = some last ∧
        memory.fetch (0x200 + program.data.length - 1) = .ok word ∧ word.toNat = 256 * last.toNat) := by
  refine ⟨fun name data => ⟨fun fits => exists_ofBytes fits name, ofBytes_of_lt⟩,
    fun memory data => ⟨Memory.exists_loadProgram_iff.2, Memory.loadProgram_of_lt⟩, fun program => ?_⟩
  refine ⟨program.memory, program.loadProgram_data, rfl, program.laidOut_memory, fun odd => ?_⟩
  have fits : program.data.length ≤ 3584 := program.fits
  have room : program.data.length < 3584 := by omega
  have filled : program.data ≠ [] := by
    rintro bare
    rw [bare] at odd
    cases odd
  exact program.fetch_last filled room

theorem odd_program_loads_completely :
    (∃ program memory, ofBytes "odd" [0x60, 0x01, 0x12] = .ok program ∧
      Memory.initial.loadProgram program.data = .ok memory ∧ memory.readByte 0x201 = .ok 0x01 ∧
      memory.readByte 0x50 = .ok 0xF0 ∧ memory.readByte 0x203 = .ok 0 ∧
      ∃ word, memory.fetch 0x202 = .ok word ∧ word.toNat = 0x1200) ∧
    ofBytes "large" (List.replicate 3585 0) = .error (.tooLarge 3585 3584) ∧
    Memory.initial.written (.program (List.replicate 3585 0)) = Memory.initial := by
  obtain ⟨made, loads, places⟩ := loads_completely
  obtain ⟨program, accepted, _, same⟩ := (made "odd" [0x60, 0x01, 0x12]).1 (by decide)
  obtain ⟨memory, loaded, _, laidOut, last⟩ := places program
  rw [same] at laidOut last
  obtain ⟨_, word, ended, fetched, whole⟩ := last rfl
  cases ended
  have large : 3584 < (List.replicate 3585 (0 : UInt8)).length := by
    rw [List.length_replicate]
    decide
  have refused := (made "large" _).2 large
  rw [List.length_replicate] at refused
  refine ⟨⟨program, memory, accepted, loaded, laidOut.program 1 _ rfl, laidOut.font 0 _ rfl, ?_, word,
    fetched, whole⟩, refused, ((loads Memory.initial _).2 large).2⟩
  exact laidOut.blank 0x203 (by decide) (by decide) (by decide)

end Program

end SpriteMachine
