import SpriteMachine.Proofs.Ranges
import SpriteMachine.Proofs.Safety

/-! The memory as a map from addresses to bytes. A history of writes, each of which is accepted as a whole
or rejected as a whole, leaves at every address the byte of the latest accepted write that covers it. The
three ways to read a memory agree with each other, each with bounds of its own. -/

namespace SpriteMachine

inductive Write where
  | byte (address : Nat) (value : UInt8)
  | slice (address : Nat) (data : List UInt8)
  | program (data : List UInt8)
  deriving DecidableEq, Repr

namespace Write

def start : Write → Nat
  | byte address _ => address
  | slice address _ => address
  | program _ => Memory.programStart

def data : Write → List UInt8
  | byte _ value => [value]
  | slice _ data => data
  | program data => data

def valueAt? (write : Write) (address : Nat) : Option UInt8 :=
  if write.start ≤ address then write.data[address - write.start]? else none

end Write

namespace Checked

def write : Write → Attempt Memory Unit
  | .byte address value => writeByte address value
  | .slice address data => writeSlice address data
  | .program data => writeSlice Memory.programStart data

end Checked

namespace Memory

def attempt (memory : Memory) : Write → Except MemoryFault Memory
  | .byte address value => memory.writeByte address value
  | .slice address data => memory.writeSlice address data
  | .program data => memory.loadProgram data

def written (memory : Memory) (write : Write) : Memory :=
  match memory.attempt write with
  | .ok next => next
  | .error _ => memory

def writtenAll (memory : Memory) (writes : List Write) : Memory :=
  writes.foldl written memory

def put? (memory : Memory) (write : Write) (address : Nat) : Option UInt8 :=
  match memory.attempt write with
  | .ok _ => write.valueAt? address
  | .error _ => none

/-- The byte of the latest accepted write that covers the address. -/
def latest? (memory : Memory) : List Write → Nat → Option UInt8
  | [], _ => none
  | write :: later, address =>
    ((memory.written write).latest? later address).or (memory.put? write address)

theorem exists_readByte_iff {memory : Memory} {address : Nat} :
    (∃ value, memory.readByte address = .ok value) ↔ address < size := by
  simp [readByte_eq_ok_iff]

theorem attempt_ok_iff {memory : Memory} {write : Write} :
    (∃ next, memory.attempt write = .ok next) ↔ write.start + write.data.length ≤ size := by
  cases write with
  | byte address value =>
    simp only [attempt, writeByte, Write.start, Write.data, List.length_singleton]
    split
    · exact iff_of_true ⟨_, rfl⟩ (by omega)
    · exact iff_of_false nofun (by omega)
  | slice address data => simp [attempt, writeSlice_eq_guarded, guarded_eq_ok_iff, Write.start, Write.data]
  | program data =>
    simp [attempt, loadProgram, writeSlice_eq_guarded, guarded_eq_ok_iff, Write.start, Write.data]

theorem byte_store_eq_getD (memory : Memory) {start : Nat} {data : List UInt8}
    (fits : start + data.length ≤ size) (address : Nat) :
    (memory.store start data).byte address =
      (if start ≤ address then data[address - start]? else none).getD (memory.byte address) := by
  rw [byte_store memory start data fits]
  by_cases before : start ≤ address
  · by_cases inside : address < start + data.length
    · have covered : address - start < data.length := by omega
      simp [before, inside, covered]
    · rw [if_neg (by omega), if_pos before, List.getElem?_eq_none (by omega), Option.getD_none]
  · rw [if_neg (by omega), if_neg before, Option.getD_none]

theorem byte_of_attempt {memory next : Memory} {write : Write}
    (accepted : memory.attempt write = .ok next) (address : Nat) :
    next.byte address = (write.valueAt? address).getD (memory.byte address) := by
  cases write with
  | byte place value =>
    simp only [attempt, writeByte] at accepted
    split at accepted
    · cases accepted
      rw [byte_set, Write.valueAt?, Write.start, Write.data]
      by_cases same : address = place
      · simp [same]
      · by_cases before : place ≤ address
        · rw [if_neg same, if_pos before, List.getElem?_eq_none (by simp; omega), Option.getD_none]
        · rw [if_neg same, if_neg before, Option.getD_none]
    · cases accepted
  | slice start data | program data =>
    obtain ⟨fits, rfl⟩ := guarded_eq_ok_iff.1 accepted
    exact memory.byte_store_eq_getD fits address

theorem byte_written (memory : Memory) (write : Write) (address : Nat) :
    (memory.written write).byte address = (memory.put? write address).getD (memory.byte address) := by
  rw [written, put?]
  split
  · next next accepted => exact byte_of_attempt accepted address
  · rfl

theorem byte_writtenAll (memory : Memory) (writes : List Write) (address : Nat) :
    (memory.writtenAll writes).byte address =
      (memory.latest? writes address).getD (memory.byte address) := by
  induction writes generalizing memory with
  | nil => rfl
  | cons write later ih =>
    have rest := ih (memory.written write)
    rw [byte_written] at rest
    rw [latest?, Option.getD_or]
    exact rest

/-- The memory behind a write is the one that its checks and copies leave, so a rejected write has not begun
to copy. -/
theorem written_eq_leaves (memory : Memory) (write : Write) :
    memory.written write = (Checked.write write).leaves memory := by
  cases write with
  | byte address value =>
    rw [written, attempt, writeByte, Attempt.leaves, Checked.write, Checked.writeByte]
    by_cases inside : address < size <;> simp [inside]
  | slice address data | program data =>
    simp only [written, attempt, loadProgram, writeSlice, Attempt.leaves, Checked.write,
      Checked.writeSlice_eq, Machine.rangeObstacle?]
    cases rangeFault? _ data.length <;> rfl

theorem written_of_error {memory : Memory} {write : Write} {fault : MemoryFault}
    (rejected : memory.attempt write = .error fault) : memory.written write = memory := by
  rw [written, rejected]

theorem map_readByte_of_readSlice {memory : Memory} {start length : Nat} {bytes : List UInt8}
    (read : memory.readSlice start length = .ok bytes) :
    bytes.map .ok = (List.range length).map fun offset => memory.readByte (start + offset) := by
  obtain ⟨fits, rfl⟩ := guarded_eq_ok_iff.1 read
  rw [slice, List.map_map]
  refine List.map_congr_left fun offset inside => ?_
  have short := List.mem_range.1 inside
  exact (readByte_eq_ok_iff.2 ⟨by omega, rfl⟩).symm

theorem exists_fetch_iff {memory : Memory} {pointer : Nat} :
    (∃ word, memory.fetch pointer = .ok word) ↔
      (∃ high, memory.readByte pointer = .ok high) ∧ ∃ low, memory.readByte (pointer + 1) = .ok low := by
  simp only [fetch_eq_ok_iff, exists_readByte_iff, exists_and_left, exists_eq, and_true]
  omega

theorem toNat_of_fetch {memory : Memory} {pointer : Nat} {word : UInt16} {high low : UInt8}
    (fetched : memory.fetch pointer = .ok word) (first : memory.readByte pointer = .ok high)
    (second : memory.readByte (pointer + 1) = .ok low) : word.toNat = 256 * high.toNat + low.toNat := by
  obtain ⟨_, rfl⟩ := fetch_eq_ok_iff.1 fetched
  obtain ⟨_, rfl⟩ := readByte_eq_ok_iff.1 first
  obtain ⟨_, rfl⟩ := readByte_eq_ok_iff.1 second
  rw [Word.toNat_ofBytes, Nat.mul_comm]

theorem byte_initial_eq (address : Nat) :
    initial.byte address =
      if 0x50 ≤ address ∧ address ≤ 0x9F then Font.bytes[address - 0x50]?.getD 0 else 0 := by
  rw [byte_initial]
  by_cases before : address < 0x50
  · rw [Font.byteAt_of_lt before, if_neg (by omega)]
  · by_cases after : 0xA0 ≤ address
    · rw [Font.byteAt_of_le after, if_neg (by omega)]
    · rw [if_pos (by omega), Font.byteAt, Font.base, if_pos (by omega)]

/-- After any history of writes an address holds the byte of the latest accepted write that covers it, or
what it held in the beginning. Writes are accepted exactly if all of their data lies in memory, and change
nothing if they are rejected. Slices and words are read as the bytes that they consist of are, and a word
can be read exactly if both of its bytes can. -/
theorem reads_recall_latest_writes :
    (∀ writes address, address < 4096 →
      (initial.writtenAll writes).readByte address = .ok ((initial.latest? writes address).getD
        (if 0x50 ≤ address ∧ address ≤ 0x9F then Font.bytes[address - 0x50]?.getD 0 else 0))) ∧
    ∀ memory : Memory,
      (∀ write,
        ((∃ next, memory.attempt write = .ok next) ↔ write.start + write.data.length ≤ 4096) ∧
          ∀ fault, memory.attempt write = .error fault → memory.written write = memory) ∧
      (∀ start length bytes, memory.readSlice start length = .ok bytes →
        bytes.map .ok = (List.range length).map fun offset => memory.readByte (start + offset)) ∧
      ∀ pointer,
        ((∃ word, memory.fetch pointer = .ok word) ↔
          (∃ high, memory.readByte pointer = .ok high) ∧
            ∃ low, memory.readByte (pointer + 1) = .ok low) ∧
        ∀ word high low, memory.fetch pointer = .ok word → memory.readByte pointer = .ok high →
          memory.readByte (pointer + 1) = .ok low → word.toNat = 256 * high.toNat + low.toNat := by
  refine ⟨fun writes address inside => ?_, fun memory => ⟨fun write => ?_, ?_, fun pointer => ?_⟩⟩
  · rw [← byte_initial_eq]
    exact readByte_eq_ok_iff.2 ⟨inside, byte_writtenAll initial writes address⟩
  · exact ⟨attempt_ok_iff, fun fault => written_of_error⟩
  · exact fun start length bytes => map_readByte_of_readSlice
  · exact ⟨exists_fetch_iff, fun word high low => toNat_of_fetch⟩

theorem overlapping_writes_recalled :
    let memory := initial.writtenAll
      [.slice 0x300 [1, 2, 3], .byte 0x301 9, .slice 0xFFF [7, 7], .program [0xAB]]
    memory.readByte 0x300 = .ok 1 ∧ memory.readByte 0x301 = .ok 9 ∧ memory.readByte 0xFFF = .ok 0 ∧
      memory.readByte 0x50 = .ok 0xF0 ∧
      (memory.attempt (.slice 0xFFF [7, 7]) = .error ⟨4096, 4096⟩ ∧
        memory.written (.slice 0xFFF [7, 7]) = memory) ∧
      (∃ bytes, memory.readSlice 0x300 2 = .ok bytes ∧ bytes.map .ok = [memory.readByte 0x300, .ok 9]) ∧
      ∃ word, memory.fetch 0x300 = .ok word ∧ word.toNat = 0x109 := by
  intro memory
  obtain ⟨recalls, reads⟩ := reads_recall_latest_writes
  obtain ⟨writes, slices, words⟩ := reads memory
  have recalled (address : Nat) (inside : address < 4096) := recalls
    [.slice 0x300 [1, 2, 3], .byte 0x301 9, .slice 0xFFF [7, 7], .program [0xAB]] address inside
  have first : memory.readByte 0x300 = .ok 1 := recalled 0x300 (by decide)
  have second : memory.readByte 0x301 = .ok 9 := recalled 0x301 (by decide)
  have last : memory.readByte 0xFFF = .ok 0 := recalled 0xFFF (by decide)
  have glyph : memory.readByte 0x50 = .ok 0xF0 := recalled 0x50 (by decide)
  have rejected : memory.attempt (.slice 0xFFF [7, 7]) = .error ⟨4096, 4096⟩ := rfl
  have read := memory.readSlice_of_le (show 0x300 + 2 ≤ size by decide)
  obtain ⟨word, fetched⟩ := (words 0x300).1.2 ⟨⟨1, first⟩, 9, second⟩
  refine ⟨first, second, last, glyph, ⟨rejected, (writes _).2 _ rejected⟩, ⟨_, read, ?_⟩, word, fetched, ?_⟩
  · rw [slices 0x300 2 _ read, ← second]
    rfl
  · exact (words 0x300).2 word 1 9 fetched first second

end Memory

end SpriteMachine
