import SpriteMachine.Fault
import SpriteMachine.Word
import SpriteMachine.Memory.Font

/-! The 4096 bytes of the machine. `Memory.byte` is the view that every access is described by: reading
a slice lists it, writing changes it exactly on the written range, and an access that does not fit
reports a fault and changes nothing. -/

namespace SpriteMachine

def Memory.size : Nat := 4096

structure Memory where
  bytes : Vector UInt8 Memory.size
  deriving DecidableEq

namespace Memory

def programStart : Nat := 0x200

def programLimit : Nat := size - programStart

theorem programStart_add_le_iff {length : Nat} :
    programStart + length ≤ size ↔ length ≤ programLimit := by
  simp only [programStart, programLimit, size]
  omega

def addressLimit : Nat := 0x10000000000000000

def initial : Memory where
  bytes := Vector.ofFn fun address => Font.byteAt address.val

/-- The byte at an address, `0` outside of the memory. -/
def byte (memory : Memory) (address : Nat) : UInt8 :=
  memory.bytes[address]?.getD 0

@[ext] theorem ext_byte {first second : Memory} (same : ∀ a < size, first.byte a = second.byte a) :
    first = second := by
  cases first with
  | mk first =>
    cases second with
    | mk second =>
      congr
      refine Vector.ext fun a inside => ?_
      simpa [byte, inside] using same a inside

theorem byte_of_le (memory : Memory) {address : Nat} (outside : size ≤ address) :
    memory.byte address = 0 := by
  simp [byte, Vector.getElem?_eq_none_iff.2 outside]

theorem byte_initial (address : Nat) : initial.byte address = Font.byteAt address := by
  by_cases inside : address < size
  · simp [byte, initial, inside]
  · rw [byte_of_le _ (Nat.le_of_not_lt inside), Font.byteAt_of_le]
    simp only [size, Font.base] at inside ⊢
    omega

def readByte (memory : Memory) (address : Nat) : Except MemoryFault UInt8 :=
  if address < size then .ok (memory.byte address) else .error ⟨address, size⟩

theorem readByte_eq_ok_iff {memory : Memory} {address : Nat} {value : UInt8} :
    memory.readByte address = .ok value ↔ address < size ∧ memory.byte address = value := by
  rw [readByte]
  split <;> simp [*]

def writeByte (memory : Memory) (address : Nat) (value : UInt8) : Except MemoryFault Memory :=
  if h : address < size then .ok ⟨memory.bytes.set address value h⟩ else .error ⟨address, size⟩

theorem byte_set (memory : Memory) {address : Nat} (inside : address < size) (value : UInt8) (a : Nat) :
    byte ⟨memory.bytes.set address value inside⟩ a = if a = address then value else memory.byte a := by
  by_cases same : a = address
  · subst same
    simp [byte, inside]
  · simp [byte, Vector.getElem?_set_ne inside (Ne.symm same), same]

/-- Why `length` bytes from `address` on do not lie inside of the memory. The fault names `address` when
the end of the range has no 64-bit address, and else the first address from the end of the memory on. -/
def rangeFault? (address length : Nat) : Option MemoryFault :=
  if addressLimit ≤ address + length then some ⟨address, size⟩
  else if size < address + length then some ⟨max address size, size⟩
  else none

theorem rangeFault?_eq_none_iff {address length : Nat} :
    rangeFault? address length = none ↔ address + length ≤ size := by
  unfold rangeFault? addressLimit
  split
  · simp only [size, reduceCtorEq, false_iff]
    omega
  · split <;> simp only [reduceCtorEq, false_iff, true_iff] <;> omega

theorem rangeFault?_of_lt {address length : Nat} (small : address + length < addressLimit)
    (outside : size < address + length) :
    rangeFault? address length = some ⟨max address size, size⟩ := by
  rw [rangeFault?, if_neg (Nat.not_le_of_lt small), if_pos outside]

def slice (memory : Memory) (address length : Nat) : List UInt8 :=
  (List.range length).map fun offset => memory.byte (address + offset)

@[simp] theorem length_slice (memory : Memory) (address length : Nat) :
    (memory.slice address length).length = length := by
  simp [slice]

theorem getElem?_slice (memory : Memory) (address : Nat) {length offset : Nat}
    (inside : offset < length) :
    (memory.slice address length)[offset]? = some (memory.byte (address + offset)) := by
  simp [slice, inside]

def readSlice (memory : Memory) (address length : Nat) : Except MemoryFault (List UInt8) :=
  match rangeFault? address length with
  | none => .ok (memory.slice address length)
  | some fault => .error fault

theorem readSlice_of_le (memory : Memory) {address length : Nat} (fits : address + length ≤ size) :
    memory.readSlice address length = .ok (memory.slice address length) := by
  simp [readSlice, rangeFault?_eq_none_iff.2 fits]

/-- What falls outside of the memory is dropped. -/
def store (memory : Memory) (address : Nat) : List UInt8 → Memory
  | [] => memory
  | value :: rest => store ⟨memory.bytes.setIfInBounds address value⟩ (address + 1) rest

theorem byte_store (memory : Memory) (address : Nat) (data : List UInt8)
    (fits : address + data.length ≤ size) (a : Nat) :
    (memory.store address data).byte a =
      if address ≤ a ∧ a < address + data.length then data[a - address]?.getD 0
      else memory.byte a := by
  induction data generalizing memory address with
  | nil =>
    have outside : ¬ (address ≤ a ∧ a < address + 0) := by omega
    simp only [store, List.length_nil, if_neg outside]
  | cons value rest ih =>
    simp only [List.length_cons] at fits
    have inside : address < size := by omega
    have first : (⟨memory.bytes.setIfInBounds address value⟩ : Memory)
        = ⟨memory.bytes.set address value inside⟩ := by
      simp [Vector.setIfInBounds, Vector.set, Array.setIfInBounds, inside]
    rw [store, ih _ _ (by omega), first, byte_set]
    by_cases same : a = address
    · subst same
      rw [if_neg (by omega), if_pos rfl, if_pos (by simp only [List.length_cons]; omega)]
      simp
    · by_cases later : address + 1 ≤ a ∧ a < address + 1 + rest.length
      · have split : a - address = a - (address + 1) + 1 := by omega
        rw [if_pos later, if_pos (by simp only [List.length_cons]; omega), split, List.getElem?_cons_succ]
      · rw [if_neg later, if_neg same, if_neg (by simp only [List.length_cons]; omega)]

theorem slice_store_of_le (memory : Memory) {address length start : Nat} {data : List UInt8}
    (before : address + length ≤ start) (fits : start + data.length ≤ size) :
    (memory.store start data).slice address length = memory.slice address length := by
  refine List.map_congr_left fun offset listed => ?_
  have inside := List.mem_range.1 listed
  rw [byte_store _ _ _ fits, if_neg (by omega)]

def writeSlice (memory : Memory) (address : Nat) (data : List UInt8) : Except MemoryFault Memory :=
  match rangeFault? address data.length with
  | none => .ok (memory.store address data)
  | some fault => .error fault

theorem writeSlice_of_le (memory : Memory) {address : Nat} {data : List UInt8}
    (fits : address + data.length ≤ size) :
    memory.writeSlice address data = .ok (memory.store address data) := by
  simp [writeSlice, rangeFault?_eq_none_iff.2 fits]

def loadProgram (memory : Memory) (program : List UInt8) : Except MemoryFault Memory :=
  memory.writeSlice programStart program

def wordIn (data : Array UInt8) (pointer : Nat) : Except FetchFault UInt16 :=
  match data[pointer]?, data[pointer + 1]? with
  | some high, some low => .ok (Word.ofBytes high low)
  | _, _ => .error ⟨pointer, data.size⟩

def fetch (memory : Memory) (pointer : Nat) : Except FetchFault UInt16 :=
  wordIn memory.bytes.toArray pointer

theorem fetch_of_lt (memory : Memory) {pointer : Nat} (inside : pointer + 1 < size) :
    memory.fetch pointer = .ok (Word.ofBytes (memory.byte pointer) (memory.byte (pointer + 1))) := by
  have first : pointer < size := by omega
  simp [fetch, wordIn, byte, first, inside]

theorem fetch_of_le (memory : Memory) {pointer : Nat} (outside : size ≤ pointer + 1) :
    memory.fetch pointer = .error ⟨pointer, size⟩ := by
  have second : ¬ pointer + 1 < size := Nat.not_lt_of_le outside
  simp [fetch, wordIn, second]

theorem fetch_eq_ok_iff {memory : Memory} {pointer : Nat} {word : UInt16} :
    memory.fetch pointer = .ok word ↔
      pointer + 1 < size ∧ word = Word.ofBytes (memory.byte pointer) (memory.byte (pointer + 1)) := by
  rcases Nat.lt_or_ge (pointer + 1) size with inside | outside
  · rw [fetch_of_lt memory inside, Except.ok.injEq, eq_comm, and_iff_right inside]
  · simp [fetch_of_le memory outside, Nat.not_lt_of_le outside]

end Memory

end SpriteMachine
