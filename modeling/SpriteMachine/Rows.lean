/-! Cutting a list into rows of a fixed width. Row `k` holds the entries from `k * width` on, and only
the last row can be shorter than the others. -/

namespace SpriteMachine.Rows

def count (width length : Nat) : Nat :=
  (length + width - 1) / width

def row {α : Type} (width : Nat) (entries : List α) (k : Nat) : List α :=
  (entries.drop (k * width)).take width

/-- The rows in order. An empty list has none. -/
def cut {α : Type} (width : Nat) (entries : List α) : List (List α) :=
  (List.range (count width entries.length)).map (row width entries)

@[simp] theorem length_cut {α : Type} (width : Nat) (entries : List α) :
    (cut width entries).length = count width entries.length := by
  simp [cut]

@[simp] theorem cut_nil {α : Type} (width : Nat) : cut width ([] : List α) = [] := by
  cases width <;> simp [cut, count, Nat.div_eq_of_lt]

theorem count_mul_ge {width : Nat} (positive : 0 < width) (length : Nat) :
    length ≤ count width length * width := by
  have parts := Nat.div_add_mod (length + width - 1) width
  have rest := Nat.mod_lt (length + width - 1) positive
  rw [count, Nat.mul_comm]
  omega

theorem flatten_rows {α : Type} (width : Nat) (entries : List α) (k : Nat) :
    ((List.range k).map (row width entries)).flatten = entries.take (k * width) := by
  induction k with
  | zero => simp
  | succ k ih =>
    rw [List.range_succ, List.map_append, List.flatten_append, ih, Nat.succ_mul, List.take_add]
    simp [row]

theorem flatten_cut {α : Type} {width : Nat} (positive : 0 < width) (entries : List α) :
    (cut width entries).flatten = entries := by
  rw [cut, flatten_rows]
  exact List.take_of_length_le (count_mul_ge positive _)

theorem getElem?_row {α : Type} {width : Nat} (entries : List α) (k : Nat) {x : Nat}
    (inside : x < width) : (row width entries k)[x]? = entries[k * width + x]? := by
  simp [row, inside]

theorem getElem?_cut {α : Type} (width : Nat) (entries : List α) {k : Nat}
    (inside : k < count width entries.length) :
    (cut width entries)[k]? = some (row width entries k) := by
  simp [cut, inside]

def get? {α : Type} (rows : List (List α)) (k x : Nat) : Option α :=
  rows[k]?.bind (·[x]?)

theorem getElem?_flatten {α : Type} {width : Nat} {rows : List (List α)}
    (even : ∀ row ∈ rows, row.length = width) (k : Nat) {x : Nat} (inside : x < width) :
    rows.flatten[k * width + x]? = get? rows k x := by
  induction rows generalizing k with
  | nil => simp [get?]
  | cons first later ih =>
    obtain ⟨length, even⟩ := List.forall_mem_cons.1 even
    rw [List.flatten_cons]
    cases k with
    | zero => simp [get?, List.getElem?_append_left (length ▸ inside : x < first.length)]
    | succ k =>
      have behind : (k + 1) * width + x - first.length = k * width + x := by
        rw [length, Nat.succ_mul]
        omega
      rw [List.getElem?_append_right (by rw [length, Nat.succ_mul]; omega), behind, ih even]
      rfl

theorem lt_of_get? {α : Type} {width : Nat} {rows : List (List α)}
    (even : ∀ row ∈ rows, row.length = width) {k x : Nat} {entry : α}
    (found : get? rows k x = some entry) : x < width := by
  obtain ⟨row, listed, placed⟩ := Option.bind_eq_some_iff.1 found
  rw [← even row (List.mem_of_getElem? listed)]
  exact (List.getElem?_eq_some_iff.1 placed).1

theorem mem_zip_flatten_iff {α β : Type} {width : Nat} (positive : 0 < width) {first : List (List α)}
    {second : List (List β)} (even : ∀ row ∈ first, row.length = width)
    (even' : ∀ row ∈ second, row.length = width) {entry : α} {entry' : β} :
    (entry, entry') ∈ first.flatten.zip second.flatten ↔
      ∃ k x, get? first k x = some entry ∧ get? second k x = some entry' := by
  have zipped (k x : Nat) (inside : x < width) :
      (first.flatten.zip second.flatten)[k * width + x]? = some (entry, entry') ↔
        get? first k x = some entry ∧ get? second k x = some entry' := by
    rw [List.getElem?_zip_eq_some, getElem?_flatten even k inside, getElem?_flatten even' k inside]
  constructor
  · intro member
    obtain ⟨place, found⟩ := List.mem_iff_getElem?.1 member
    rw [← Nat.div_add_mod place width, Nat.mul_comm] at found
    exact ⟨_, _, (zipped _ _ (Nat.mod_lt place positive)).1 found⟩
  · rintro ⟨k, x, both⟩
    exact List.mem_of_getElem? ((zipped k x (lt_of_get? even both.1)).2 both)

end SpriteMachine.Rows
