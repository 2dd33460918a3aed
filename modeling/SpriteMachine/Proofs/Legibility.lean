import SpriteMachine.Dump.Basic

/-! Texts that can be read back. A printed number keeps its value, parts are told apart by a separator
that occurs in none of them, and a table of words gives back the words, whatever their lengths. No layout
puts a line break into a line, so joined lines can be taken apart again. -/

namespace SpriteMachine

namespace Text

def digitValue (digit : Char) : Nat :=
  if digit.toNat < 'A'.toNat then digit.toNat - '0'.toNat else digit.toNat - 'A'.toNat + 10

def valueOf (digits : List Char) : Nat :=
  digits.foldl (fun value digit => 16 * value + digitValue digit) 0

theorem digitValue_digitChar : ∀ d < 16, digitValue (Nat.digitChar d).toUpper = d := by decide

theorem valueOf_append_singleton (digits : List Char) (digit : Char) :
    valueOf (digits ++ [digit]) = 16 * valueOf digits + digitValue digit := by
  simp [valueOf, List.foldl_append]

theorem valueOf_hexDigits (n : Nat) : valueOf (hexDigits n) = n := by
  induction n using Nat.strongRecOn with
  | ind n ih =>
    rcases Nat.lt_or_ge n 16 with small | large
    · rw [hexDigits_of_lt small]
      simp [valueOf, digitValue_digitChar n small]
    · have last : n % 16 < 16 := Nat.mod_lt n (by decide)
      rw [hexDigits_of_le large, hexDigits_of_lt last, valueOf_append_singleton, ih (n / 16) (by omega),
        digitValue_digitChar _ last]
      omega

theorem valueOf_replicate_append (count : Nat) (digits : List Char) :
    valueOf (List.replicate count '0' ++ digits) = valueOf digits := by
  induction count with
  | zero => rfl
  | succ count ih => exact ih

theorem toList_hex (n : Nat) : (hex n).toList = '0' :: 'x' :: (hexDigits n).leftpad 4 '0' := by
  simp [hex, String.toList_append]

theorem hex_injective : Function.Injective hex := by
  intro m n same
  have digits := congrArg String.toList same
  rw [toList_hex, toList_hex, List.cons.injEq, List.cons.injEq] at digits
  have values := congrArg valueOf digits.2.2
  rwa [List.leftpad, List.leftpad, valueOf_replicate_append, valueOf_replicate_append,
    valueOf_hexDigits, valueOf_hexDigits] at values

def IsWord (text : String) : Prop :=
  ∀ c ∈ text.toList, c.isAlphanum = true

instance (text : String) : Decidable (IsWord text) :=
  List.decidableBAll _ text.toList

def IsLine (text : String) : Prop :=
  '\n' ∉ text.toList

instance (text : String) : Decidable (IsLine text) :=
  inferInstanceAs (Decidable ('\n' ∉ text.toList))

theorem IsWord.notMem {text : String} (word : IsWord text) {c : Char} (other : c.isAlphanum = false) :
    c ∉ text.toList := fun member => by
  rw [word c member] at other
  cases other

theorem IsWord.isLine {text : String} (word : IsWord text) : IsLine text :=
  word.notMem rfl

theorem IsLine.append {first second : String} (line : IsLine first) (line' : IsLine second) :
    IsLine (first ++ second) := by
  rw [IsLine, String.toList_append, List.mem_append, not_or]
  exact ⟨line, line'⟩

theorem isLine_replicate (count : Nat) {c : Char} (other : c ≠ '\n') :
    IsLine (String.ofList (List.replicate count c)) := by
  rw [IsLine, String.toList_ofList, List.mem_replicate, not_and]
  exact fun _ => other.symm

theorem isAlphanum_digitChar : ∀ d < 16, (Nat.digitChar d).toUpper.isAlphanum = true := by decide

theorem isAlphanum_of_mem_hexDigits {n : Nat} {c : Char} (member : c ∈ hexDigits n) :
    c.isAlphanum = true := by
  induction n using Nat.strongRecOn with
  | ind n ih =>
    rcases Nat.lt_or_ge n 16 with small | large
    · rw [hexDigits_of_lt small, List.mem_singleton] at member
      rw [member, isAlphanum_digitChar n small]
    · have last : n % 16 < 16 := Nat.mod_lt n (by decide)
      rw [hexDigits_of_le large, hexDigits_of_lt last, List.mem_append, List.mem_singleton] at member
      rcases member with front | rfl
      · exact ih (n / 16) (by omega) front
      · exact isAlphanum_digitChar _ last

theorem isWord_hex (n : Nat) : IsWord (hex n) := by
  intro c member
  rw [toList_hex, List.mem_cons, List.mem_cons, List.leftpad, List.mem_append] at member
  rcases member with rfl | rfl | filled | digit
  · rfl
  · rfl
  · rw [List.eq_of_mem_replicate filled]
    rfl
  · exact isAlphanum_of_mem_hexDigits digit

theorem append_cons_inj {separator : Char} {front front' back back' : List Char}
    (free : separator ∉ front) (clear : separator ∉ front')
    (same : front ++ separator :: back = front' ++ separator :: back') :
    front = front' ∧ back = back' := by
  induction front generalizing front' with
  | nil =>
    rcases front' with _ | ⟨c, front'⟩
    · exact ⟨rfl, (List.cons.inj same).2⟩
    · exact absurd (List.mem_cons.2 (.inl (List.cons.inj same).1)) clear
  | cons c front ih =>
    rcases front' with _ | ⟨c', front'⟩
    · exact absurd (List.mem_cons.2 (.inl (List.cons.inj same).1.symm)) free
    · obtain ⟨rfl, rest⟩ := List.cons.inj same
      rw [List.mem_cons, not_or] at free clear
      obtain ⟨rfl, rfl⟩ := ih free.2 clear.2 rest
      exact ⟨rfl, rfl⟩

theorem notMem_intercalate {c : Char} {joint : String} (unjoined : c ∉ joint.toList)
    {parts : List String} (absent : ∀ part ∈ parts, c ∉ part.toList) :
    c ∉ (joint.intercalate parts).toList := by
  induction parts with
  | nil => exact nofun
  | cons part rest ih =>
    obtain ⟨apart, later⟩ := List.forall_mem_cons.1 absent
    rcases rest with _ | ⟨next, rest⟩
    · rwa [String.intercalate_singleton]
    · rw [String.intercalate_cons_cons, String.toList_append, String.toList_append, List.mem_append,
        List.mem_append, not_or, not_or]
      exact ⟨⟨apart, unjoined⟩, ih later⟩

/-- A joint that is no part of what it joins is where the text can be cut again. -/
theorem intercalate_inj {joint : String} {separator : Char} (single : joint.toList = [separator])
    {first second : List String} (filled : first ≠ []) (others : second ≠ [])
    (free : ∀ part ∈ first, separator ∉ part.toList)
    (clear : ∀ part ∈ second, separator ∉ part.toList)
    (same : joint.intercalate first = joint.intercalate second) : first = second := by
  have cut := congrArg (fun text : String => text.toList.splitOn separator) same
  simp only [String.toList_intercalate, single] at cut
  rw [List.splitOn_intercalate separator (by simpa using free) (by simpa using filled),
    List.splitOn_intercalate separator (by simpa using clear) (by simpa using others)] at cut
  exact List.map_inj_right (fun _ _ => String.toList_inj.1) |>.1 cut

end Text

namespace Dump

open Text

theorem isLine_indent (levels : Nat) {text : String} (line : IsLine text) :
    IsLine (indent levels text) :=
  (isLine_replicate levels (by decide)).append line

theorem indent_injective (levels : Nat) : Function.Injective (indent levels) :=
  fun _ _ => (String.append_right_inj _).1

theorem joinLines_inj {first second : List String} (filled : first ≠ []) (others : second ≠ [])
    (lines : ∀ line ∈ first, IsLine line) (lines' : ∀ line ∈ second, IsLine line)
    (same : joinLines first = joinLines second) : first = second :=
  intercalate_inj rfl filled others lines lines' same

theorem toList_range (first last : Nat) :
    (range first last).toList =
      (hex first).toList ++ ' ' :: '-' :: ' ' :: ((hex last).toList ++ ' ' :: [':']) := by
  simp [range, String.toList_append]

theorem isLine_range (first last : Nat) : IsLine (range first last) :=
  (((isWord_hex first).isLine.append (by decide)).append (isWord_hex last).isLine).append (by decide)

theorem range_append_inj {first last first' last' : Nat} {rest rest' : String}
    (same : range first last ++ rest = range first' last' ++ rest') :
    first = first' ∧ last = last' ∧ rest = rest' := by
  have blank (n : Nat) : ' ' ∉ (hex n).toList := (isWord_hex n).notMem rfl
  have letters := congrArg String.toList same
  simp only [String.toList_append, toList_range, List.append_assoc, List.cons_append,
    List.nil_append] at letters
  obtain ⟨start, letters⟩ := append_cons_inj (blank first) (blank first') letters
  obtain ⟨stop, letters⟩ := append_cons_inj (blank last) (blank last')
    (List.cons.inj (List.cons.inj letters).2).2
  exact ⟨hex_injective (String.toList_inj.1 start), hex_injective (String.toList_inj.1 stop),
    String.toList_inj.1 (List.cons.inj letters).2⟩

theorem toList_columns_cons (word next : String) (rest : List String) :
    (columns (word :: next :: rest)).toList =
      word.toList ++ ' ' ::
        (List.replicate (valueWidth - word.length) ' ' ++ (columns (next :: rest)).toList) := by
  have shifted (count : Nat) (later : List Char) :
      List.replicate count ' ' ++ ' ' :: later = ' ' :: (List.replicate count ' ' ++ later) := by
    rw [← List.cons_append, ← List.replicate_succ, List.replicate_succ', List.append_assoc,
      List.singleton_append]
  rw [columns, String.toList_append, String.toList_append, String.toList_append, String.toList_ofList,
    List.append_assoc, List.append_assoc]
  · exact congrArg (word.toList ++ ·) (shifted _ _)
  · exact nofun

theorem isLine_columns {words : List String} (each : ∀ word ∈ words, IsWord word) :
    IsLine (columns words) := by
  induction words with
  | nil => exact nofun
  | cons word rest ih =>
    obtain ⟨isWord, later⟩ := List.forall_mem_cons.1 each
    rcases rest with _ | ⟨next, rest⟩
    · exact isWord.isLine
    · exact ((isWord.isLine.append (isLine_replicate _ (by decide))).append (by decide)).append (ih later)

theorem columns_inj {first second : List String} (length : first.length = second.length)
    (words : ∀ word ∈ first, IsWord word) (others : ∀ word ∈ second, IsWord word)
    (same : columns first = columns second) : first = second := by
  induction first generalizing second with
  | nil => exact (List.length_eq_zero_iff.1 length.symm).symm
  | cons word rest ih =>
    rcases second with _ | ⟨word', rest'⟩
    · cases length
    obtain ⟨isWord, rest_words⟩ := List.forall_mem_cons.1 words
    obtain ⟨isWord', rest_others⟩ := List.forall_mem_cons.1 others
    have shorter := Nat.succ.inj length
    rcases rest with _ | ⟨next, rest⟩ <;> rcases rest' with _ | ⟨next', rest'⟩
    · exact congrArg ([·]) same
    · cases shorter
    · cases shorter
    · have letters := congrArg String.toList same
      rw [toList_columns_cons, toList_columns_cons] at letters
      obtain ⟨front, letters⟩ := append_cons_inj (isWord.notMem rfl) (isWord'.notMem rfl) letters
      obtain rfl := String.toList_inj.1 front
      have later := String.toList_inj.1 (List.append_cancel_left letters)
      rw [ih shorter rest_words rest_others later]

theorem mem_of_mem_row {α : Type} {width k : Nat} {entries : List α} {entry : α}
    (member : entry ∈ Rows.row width entries k) : entry ∈ entries :=
  List.mem_of_mem_drop (List.mem_of_mem_take member)

@[simp] theorem length_table (words : List String) :
    (table words).length = Rows.count valuesPerRow words.length := by
  simp [table]

@[simp] theorem length_numbers (values : List Nat) :
    (numbers values).length = Rows.count valuesPerRow values.length := by
  simp [numbers]

@[simp] theorem length_flags (values : List Bool) :
    (flags values).length = Rows.count valuesPerRow values.length := by
  simp [flags]

@[simp] theorem length_number (value : Nat) : (number value).length = 1 := rfl

@[simp] theorem length_titled (title : String) (lines : List String) :
    (titled title lines).length = lines.length + 1 := rfl

theorem isLine_of_mem_table {words : List String} (each : ∀ word ∈ words, IsWord word) {line : String}
    (member : line ∈ table words) : IsLine line := by
  obtain ⟨k, inside, rfl⟩ := List.mem_mapIdx.1 member
  refine isLine_indent depth (((isLine_range _ _).append (by decide)).append (isLine_columns ?_))
  intro word found
  have entry := List.mem_flatten_of_mem (List.getElem_mem inside) found
  rw [Rows.flatten_cut (by decide)] at entry
  exact each word entry

/-- Tables with equally many words have the same ranges in front of their rows. -/
theorem table_inj {first second : List String} (length : first.length = second.length)
    (words : ∀ word ∈ first, IsWord word) (others : ∀ word ∈ second, IsWord word)
    (same : table first = table second) : first = second := by
  have row (k : Nat) (inside : k < Rows.count valuesPerRow first.length) :
      Rows.row valuesPerRow first k = Rows.row valuesPerRow second k := by
    have wide : (Rows.row valuesPerRow first k).length = (Rows.row valuesPerRow second k).length := by
      simp [Rows.row, length]
    have line := congrArg (·[k]?) same
    simp only [table, List.getElem?_mapIdx, Rows.cut, List.getElem?_map, List.getElem?_range, inside,
      ← length, Option.map_some, Option.some.injEq, indent, String.append_right_inj, wide] at line
    exact columns_inj wide (fun word member => words word (mem_of_mem_row member))
      (fun word member => others word (mem_of_mem_row member)) line
  have rows : Rows.cut valuesPerRow first = Rows.cut valuesPerRow second := by
    rw [Rows.cut, Rows.cut, ← length]
    exact List.map_congr_left fun k member => row k (List.mem_range.1 member)
  have positive : 0 < valuesPerRow := by decide
  rw [← Rows.flatten_cut positive first, rows, Rows.flatten_cut positive]

theorem isLine_of_mem_numbers {values : List Nat} {line : String} (member : line ∈ numbers values) :
    IsLine line :=
  isLine_of_mem_table (by simp [isWord_hex]) member

theorem numbers_inj {first second : List Nat} (length : first.length = second.length)
    (same : numbers first = numbers second) : first = second := by
  have words := table_inj (by simp [length]) (by simp [isWord_hex]) (by simp [isWord_hex]) same
  exact (List.map_inj_right fun _ _ => hex_injective.eq_iff.1).1 words

theorem isWord_of_mem_flags {values : List Bool} {word : String}
    (member : word ∈ values.map fun value => if value then "true" else "false") : IsWord word := by
  obtain ⟨value, _, rfl⟩ := List.mem_map.1 member
  cases value <;> decide

theorem isLine_of_mem_flags {values : List Bool} {line : String} (member : line ∈ flags values) :
    IsLine line :=
  isLine_of_mem_table (fun _ => isWord_of_mem_flags) member

theorem flags_inj {first second : List Bool} (length : first.length = second.length)
    (same : flags first = flags second) : first = second := by
  refine (List.map_inj_right fun value value' same => ?_).1
    (table_inj (by simp [length]) (fun _ => isWord_of_mem_flags) (fun _ => isWord_of_mem_flags) same)
  cases value <;> cases value' <;> first | rfl | exact absurd same (by decide)

theorem number_injective : Function.Injective number := fun _ _ same =>
  hex_injective (indent_injective depth (List.cons.inj same).1)

theorem titled_inj {title : String} {first second : List String}
    (same : titled title first = titled title second) : first = second :=
  (List.cons.inj same).2

theorem isLine_of_mem_titled {title : String} (heading : IsLine title) {lines : List String}
    (each : ∀ line ∈ lines, IsLine line) {line : String} (member : line ∈ titled title lines) :
    IsLine line := by
  rcases List.mem_cons.1 member with rfl | below
  · exact isLine_indent 1 (heading.append (by decide))
  · exact each line below

end Dump

end SpriteMachine
