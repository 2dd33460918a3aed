import SpriteMachine.Dump.Bytes
import SpriteMachine.Proofs.Legibility

/-! Dumped bytes can be read back. A line keeps the range of its positions, and so the number of its
bytes, also where rows of zeros were folded. Spread out again, the lines of any data are the data, and a
printed line tells which line it was. -/

namespace SpriteMachine

namespace Rows

theorem count_of_pos {width length : Nat} (positive : 0 < width) (filled : 0 < length) :
    count width length = count width (length - width) + 1 := by
  rcases Nat.lt_or_ge length width with short | long
  · have consumed : length - width = 0 := by omega
    have first : width ≤ length + width - 1 := by omega
    rw [count, count, consumed, Nat.div_eq_of_lt (a := 0 + width - 1) (by omega),
      Nat.div_eq_sub_div positive first, Nat.div_eq_of_lt (by omega)]
  · have rest : length + width - 1 = length - width + width - 1 + width := by omega
    rw [count, count, rest, Nat.add_div_right _ positive]

theorem row_succ {α : Type} (width : Nat) (entries : List α) (k : Nat) :
    row width entries (k + 1) = row width (entries.drop width) k := by
  rw [row, row, List.drop_drop, Nat.succ_mul, Nat.add_comm]

theorem cut_of_ne_nil {α : Type} {width : Nat} (positive : 0 < width) {entries : List α}
    (filled : entries ≠ []) :
    cut width entries = entries.take width :: cut width (entries.drop width) := by
  have more : 0 < entries.length := List.length_pos_iff.2 filled
  have first : row width entries 0 = entries.take width := by simp [row]
  rw [cut, count_of_pos positive more, List.range_succ_eq_map, List.map_cons, List.map_map, first, cut,
    List.length_drop]
  exact congrArg _ (List.map_congr_left fun k _ => row_succ width entries k)

end Rows

namespace Dump

open Text
open Word

def bytesOf (values : List UInt16) : List UInt8 :=
  values.flatMap fun value => [highByte value, lowByte value]

theorem take_bytesOf_wordsOf (row : List UInt8) : (bytesOf (wordsOf row)).take row.length = row := by
  induction row using wordsOf.induct with
  | case1 => rfl
  | case2 high => simp [wordsOf, bytesOf]
  | case3 high low rest ih =>
    have later := congrArg (fun bytes => high :: low :: bytes) ih
    simpa [wordsOf, bytesOf] using later

def Line.expand : Line → List UInt8
  | zeros first last => List.replicate (last + 1 - first) 0
  | words first last values => (bytesOf values).take (last + 1 - first)

theorem expand_lineOf (base : Nat) {row : List UInt8} (filled : row ≠ []) :
    (lineOf base row).expand = row := by
  have more : 0 < row.length := List.length_pos_iff.2 filled
  have width : base + row.length - 1 + 1 - base = row.length := by omega
  unfold lineOf
  dsimp only
  split
  · next zeros =>
    rw [Line.expand, width]
    exact (List.eq_replicate_iff.2 ⟨rfl, by simpa using zeros⟩).symm
  · rw [Line.expand, width, take_bytesOf_wordsOf]

/-- If the first line is one of zeros, it starts at `base` and does not end before it. -/
def StartsAt (base : Nat) : List Line → Prop
  | .zeros first last :: _ => first = base ∧ base ≤ last
  | _ => True

theorem expand_fold_zeros {first last : Nat} (ordered : first ≤ last) {rest : List Line}
    (next : StartsAt (last + 1) rest) :
    StartsAt first (fold (.zeros first last) rest) ∧
      (fold (.zeros first last) rest).flatMap Line.expand =
        (Line.zeros first last).expand ++ rest.flatMap Line.expand := by
  rcases rest with _ | ⟨⟨start, stop⟩ | ⟨start, stop, values⟩, later⟩
  · exact ⟨⟨rfl, ordered⟩, rfl⟩
  · obtain ⟨rfl, behind⟩ := next
    have merged : stop + 1 - first = (last + 1 - first) + (stop + 1 - (last + 1)) := by omega
    refine ⟨⟨rfl, by omega⟩, ?_⟩
    simp only [fold, List.flatMap_cons, Line.expand]
    rw [merged, ← List.replicate_append_replicate, List.append_assoc]
  · exact ⟨⟨rfl, ordered⟩, rfl⟩

theorem expand_fold {base : Nat} {row : List UInt8} (filled : row ≠ []) {rest : List Line}
    (next : StartsAt (base + row.length) rest) :
    StartsAt base (fold (lineOf base row) rest) ∧
      (fold (lineOf base row) rest).flatMap Line.expand = row ++ rest.flatMap Line.expand := by
  have more : 0 < row.length := List.length_pos_iff.2 filled
  have whole := expand_lineOf base filled
  by_cases zeros : row.all (· == 0) = true
  · have line : lineOf base row = .zeros base (base + row.length - 1) := if_pos zeros
    have behind : base + row.length - 1 + 1 = base + row.length := by omega
    have ordered : base ≤ base + row.length - 1 := by omega
    rw [← behind] at next
    have folded := expand_fold_zeros ordered next
    rw [← line, whole] at folded
    exact folded
  · have line : lineOf base row = .words base (base + row.length - 1) (wordsOf row) := if_neg zeros
    rw [line] at whole ⊢
    rw [fold, List.flatMap_cons, whole]
    · exact ⟨trivial, rfl⟩
    · exact nofun

def linesFrom (base : Nat) (data : List UInt8) : List Line :=
  ((Rows.cut bytesPerRow data).mapIdx fun k row => lineOf (base + k * bytesPerRow) row).foldr fold []

theorem linesFrom_zero (data : List UInt8) : linesFrom 0 data = lines data := by
  simp only [linesFrom, lines, Nat.zero_add]

theorem linesFrom_nil (base : Nat) : linesFrom base [] = [] := by
  rw [linesFrom, Rows.cut_nil]
  rfl

theorem linesFrom_of_ne_nil (base : Nat) {data : List UInt8} (filled : data ≠ []) :
    linesFrom base data =
      fold (lineOf base (data.take bytesPerRow))
        (linesFrom (base + bytesPerRow) (data.drop bytesPerRow)) := by
  have shift (k : Nat) : base + (k + 1) * bytesPerRow = base + bytesPerRow + k * bytesPerRow := by
    rw [Nat.succ_mul, Nat.add_assoc, Nat.add_comm (k * bytesPerRow)]
  rw [linesFrom, Rows.cut_of_ne_nil (by decide) filled, List.mapIdx_cons, List.foldr_cons, Nat.zero_mul,
    Nat.add_zero, linesFrom]
  simp only [shift]

theorem expand_linesFrom (base : Nat) (data : List UInt8) :
    StartsAt base (linesFrom base data) ∧ (linesFrom base data).flatMap Line.expand = data := by
  induction size : data.length using Nat.strongRecOn generalizing base data with
  | ind length ih =>
    by_cases bare : data = []
    · rw [bare, linesFrom_nil]
      exact ⟨trivial, rfl⟩
    have more : 0 < data.length := List.length_pos_iff.2 bare
    have width : 0 < bytesPerRow := by decide
    have shorter : (data.drop bytesPerRow).length < length := by
      rw [List.length_drop]
      omega
    obtain ⟨next, rest⟩ := ih _ shorter (base + bytesPerRow) (data.drop bytesPerRow) rfl
    have row : data.take bytesPerRow ≠ [] := by simpa [bare] using Nat.ne_of_gt width
-- Only the last row can be short, and there are no lines behind it.
    have behind : StartsAt (base + (data.take bytesPerRow).length)
        (linesFrom (base + bytesPerRow) (data.drop bytesPerRow)) := by
      rcases Nat.lt_or_ge data.length bytesPerRow with short | long
      · rw [List.drop_eq_nil_of_le (Nat.le_of_lt short), linesFrom_nil]
        trivial
      · rwa [List.length_take_of_le long]
    obtain ⟨starts, expanded⟩ := expand_fold row behind
    rw [linesFrom_of_ne_nil base bare]
    exact ⟨starts, by rw [expanded, rest, List.take_append_drop]⟩

theorem expand_lines (data : List UInt8) : (lines data).flatMap Line.expand = data := by
  rw [← linesFrom_zero]
  exact (expand_linesFrom 0 data).2

theorem isWord_of_mem_map_hex {values : List UInt16} {text : String}
    (member : text ∈ values.map fun value => hex value.toNat) : IsWord text := by
  obtain ⟨value, _, rfl⟩ := List.mem_map.1 member
  exact isWord_hex value.toNat

theorem toList_intercalate_hex_ne_nil (value : UInt16) (rest : List UInt16) :
    (" ".intercalate ((value :: rest).map fun value => hex value.toNat)).toList ≠ [] := by
  rcases rest with _ | ⟨next, rest⟩
  · simp [toList_hex]
  · simp [String.intercalate_cons_cons, toList_hex]

theorem intercalate_hex_inj {first second : List UInt16}
    (same : " ".intercalate (first.map fun value => hex value.toNat) =
      " ".intercalate (second.map fun value => hex value.toNat)) : first = second := by
  have blank (values : List UInt16) :
      ∀ text ∈ values.map fun value => hex value.toNat, ' ' ∉ text.toList :=
    fun _ member => (isWord_of_mem_map_hex member).notMem rfl
  rcases first with _ | ⟨value, first⟩ <;> rcases second with _ | ⟨value', second⟩
  · rfl
  · exact absurd (congrArg String.toList same).symm (toList_intercalate_hex_ne_nil value' second)
  · exact absurd (congrArg String.toList same) (toList_intercalate_hex_ne_nil value first)
  · have texts := intercalate_inj rfl (by simp) (by simp) (blank _) (blank _) same
    exact (List.map_inj_right fun _ _ shown => UInt16.toNat_inj.1 (hex_injective shown)).1 texts

theorem dot_mem_filler : '.' ∈ filler.toList := by decide +kernel

theorem filler_ne_intercalate_hex (values : List UInt16) :
    filler ≠ " ".intercalate (values.map fun value => hex value.toNat) := by
  intro same
  have dotted := dot_mem_filler
  rw [same] at dotted
  exact notMem_intercalate (by decide) (fun _ member => (isWord_of_mem_map_hex member).notMem rfl) dotted

theorem Line.text_injective : Function.Injective Line.text := by
  intro first second same
  cases first <;> cases second <;>
    simp only [Line.text, String.append_assoc] at same <;>
    obtain ⟨rfl, rfl, shown⟩ := range_append_inj same <;>
    replace shown := (String.append_right_inj _).1 shown
  case zeros.zeros => rfl
  case zeros.words => exact absurd shown (filler_ne_intercalate_hex _)
  case words.zeros => exact absurd shown.symm (filler_ne_intercalate_hex _)
  case words.words => rw [intercalate_hex_inj shown]

theorem Line.isLine_text (line : Line) : IsLine line.text := by
  cases line with
  | zeros first last => exact ((isLine_range first last).append (by decide)).append (by decide +kernel)
  | words first last values =>
    exact ((isLine_range first last).append (by decide)).append
      (notMem_intercalate (by decide) fun _ member => (isWord_of_mem_map_hex member).isLine)

theorem isLine_of_mem_bytes {levels : Nat} {data : List UInt8} {line : String}
    (member : line ∈ bytes levels data) : IsLine line := by
  obtain ⟨shown, _, rfl⟩ := List.mem_map.1 member
  exact isLine_indent levels shown.isLine_text

/-- Equal dumps are of equal data, also when the data have different lengths. -/
theorem bytes_injective (levels : Nat) : Function.Injective (bytes levels) := by
  intro first second same
  have folded : lines first = lines second :=
    (List.map_inj_right fun _ _ shown => Line.text_injective (indent_injective levels shown)).1 same
  calc first = (lines first).flatMap Line.expand := (expand_lines first).symm
    _ = (lines second).flatMap Line.expand := by rw [folded]
    _ = second := expand_lines second

end Dump

end SpriteMachine
