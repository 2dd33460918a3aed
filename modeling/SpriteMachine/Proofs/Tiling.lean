import Mathlib.Data.List.Chain
import SpriteMachine.Proofs.Folding

/-! What the lines of dumped bytes show. Their ranges tile the positions of the data, a row with something
in it has a line to itself, and rows of zeros share one as long as they follow each other. The invariant is
about the lines from some row on: putting the row before in front of them keeps it. -/

namespace SpriteMachine.Dump

open Text
open Word

namespace Line

def first : Line → Nat
  | zeros first _ | words first _ _ => first

def last : Line → Nat
  | zeros _ last | words _ last _ => last

def isZeros : Line → Bool
  | zeros _ _ => true
  | words _ _ _ => false

def content : Line → String
  | zeros _ _ => filler
  | words _ _ values => " ".intercalate (values.map fun value => hex value.toNat)

theorem text_eq (line : Line) : line.text = range line.first line.last ++ " " ++ line.content := by
  cases line <;> rfl

end Line

def Tiles (start : Nat) : List Line → Nat → Prop
  | [], stop => start = stop
  | line :: rest, stop => line.first = start ∧ start ≤ line.last ∧ Tiles (line.last + 1) rest stop

theorem tiles_append {start stop : Nat} {front back : List Line} :
    Tiles start (front ++ back) stop ↔
      ∃ middle, Tiles start front middle ∧ Tiles middle back stop := by
  induction front generalizing start with
  | nil => simp [Tiles]
  | cons line front ih => simp only [List.cons_append, Tiles, ih, exists_and_left, and_assoc]

theorem Tiles.le {start stop : Nat} {shown : List Line} (tiles : Tiles start shown stop) :
    start ≤ stop := by
  induction shown generalizing start with
  | nil => exact Nat.le_of_eq tiles
  | cons line rest ih =>
    have behind := ih tiles.2.2
    have ordered := tiles.2.1
    omega

theorem Tiles.exists_mem {start stop : Nat} {shown : List Line} (tiles : Tiles start shown stop)
    {position : Nat} (after : start ≤ position) (before : position < stop) :
    ∃ line ∈ shown, line.first ≤ position ∧ position ≤ line.last := by
  induction shown generalizing start with
  | nil => exact absurd tiles (Nat.ne_of_lt (Nat.lt_of_le_of_lt after before))
  | cons line rest ih =>
    obtain ⟨starts, _, onward⟩ := tiles
    by_cases reached : position ≤ line.last
    · exact ⟨line, List.mem_cons_self, starts ▸ after, reached⟩
    · obtain ⟨found, member, within⟩ := ih onward (Nat.lt_of_not_le reached)
      exact ⟨found, List.mem_cons_of_mem _ member, within⟩

def Folded (shown : List Line) : Prop :=
  shown.IsChain fun line next => ¬ (line.isZeros = true ∧ next.isZeros = true)

def IsBlank (data : List UInt8) (k : Nat) : Prop :=
  16 * k < data.length ∧ ∀ value ∈ Rows.row 16 data k, value = 0

/-- The rows from `i` up to `j` are blank, and no others next to them. -/
structure BlankRun (data : List UInt8) (i j : Nat) : Prop where
  nonempty : i < j
  blank : ∀ k, i ≤ k → k < j → IsBlank data k
  before : ∀ k, k + 1 = i → ¬ IsBlank data k
  behind : ¬ IsBlank data j

theorem BlankRun.unique {data : List UInt8} {i j i' j' k : Nat} (run : BlankRun data i j)
    (run' : BlankRun data i' j') (inside : i ≤ k ∧ k < j) (inside' : i' ≤ k ∧ k < j') :
    i = i' ∧ j = j' := by
  constructor
  · rcases Nat.lt_trichotomy i i' with less | same | more
    · exact absurd (run.blank (i' - 1) (by omega) (by omega)) (run'.before _ (by omega))
    · exact same
    · exact absurd (run'.blank (i - 1) (by omega) (by omega)) (run.before _ (by omega))
  · rcases Nat.lt_trichotomy j j' with less | same | more
    · exact absurd (run'.blank j (by omega) less) run.behind
    · exact same
    · exact absurd (run.blank j' (by omega) more) run'.behind

/-- The line is about whole rows of the data, and what it shows is there. -/
inductive Line.Shows (data : List UInt8) : Line → Prop
  | zeros (i j : Nat) (nonempty : i < j) (blank : ∀ k, i ≤ k → k < j → IsBlank data k) :
      Shows data (.zeros (16 * i) (min (16 * j) data.length - 1))
  | words (k : Nat) (inside : 16 * k < data.length) (filled : ¬ IsBlank data k) :
      Shows data
        (.words (16 * k) (min (16 * (k + 1)) data.length - 1) (wordsOf (Rows.row 16 data k)))

theorem length_row (data : List UInt8) (k : Nat) :
    (Rows.row 16 data k).length = min 16 (data.length - 16 * k) := by
  rw [Rows.row, List.length_take, List.length_drop, Nat.mul_comm]

theorem last_row_eq {data : List UInt8} {k : Nat} (inside : 16 * k < data.length) :
    16 * k + (Rows.row 16 data k).length - 1 = min (16 * (k + 1)) data.length - 1 := by
  rw [length_row]
  omega

/-- The lines from row `k` on. -/
structure Tiling (data : List UInt8) (k : Nat) (shown : List Line) : Prop where
  shows : ∀ line ∈ shown, line.Shows data
  tiles : Tiles (min (16 * k) data.length) shown data.length
  folded : Folded shown

namespace Tiling

variable {data : List UInt8} {k : Nat} {shown : List Line}

theorem cons (tiling : Tiling data (k + 1) shown) (inside : 16 * k < data.length) {line : Line}
    (shows : line.Shows data) (first : line.first = 16 * k)
    (last : line.last = min (16 * (k + 1)) data.length - 1)
    (apart : ∀ next ∈ shown.head?, ¬ (line.isZeros = true ∧ next.isZeros = true)) :
    Tiling data k (line :: shown) where
  shows := List.forall_mem_cons.2 ⟨shows, tiling.shows⟩
  tiles := by
    have next : min (16 * (k + 1)) data.length = line.last + 1 := by omega
    exact ⟨by omega, by omega, next ▸ tiling.tiles⟩
  folded := List.isChain_cons.2 ⟨apart, tiling.folded⟩

theorem merge_zeros {start last : Nat} (tiling : Tiling data (k + 1) (.zeros start last :: shown))
    (blank : IsBlank data k) : Tiling data k (.zeros (16 * k) last :: shown) where
  shows := by
    obtain ⟨zeros, onward⟩ := List.forall_mem_cons.1 tiling.shows
    have starts : start = min (16 * (k + 1)) data.length := tiling.tiles.1
    refine List.forall_mem_cons.2 ⟨?_, onward⟩
    cases zeros with
    | zeros i j nonempty rows =>
      have inside := (rows i (Nat.le_refl i) nonempty).1
      obtain rfl : i = k + 1 := by omega
      refine .zeros k j (by omega) fun row from_k to_j => ?_
      rcases Nat.eq_or_lt_of_le from_k with rfl | later
      · exact blank
      · exact rows row later to_j
  tiles := by
    obtain ⟨starts, ordered, onward⟩ := tiling.tiles
    have inside := blank.1
    simp only [Line.last] at ordered onward
    exact ⟨by simp only [Line.first]; omega, by simp only [Line.last]; omega, onward⟩
  folded := by
    obtain ⟨next, onward⟩ := List.isChain_cons.1 tiling.folded
    exact List.isChain_cons.2 ⟨next, onward⟩

theorem fold (tiling : Tiling data (k + 1) shown) (inside : 16 * k < data.length) :
    Tiling data k (fold (lineOf (16 * k) (Rows.row 16 data k)) shown) := by
  have last := last_row_eq inside
  by_cases zeros : (Rows.row 16 data k).all (· == 0) = true
  · have line : lineOf (16 * k) (Rows.row 16 data k) =
        .zeros (16 * k) (min (16 * (k + 1)) data.length - 1) := by
      rw [← last]
      exact if_pos zeros
    have blank : IsBlank data k := ⟨inside, by simpa using zeros⟩
    have shows : Line.Shows data (.zeros (16 * k) (min (16 * (k + 1)) data.length - 1)) := by
      refine .zeros k (k + 1) (Nat.lt_succ_self k) fun row from_k to_k => ?_
      obtain rfl : row = k := by omega
      exact blank
    rw [line]
-- Zeros are only merged if the next line is one of zeros, too.
    rcases shown with _ | ⟨⟨start, stop⟩ | ⟨start, stop, values⟩, rest⟩
    · exact tiling.cons inside shows rfl rfl fun _ head => absurd head (Option.not_mem_none _)
    · exact tiling.merge_zeros blank
    · refine tiling.cons inside shows rfl rfl ?_
      rintro _ ⟨⟩ ⟨_, ⟨⟩⟩
  · have line : lineOf (16 * k) (Rows.row 16 data k) =
        .words (16 * k) (min (16 * (k + 1)) data.length - 1) (wordsOf (Rows.row 16 data k)) := by
      rw [← last]
      exact if_neg zeros
    have filled : ¬ IsBlank data k := fun blank => zeros (by simpa using blank.2)
    rw [line]
    exact tiling.cons inside (.words k inside filled) rfl rfl fun _ _ both =>
      Bool.false_ne_true both.1

end Tiling

theorem tiling_linesFrom (data : List UInt8) (k : Nat) :
    Tiling data k (linesFrom (16 * k) (data.drop (16 * k))) := by
  rcases Nat.lt_or_ge (16 * k) data.length with inside | outside
  · have filled : data.drop (16 * k) ≠ [] := by
      rw [ne_eq, List.drop_eq_nil_iff]
      omega
    have row : (data.drop (16 * k)).take bytesPerRow = Rows.row 16 data k := by
      rw [Rows.row, Nat.mul_comm]
      rfl
    have rest : linesFrom (16 * k + bytesPerRow) ((data.drop (16 * k)).drop bytesPerRow) =
        linesFrom (16 * (k + 1)) (data.drop (16 * (k + 1))) := by
      rw [List.drop_drop]
      rfl
    rw [linesFrom_of_ne_nil _ filled, row, rest]
    exact (tiling_linesFrom data (k + 1)).fold inside
  · rw [List.drop_eq_nil_of_le outside, linesFrom_nil]
    exact ⟨fun _ member => absurd member List.not_mem_nil, Nat.min_eq_right outside, List.isChain_nil⟩
termination_by data.length - 16 * k

theorem tiling_lines (data : List UInt8) : Tiling data 0 (lines data) := by
  rw [← linesFrom_zero]
  exact tiling_linesFrom data 0

namespace Tiling

variable {data : List UInt8} {shown : List Line} (tiling : Tiling data 0 shown)

include tiling

theorem tiles_zero : Tiles 0 shown data.length := by
  have tiles := tiling.tiles
  rwa [Nat.mul_zero, Nat.zero_min] at tiles

theorem eq_nil_iff : shown = [] ↔ data = [] := by
  have tiles := tiling.tiles_zero
  rw [← List.length_eq_zero_iff (l := data)]
  rcases shown with _ | ⟨line, rest⟩
  · exact ⟨fun _ => tiles.symm, fun _ => rfl⟩
  · have behind := tiles.2.2.le
    exact ⟨nofun, fun _ => by omega⟩

theorem not_isBlank_behind {front back : List Line} {i j : Nat} (nonempty : i < j)
    (split : shown = front ++ .zeros (16 * i) (min (16 * j) data.length - 1) :: back) :
    ¬ IsBlank data j := by
  intro blank
  have inside := blank.1
  obtain ⟨middle, _, tiles⟩ := tiles_append.1 (split ▸ tiling.tiles_zero)
  obtain ⟨_, _, onward⟩ := tiles
  rcases back with _ | ⟨next, back⟩
  · simp only [Tiles, Line.last] at onward
    omega
  · have apart := (List.isChain_append_cons_cons.1 (split ▸ tiling.folded)).2.1
    have starts : next.first = min (16 * j) data.length - 1 + 1 := onward.1
    cases tiling.shows next (by simp [split]) with
    | zeros => exact apart ⟨rfl, rfl⟩
    | words k _ filled =>
      simp only [Line.first] at starts
-- The line starts where the zeros end, so its row is the one that was taken for blank.
      obtain rfl : k = j := by omega
      exact filled blank

theorem not_isBlank_before {front back : List Line} {k last : Nat}
    (inside : 16 * (k + 1) < data.length)
    (split : shown = front ++ .zeros (16 * (k + 1)) last :: back) : ¬ IsBlank data k := by
  intro blank
  obtain ⟨middle, ahead, tiles⟩ := tiles_append.1 (split ▸ tiling.tiles_zero)
  have starts : 16 * (k + 1) = middle := tiles.1
  rcases List.eq_nil_or_concat front with rfl | ⟨front, previous, rfl⟩
  · simp only [Tiles] at ahead
    omega
  · rw [List.concat_append] at split
    have apart := (List.isChain_append_cons_cons.1 (split ▸ tiling.folded)).2.1
    rw [List.concat_eq_append] at ahead
    obtain ⟨_, _, _, _, ends⟩ := tiles_append.1 ahead
    simp only [Tiles] at ends
    cases tiling.shows previous (by simp [split]) with
    | zeros => exact apart ⟨rfl, rfl⟩
    | words row _ filled =>
      simp only [Line.last] at ends
      obtain rfl : row = k := by omega
      exact filled blank

theorem exists_run_of_mem {first last : Nat} (member : .zeros first last ∈ shown) :
    ∃ i j, BlankRun data i j ∧ first = 16 * i ∧ last = min (16 * j) data.length - 1 := by
  obtain ⟨front, back, split⟩ := List.append_of_mem member
  cases tiling.shows _ member with
  | zeros i j nonempty blank =>
    have inside := (blank i (Nat.le_refl i) nonempty).1
    refine ⟨i, j, ⟨nonempty, blank, ?_, tiling.not_isBlank_behind nonempty split⟩, rfl, rfl⟩
    rintro k rfl
    exact tiling.not_isBlank_before inside split

theorem exists_line_of_row {k : Nat} (inside : 16 * k < data.length) :
    (∃ i j, BlankRun data i j ∧ (i ≤ k ∧ k < j) ∧
      .zeros (16 * i) (min (16 * j) data.length - 1) ∈ shown) ∨
    (¬ IsBlank data k ∧
      .words (16 * k) (min (16 * (k + 1)) data.length - 1) (wordsOf (Rows.row 16 data k)) ∈ shown) := by
  obtain ⟨line, member, starts, ends⟩ := tiling.tiles_zero.exists_mem (Nat.zero_le _) inside
  cases tiling.shows line member with
  | zeros i j nonempty blank =>
    simp only [Line.first, Line.last] at starts ends
    obtain ⟨i', j', run, first, last⟩ := tiling.exists_run_of_mem member
    have nonempty := run.nonempty
    rw [first, last] at member
    exact .inl ⟨i', j', run, by omega, member⟩
  | words row _ filled =>
    simp only [Line.first, Line.last] at starts ends
    obtain rfl : row = k := by omega
    exact .inr ⟨filled, member⟩

theorem zeros_mem_iff {first last : Nat} :
    .zeros first last ∈ shown ↔
      ∃ i j, BlankRun data i j ∧ first = 16 * i ∧ last = min (16 * j) data.length - 1 := by
  refine ⟨tiling.exists_run_of_mem, ?_⟩
  rintro ⟨i, j, run, rfl, rfl⟩
  have blank := run.blank i (Nat.le_refl i) run.nonempty
  rcases tiling.exists_line_of_row blank.1 with ⟨i', j', run', inside, member⟩ | ⟨filled, _⟩
  · obtain ⟨rfl, rfl⟩ := run.unique run' ⟨Nat.le_refl i, run.nonempty⟩ inside
    exact member
  · exact absurd blank filled

theorem words_mem_iff {first last : Nat} {values : List UInt16} :
    .words first last values ∈ shown ↔
      ∃ k, 16 * k < data.length ∧ ¬ IsBlank data k ∧ first = 16 * k ∧
        last = min (16 * (k + 1)) data.length - 1 ∧ values = wordsOf (Rows.row 16 data k) := by
  constructor
  · intro member
    cases tiling.shows _ member with
    | words k inside filled => exact ⟨k, inside, filled, rfl, rfl, rfl⟩
  · rintro ⟨k, inside, filled, rfl, rfl, rfl⟩
    rcases tiling.exists_line_of_row inside with ⟨i, j, run, ⟨from_i, to_j⟩, _⟩ | ⟨_, member⟩
    · exact absurd (run.blank k from_i to_j) filled
    · exact member

end Tiling

theorem getElem?_wordsOf (row : List UInt8) (x : Nat) :
    (wordsOf row)[x]? = row[2 * x]?.map fun high => ofBytes high (row[2 * x + 1]?.getD 0) := by
  induction row using wordsOf.induct generalizing x with
  | case1 => simp [wordsOf]
  | case2 high => cases x <;> simp [wordsOf, Nat.mul_succ]
  | case3 high low rest ih =>
    cases x with
    | zero => simp [wordsOf]
    | succ x => simp [wordsOf, ih, Nat.mul_succ]

theorem exists_nonzero_iff {data : List UInt8} {k : Nat} :
    (∃ value ∈ Rows.row 16 data k, value ≠ 0) ↔ 16 * k < data.length ∧ ¬ IsBlank data k := by
  constructor
  · rintro ⟨value, member, nonzero⟩
    have length := List.length_pos_of_mem member
    rw [length_row] at length
    exact ⟨by omega, fun blank => nonzero (blank.2 value member)⟩
  · rintro ⟨inside, filled⟩
    by_contra zero
    exact filled ⟨inside, fun value member => by_contra fun nonzero => zero ⟨value, member, nonzero⟩⟩

theorem takeWhile_tabs (levels : Nat) (line : Line) :
    (indent levels line.text).toList.takeWhile (· == '\t') = List.replicate levels '\t' := by
  rw [Line.text_eq, indent]
  simp only [String.toList_append, String.toList_ofList, toList_range, toList_hex, List.cons_append]
  rw [List.takeWhile_append_of_pos (by simp)]
  simp

theorem levels_eq_of_indent_eq {levels levels' : Nat} {line line' : Line}
    (same : indent levels line.text = indent levels' line'.text) : levels = levels' := by
  have tabs := congrArg (fun text : String => text.toList.takeWhile (· == '\t')) same
  simp only [takeWhile_tabs] at tabs
  simpa using congrArg List.length tabs

theorem joinLines_eq_empty_iff {levels : Nat} {data : List UInt8} :
    joinLines (bytes levels data) = "" ↔ data = [] := by
  rw [← (tiling_lines data).eq_nil_iff, bytes]
  constructor
  · intro blank
    rcases shown : lines data with _ | ⟨line, rest⟩
    · rfl
    have letters := congrArg String.toList blank
    rw [joinLines, shown, List.map_cons, Line.text_eq] at letters
    simp [indent, toList_range] at letters
  · intro bare
    rw [bare]
    rfl

theorem joinLines_bytes_inj {levels levels' : Nat} {data data' : List UInt8}
    (same : joinLines (bytes levels data) = joinLines (bytes levels' data')) : data = data' := by
  by_cases bare : data = []
  · rw [bare]
    exact (joinLines_eq_empty_iff.1 (same.symm.trans (joinLines_eq_empty_iff.2 bare))).symm
  have filled' : data' ≠ [] := fun bare' =>
    bare (joinLines_eq_empty_iff.1 (same.trans (joinLines_eq_empty_iff.2 bare')))
  have shows {levels : Nat} {data : List UInt8} (filled : data ≠ []) : bytes levels data ≠ [] :=
    fun blank => filled ((tiling_lines data).eq_nil_iff.1 (List.map_eq_nil_iff.1 blank))
  have texts := joinLines_inj (shows bare) (shows filled') (fun _ => isLine_of_mem_bytes)
    (fun _ => isLine_of_mem_bytes) same
  obtain ⟨text, member⟩ := List.exists_mem_of_ne_nil _ (shows bare)
  obtain ⟨line, _, shown⟩ := List.mem_map.1 member
  obtain ⟨line', _, shown'⟩ := List.mem_map.1 (texts ▸ member)
  obtain rfl := levels_eq_of_indent_eq (shown.trans shown'.symm)
  exact bytes_injective levels texts

/-- The dump of any data: lines with ranges that tile the positions of the data, one with its words for
every row that holds something, and one for every run of rows that hold nothing, so that no two of those
follow each other. The text determines the data. -/
theorem dump_tiles_and_determines_data (levels : Nat) (data : List UInt8) :
    let shown := lines data
    let length := data.length
    bytes levels data =
        shown.map (fun line => indent levels (range line.first line.last ++ " " ++ line.content)) ∧
      Tiles 0 shown length ∧ (shown = [] ↔ data = []) ∧
      (∀ first last values, .words first last values ∈ shown ↔
        ∃ k, let row := Rows.row 16 data k
          (∃ value ∈ row, value ≠ 0) ∧ first = 16 * k ∧ last = min (16 * (k + 1)) length - 1 ∧
          ∀ x, values[x]? = row[2 * x]?.map fun high => ofBytes high (row[2 * x + 1]?.getD 0)) ∧
      (∀ first last, .zeros first last ∈ shown ↔
        ∃ i j, BlankRun data i j ∧ first = 16 * i ∧ last = min (16 * j) length - 1) ∧
      Folded shown ∧
      ∀ levels' other, joinLines (bytes levels' other) = joinLines (bytes levels data) → other = data := by
  intro shown length
  have tiling := tiling_lines data
  refine ⟨?_, tiling.tiles_zero, tiling.eq_nil_iff, fun first last values => ?_,
    fun first last => tiling.zeros_mem_iff, tiling.folded, fun _ _ => joinLines_bytes_inj⟩
  · simp only [bytes, Line.text_eq, shown]
  · rw [tiling.words_mem_iff]
    refine exists_congr fun k => ?_
    have same : values = wordsOf (Rows.row 16 data k) ↔ ∀ x, values[x]? =
        (Rows.row 16 data k)[2 * x]?.map fun high =>
          ofBytes high ((Rows.row 16 data k)[2 * x + 1]?.getD 0) := by
      simp only [← getElem?_wordsOf]
      exact List.ext_getElem?_iff
    simp only [exists_nonzero_iff, and_assoc, same, length]

theorem folded_dump_tiles :
    let data := List.replicate 32 0 ++ [1, 2, 3]
    BlankRun data 0 2 ∧ .zeros 0 31 ∈ lines data ∧
      (∃ value ∈ Rows.row 16 data 2, value ≠ 0) ∧ .words 32 34 [0x0102, 0x0300] ∈ lines data ∧
      ∀ other, joinLines (bytes 2 other) = joinLines (bytes 1 data) → other = data := by
  intro data
  obtain ⟨_, _, _, words, zeros, _, determined⟩ := dump_tiles_and_determines_data 1 data
  have zeros_of_row {k : Nat} (row : Rows.row 16 data k = List.replicate 16 0) :
      ∀ value ∈ Rows.row 16 data k, value = 0 :=
    fun _ member => List.eq_of_mem_replicate (row ▸ member)
  have blank (k : Nat) (inside : k < 2) : IsBlank data k := by
    obtain rfl | rfl : k = 0 ∨ k = 1 := by omega
    · exact ⟨by decide, zeros_of_row rfl⟩
    · exact ⟨by decide, zeros_of_row rfl⟩
  have run : BlankRun data 0 2 := ⟨by decide, fun k _ => blank k, nofun, fun blank =>
    absurd (blank.2 1 (by decide)) (by decide)⟩
  have filled : ∃ value ∈ Rows.row 16 data 2, value ≠ 0 := ⟨1, by decide, by decide⟩
  refine ⟨run, (zeros 0 31).2 ⟨0, 2, run, rfl, by decide⟩, filled, ?_, determined 2⟩
  refine (words 32 34 _).2 ⟨2, filled, rfl, by decide, fun x => ?_⟩
  rw [← getElem?_wordsOf]
  rfl

end SpriteMachine.Dump
