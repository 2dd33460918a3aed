import SpriteMachine.Dump.Basic
import SpriteMachine.Word

/-! Dumps of raw bytes, sixteen to a row, as big-endian words. Rows without a set bit that follow each
other are folded into one line. -/

namespace SpriteMachine.Dump

open Text (hex)

def bytesPerRow : Nat := valuesPerRow * Word.width

inductive Line where
  | zeros (first last : Nat)
  | words (first last : Nat) (values : List UInt16)
  deriving DecidableEq, Repr

/-- A trailing byte without a partner is the high byte of a word. -/
def wordsOf : List UInt8 → List UInt16
  | [] => []
  | [high] => [Word.ofBytes high 0]
  | high :: low :: rest => Word.ofBytes high low :: wordsOf rest

def lineOf (first : Nat) (row : List UInt8) : Line :=
  let last := first + row.length - 1
  if row.all (· == 0) then .zeros first last else .words first last (wordsOf row)

/-- Puts a line in front of others. Two lines of zeros become one. -/
def fold : Line → List Line → List Line
  | .zeros first _, .zeros _ last :: rest => .zeros first last :: rest
  | line, rest => line :: rest

def lines (data : List UInt8) : List Line :=
  ((Rows.cut bytesPerRow data).mapIdx fun k row => lineOf (k * bytesPerRow) row).foldr fold []

def filler : String :=
  let dots := "..."
  let gap := (valueWidth * (valuesPerRow - 2) + (valuesPerRow - 1) - dots.length) / 2
  let blanks := String.ofList (List.replicate gap ' ')
  hex 0 ++ blanks ++ dots ++ blanks ++ hex 0

def Line.text : Line → String
  | zeros first last => range first last ++ " " ++ filler
  | words first last values =>
    range first last ++ " " ++ " ".intercalate (values.map fun value => hex value.toNat)

def bytes (levels : Nat) (data : List UInt8) : List String :=
  (lines data).map fun line => indent levels line.text

end SpriteMachine.Dump
