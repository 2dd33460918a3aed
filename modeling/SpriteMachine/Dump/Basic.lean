import SpriteMachine.Rows
import SpriteMachine.Text.Hex

/-! The layout that all dumps share: lines under headings, indented by tabulators, and long lists in rows
of eight values that start with the range of their positions. -/

namespace SpriteMachine.Dump

open Text (hex)

def valuesPerRow : Nat := 8

def valueWidth : Nat := 6

def depth : Nat := 2

def indent (levels : Nat) (text : String) : String :=
  String.ofList (List.replicate levels '\t') ++ text

def joinLines (lines : List String) : String :=
  "\n".intercalate lines

def range (first last : Nat) : String :=
  hex first ++ " - " ++ hex last ++ " :"

/-- Every word but the last is filled up to the width of a number. -/
def columns : List String → String
  | [] => ""
  | [word] => word
  | word :: rest =>
    word ++ String.ofList (List.replicate (valueWidth - word.length) ' ') ++ " " ++ columns rest

def table (words : List String) : List String :=
  (Rows.cut valuesPerRow words).mapIdx fun k row =>
    let first := k * valuesPerRow
    indent depth (range first (first + row.length - 1) ++ " " ++ columns row)

def numbers (values : List Nat) : List String :=
  table (values.map hex)

def flags (values : List Bool) : List String :=
  table (values.map fun value => if value then "true" else "false")

def titled (title : String) (lines : List String) : List String :=
  indent 1 (title ++ " :") :: lines

def number (value : Nat) : List String :=
  [indent depth (hex value)]

end SpriteMachine.Dump
