import SpriteMachine.Text.Unseen

/-! A character in single quotes, as journals show it. Quotes and backslashes are escaped, and what has
no picture is written by name or by its code point. -/

namespace SpriteMachine.Text

def codePoint (c : Char) : String :=
  "\\u\x7b" ++ String.ofList (Nat.toDigits 16 c.toNat) ++ "\x7d"

def escaped (c : Char) : String :=
  match c with
  | '\x00' => "\\0"
  | '\t' => "\\t"
  | '\n' => "\\n"
  | '\r' => "\\r"
  | '\\' => "\\\\"
  | '\'' => "\\'"
  | _ => if isUnseen c then codePoint c else c.toString

def quoted (c : Char) : String :=
  "'" ++ escaped c ++ "'"

end SpriteMachine.Text
