/-! Numbers as every message and every dump writes them: the mark `0x` and upper-case hexadecimal
digits, at least four of them and as many more as the number needs. -/

namespace SpriteMachine.Text

def hexDigits (n : Nat) : List Char :=
  (Nat.toDigits 16 n).map Char.toUpper

/-- Short numbers are filled with zeros on the left. -/
def hex (n : Nat) : String :=
  "0x" ++ String.ofList ((hexDigits n).leftpad 4 '0')

theorem hexDigits_of_lt {n : Nat} (small : n < 16) :
    hexDigits n = [(Nat.digitChar n).toUpper] := by
  simp [hexDigits, Nat.toDigits_of_lt_base small]

theorem hexDigits_of_le {n : Nat} (large : 16 ≤ n) :
    hexDigits n = hexDigits (n / 16) ++ hexDigits (n % 16) := by
  rw [hexDigits_of_lt (Nat.mod_lt n (by decide))]
  simp [hexDigits, Nat.toDigits_of_base_le (by decide) large]

example : hex 0 = "0x0000" ∧ hex 171 = "0x00AB" ∧ hex 65536 = "0x10000" := by decide +kernel

end SpriteMachine.Text
