import TokenAuth.Text.Hex
import TokenAuth.Text.Visible

/-! Texts between quotes, for messages: what cannot be seen by itself is escaped. -/

namespace TokenAuth.Text

/-- The hexadecimal digits of a number without leading zeros. -/
def hexDigits (n : Nat) : List Char :=
  if n < 16 then [Char.ofNat (Hex.digit n).toNat]
  else hexDigits (n / 16) ++ [Char.ofNat (Hex.digit (n % 16)).toNat]

def quoteChar (c : Char) : List Char :=
  if c = '"' then ['\\', '"']
  else if c = '\\' then ['\\', '\\']
  else if c = '\n' then ['\\', 'n']
  else if c = '\r' then ['\\', 'r']
  else if c = '\t' then ['\\', 't']
  else if c = '\x00' then ['\\', '0']
  else if isVisible c then [c]
  else ['\\', 'u', '\x7b'] ++ hexDigits c.toNat ++ ['\x7d']

/-- A text between double quotes. -/
def quoted (s : String) : String := String.ofList ('"' :: s.toList.flatMap quoteChar ++ ['"'])

end TokenAuth.Text
