import AsmFormat.Text.Unseen

/-!
# Quoted text

Messages show a text between double quotes. The quote, the backslash and the usual controls have
two-character escapes. Every other unseen character is written by its number, as in `\u{1}`, and a
character that leaves a mark stands for itself.
-/

set_option autoImplicit false

namespace AsmFormat.Text

/-- The quoted form of one character. -/
def quoteChar (c : Char) : Text :=
  if c = '"' then ['\\', '"']
  else if c = '\\' then ['\\', '\\']
  else if c = '\n' then ['\\', 'n']
  else if c = '\r' then ['\\', 'r']
  else if c = '\t' then ['\\', 't']
  else if c = '\x00' then ['\\', '0']
  else if isUnseen c then ['\\', 'u', '\x7b'] ++ Nat.toDigits 16 c.toNat ++ ['\x7d']
  else [c]

/-- The text between double quotes, with escapes. -/
def quoted (t : Text) : Text :=
  '"' :: (t.flatMap quoteChar ++ ['"'])

end AsmFormat.Text
