import LexScan.Text
import LexScan.Unicode.Unshown

/-!
# Quoted texts

How diagnostics show a text: between double quotes, with a backslash before
quotes and backslashes, letters for the common control characters, and code
points in braces for all characters that have no shape of their own.
-/

namespace LexScan.Text

/-- A code point in braces. -/
def codePointEscape (c : Char) : Text :=
  ['\\', 'u', '{'] ++ Nat.toDigits 16 c.toNat ++ ['}']

def quotedChar (c : Char) : Text :=
  if c = '\x00' then ['\\', '0']
  else if c = '\t' then ['\\', 't']
  else if c = '\r' then ['\\', 'r']
  else if c = '\n' then ['\\', 'n']
  else if c = '\\' ∨ c = '"' then ['\\', c]
  else if Unicode.holds Unicode.unshown c.toNat then codePointEscape c
  else [c]

def quoted (t : Text) : Text := ['"'] ++ t.flatMap quotedChar ++ ['"']

end LexScan.Text
