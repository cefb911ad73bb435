import LexScan.Text

/-!
# JSON

Values with natural numbers only, and their compact form: no white space, the
members of an object in the order they are given, and no character below U+0020
as itself.
-/

namespace LexScan

inductive JsonValue where
  | number (n : Nat)
  | string (t : Text)
  | array (items : List JsonValue)
  | object (members : List (Text × JsonValue))

namespace JsonValue

/-- A control character as an escape with four digits. -/
def unicodeEscape (c : Char) : Text :=
  ['\\', 'u', '0', '0', Nat.digitChar (c.toNat / 16), Nat.digitChar (c.toNat % 16)]

def escapedChar (c : Char) : Text :=
  if c = '"' then ['\\', '"']
  else if c = '\\' then ['\\', '\\']
  else if c = '\x08' then ['\\', 'b']
  else if c = '\t' then ['\\', 't']
  else if c = '\n' then ['\\', 'n']
  else if c = '\x0c' then ['\\', 'f']
  else if c = '\r' then ['\\', 'r']
  else if c.toNat < 0x20 then unicodeEscape c
  else [c]

def renderString (t : Text) : Text := ['"'] ++ t.flatMap escapedChar ++ ['"']

mutual

/-- The compact form of a value. -/
def render : JsonValue → Text
  | number n => Text.ofNat n
  | string t => renderString t
  | array items => ['['] ++ renderItems items ++ [']']
  | object members => ['{'] ++ renderMembers members ++ ['}']

def renderItems : List JsonValue → Text
  | [] => []
  | [item] => render item
  | item :: items => render item ++ [','] ++ renderItems items

def renderMembers : List (Text × JsonValue) → Text
  | [] => []
  | [(key, value)] => renderString key ++ [':'] ++ render value
  | (key, value) :: members =>
      renderString key ++ [':'] ++ render value ++ [','] ++ renderMembers members

end

end JsonValue

end LexScan
