import SchemaLinker.Text.Printable

/-!
# `SchemaLinker.Text.Quoted`: text between double quotes

`quoted` writes a text between double quotes. Tab, line feed, carriage
return and NUL have short escapes, a quote and a backslash are escaped
by a backslash, and any other character that cannot be shown as itself
is written as its code point in hexadecimal, `\u{..}`.
-/

set_option autoImplicit false

namespace SchemaLinker.Text

/-- One character as it stands between quotes. -/
def quotedChar (c : Char) : List Char :=
  if c = '\t' then ['\\', 't']
  else if c = '\n' then ['\\', 'n']
  else if c = '\r' then ['\\', 'r']
  else if c = '\x00' then ['\\', '0']
  else if c = '"' ∨ c = '\\' then ['\\', c]
  else if isPrintable c then [c]
  else ['\\', 'u', '{'] ++ Nat.toDigits 16 c.toNat ++ ['}']

/-- The text between double quotes. -/
def quoted (s : String) : String :=
  String.ofList (['"'] ++ s.toList.flatMap quotedChar ++ ['"'])

end SchemaLinker.Text
