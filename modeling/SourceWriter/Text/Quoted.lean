import SourceWriter.Text.Unprintable

/-! # Quoted texts

Messages show a text between double quotes. The double quote, the backslash and the common
controls are written with a backslash, and every other character that has no shape of its own by
its code point in hexadecimal digits.
-/

namespace SourceWriter.Text

/-- A character by its code point: a backslash, a `u`, and lower case digits in braces. -/
def codePoint (character : Char) : Text :=
  ['\\', 'u', '{'] ++ Nat.toDigits 16 character.toNat ++ ['}']

/-- A character as it stands in a quoted text. -/
def quotedChar (character : Char) : Text :=
  match character with
  | '\x00' => ['\\', '0']
  | '\t' => ['\\', 't']
  | '\r' => ['\\', 'r']
  | '\n' => ['\\', 'n']
  | '"' => ['\\', '"']
  | '\\' => ['\\', '\\']
  | _ =>
    if character.toNat < 0x20 then codePoint character
    else if character.toNat < 0x7f then [character]
    else if isUnprintable character then codePoint character
    else [character]

/-- A text between double quotes, with every character readable. -/
def quoted (text : Text) : Text :=
  ['"'] ++ text.flatMap quotedChar ++ ['"']

end SourceWriter.Text
