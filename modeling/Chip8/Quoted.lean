import Chip8.Numeral
import Chip8.Quoted.Hidden

/-!
# Quoted characters

A character between single quotes, written so that it can be told from any other: the quote and
the backslash follow a backslash, the common controls have letters of their own, and other
characters without a visible form are written by their code point.
-/

namespace Chip8.Quoted

/-- A character written by its code point. -/
def codePoint (c : Char) : String := "\\u\x7b" ++ Numeral.hex 1 c.toNat ++ "\x7d"

/-- What stands for a character between the quotes. -/
def body (c : Char) : String :=
  if c = '\'' then "\\'"
  else if c = '\\' then "\\\\"
  else if c = '\x00' then "\\0"
  else if c = '\t' then "\\t"
  else if c = '\n' then "\\n"
  else if c = '\r' then "\\r"
  else if ' ' ≤ c ∧ c ≤ '~' then String.singleton c
  else if c < ' ' ∨ c = '\x7f' ∨ isHidden c then codePoint c
  else String.singleton c

/-- A character between single quotes. -/
def char (c : Char) : String := "'" ++ body c ++ "'"

end Chip8.Quoted
