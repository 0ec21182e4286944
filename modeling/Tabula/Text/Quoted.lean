import Tabula.Text.Printable

/-!
# Quoted text

The quoted form of a text, as it appears in messages and in the written form of lists and
tables: single quotes, unless the text holds a single quote and no double quote; a backslash
before the chosen quote and before a backslash; `\t`, `\n`, `\r` for tab, newline and carriage
return; other control characters and non-printable characters as `\xNN`, `\uNNNN` or
`\UNNNNNNNN` in lower-case hexadecimal. Byte strings get a `b` prefix and escape every byte
outside printable ASCII as `\xNN`.
-/

namespace Tabula.Text

/-- The lower-case hexadecimal digits of `n`, padded with zeros to `width`. -/
def hexDigits (width n : Nat) : List Char :=
  let ds := Nat.toDigits 16 n
  List.replicate (width - ds.length) '0' ++ ds

/-- The quote character that the quoted form of `cs` uses. -/
def quoteFor (cs : List Char) : Char :=
  if cs.contains '\'' && !cs.contains '"' then '"' else '\''

/-- The escaped form of one character inside quotes `q`. -/
def escapeChar (q c : Char) : List Char :=
  if c == q || c == '\\' then ['\\', c]
  else if c == '\t' then ['\\', 't']
  else if c == '\n' then ['\\', 'n']
  else if c == '\r' then ['\\', 'r']
  else if c.toNat < 0x20 || c.toNat == 0x7f then '\\' :: 'x' :: hexDigits 2 c.toNat
  else if c.toNat < 0x7f then [c]
  else if isPrintable c then [c]
  else if c.toNat ≤ 0xff then '\\' :: 'x' :: hexDigits 2 c.toNat
  else if c.toNat ≤ 0xffff then '\\' :: 'u' :: hexDigits 4 c.toNat
  else '\\' :: 'U' :: hexDigits 8 c.toNat

/-- The quoted form of a text. -/
def quote (s : String) : String :=
  let cs := s.toList
  let q := quoteFor cs
  String.ofList (q :: cs.flatMap (escapeChar q) ++ [q])

/-- The escaped form of one byte inside quotes `q`. -/
def escapeByte (q : Char) (b : UInt8) : List Char :=
  let c := Char.ofNat b.toNat
  if c == q || c == '\\' then ['\\', c]
  else if c == '\t' then ['\\', 't']
  else if c == '\n' then ['\\', 'n']
  else if c == '\r' then ['\\', 'r']
  else if b.toNat < 0x20 || b.toNat ≥ 0x7f then '\\' :: 'x' :: hexDigits 2 b.toNat
  else [c]

/-- The quoted form of a byte string. -/
def quoteBytes (bs : List UInt8) : String :=
  let cs := bs.map fun b => Char.ofNat b.toNat
  let q := quoteFor cs
  String.ofList ('b' :: q :: bs.flatMap (escapeByte q) ++ [q])

example : quote "it's" = "\"it's\"" ∧ quote "a\nb" = "'a\\nb'" ∧ quote "\x00" = "'\\x00'" := by
  decide

end Tabula.Text
