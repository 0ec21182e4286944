/-!
# UTF-8

The texts of the table engine are byte strings meant to hold UTF-8. Three views of such bytes
are used:

* `encode` writes characters (and `encodePoint` any code point of up to 21 bits, surrogates
  included) as UTF-8;
* `decode?` reads well-formed UTF-8 only: no overlong form, no surrogate, nothing above
  U+10FFFF, no stray or missing continuation byte;
* `glyphs` and `glyphPoint` read any bytes the way the engine's text functions step through
  them, which never fails. A character starts at every byte that is not a continuation byte
  (`10xxxxxx`), and at a continuation byte that follows no lead byte; a lead byte `11xxxxxx`
  takes every continuation byte after it. Its code point is the lead byte's payload followed
  by six bits of each continuation byte; a result below `0x80`, a surrogate, or a code point
  ending in `FFFE` or `FFFF` reads as U+FFFD.
-/

namespace Tabula.Text

/-- The UTF-8 bytes of a code point of up to 21 bits; surrogates are written like any other
code point. -/
def encodePoint (n : Nat) : List UInt8 :=
  let n := n % 0x200000
  if n < 0x80 then [n.toUInt8]
  else if n < 0x800 then [(0xc0 + n / 64).toUInt8, (0x80 + n % 64).toUInt8]
  else if n < 0x10000 then
    [(0xe0 + n / 4096).toUInt8, (0x80 + n / 64 % 64).toUInt8, (0x80 + n % 64).toUInt8]
  else
    [(0xf0 + n / 262144).toUInt8, (0x80 + n / 4096 % 64).toUInt8,
     (0x80 + n / 64 % 64).toUInt8, (0x80 + n % 64).toUInt8]

/-- The UTF-8 bytes of characters. -/
def encodeChars (cs : List Char) : List UInt8 := cs.flatMap fun c => encodePoint c.toNat

/-- The UTF-8 bytes of a text. -/
def encode (s : String) : List UInt8 := encodeChars s.toList

/-- Whether a byte continues a character: `10xxxxxx`. -/
def isContinuation (b : UInt8) : Bool := b.toNat / 64 == 2

/-- Splits bytes into characters as the engine steps through them; `cur` is the character
being read, last byte first, and `accepting` says whether it takes continuation bytes. -/
def glyphsFrom (cur : List UInt8) (accepting : Bool) : List UInt8 → List (List UInt8)
  | [] => if cur.isEmpty then [] else [cur.reverse]
  | b :: bs =>
    if accepting && isContinuation b then glyphsFrom (b :: cur) true bs
    else
      let rest := glyphsFrom [b] (b.toNat ≥ 0xc0) bs
      if cur.isEmpty then rest else cur.reverse :: rest

/-- The characters of bytes, each as its bytes, as the engine steps through them. -/
def glyphs (bs : List UInt8) : List (List UInt8) := glyphsFrom [] false bs

/-- The bits a lead byte gives its code point. -/
def leadPayload (b : UInt8) : Nat :=
  let n := b.toNat
  if n < 0xe0 then n % 32
  else if n < 0xf0 then n % 16
  else if n < 0xf8 then n % 8
  else if n < 0xfc then n % 4
  else if n < 0xfe then n % 2
  else 0

/-- The code point that the bytes of one character spell: a byte below `0xc0` alone, else the
lead byte's payload followed by six bits of each continuation byte, kept to 32 bits. -/
def glyphBits : List UInt8 → Nat
  | [] => 0xfffd
  | b :: cs =>
    if b.toNat < 0xc0 then b.toNat
    else cs.foldl (fun acc x => (acc * 64 + x.toNat % 64) % Nat.pow 2 32) (leadPayload b)

/-- The code point of a character as the engine reads it, kept to 32 bits. -/
def glyphPoint (g : List UInt8) : Nat :=
  match g with
  | [] => 0xfffd
  | b :: _ =>
    if b.toNat < 0xc0 then b.toNat
    else
      let c := glyphBits g
      if c < 0x80 || c / 2048 == 0xd800 / 2048 || c / 2 == 0xfffe / 2 then 0xfffd else c

/-- A code point as a character; one that no character has reads as U+FFFD. -/
def pointChar (n : Nat) : Char :=
  if n.isValidChar then Char.ofNat n else '\uFFFD'

/-- The characters of bytes as the engine reads them. -/
def lenientChars (bs : List UInt8) : List Char :=
  (glyphs bs).map fun g => pointChar (glyphPoint g)

/-- Whether the bytes of one character, as `glyphs` splits them, are well-formed UTF-8. -/
def wellFormedGlyph : List UInt8 → Bool
  | [b] => b.toNat < 0x80
  | [b, _] => 0xc2 ≤ b.toNat && b.toNat ≤ 0xdf
  | [b, c, _] =>
    (b.toNat == 0xe0 && 0xa0 ≤ c.toNat) || (0xe1 ≤ b.toNat && b.toNat ≤ 0xec) ||
      (b.toNat == 0xed && c.toNat ≤ 0x9f) || b.toNat == 0xee || b.toNat == 0xef
  | [b, c, _, _] =>
    (b.toNat == 0xf0 && 0x90 ≤ c.toNat) || (0xf1 ≤ b.toNat && b.toNat ≤ 0xf3) ||
      (b.toNat == 0xf4 && c.toNat ≤ 0x8f)
  | _ => false

/-- The text that well-formed UTF-8 bytes spell; `none` for any other bytes. -/
def decode? (bs : List UInt8) : Option String :=
  if (glyphs bs).all wellFormedGlyph then
    some (String.ofList ((glyphs bs).map fun g => pointChar (glyphBits g)))
  else none

/-- The bytes up to the first NUL, as a program that reads NUL-terminated text sees them. -/
def untilNul (bs : List UInt8) : List UInt8 := bs.takeWhile (· != 0)

example : encode "aé€😀" = [0x61, 0xc3, 0xa9, 0xe2, 0x82, 0xac, 0xf0, 0x9f, 0x98, 0x80] := by
  decide

example : decode? [0x61, 0xc3, 0xa9] = some "aé" ∧ decode? [0xff] = none ∧
    decode? (encodePoint 0xd800) = none ∧ glyphPoint [0xff] = 0xfffd ∧
    glyphPoint [0xe2, 0x82] = 0x82 ∧ (glyphs [0xe2, 0x82, 0x61]).length = 2 := by
  decide

end Tabula.Text
