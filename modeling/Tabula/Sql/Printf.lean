import Tabula.Sql.Number

/-!
# Formatted text: `printf` and `format`

A format is copied as it is, except for conversions: `%` followed by flags (`-` to left-justify,
`+` or a blank for the sign of positive numbers, `#` for the alternate form, `!` for more digits
and widths counted in characters, `0` to pad numbers with zeros, `,` to group thousands), a
width (digits or `*`), a precision (`.` with digits or `*`), length letters `l`, which are
ignored, and the conversion character. Each conversion takes the next argument (`*` takes one
too), and a missing argument is zero or no text.

* `d`, `i`, `u`, `x`, `X`, `o`, `p`, `r`: whole numbers, signed or as 64-bit unsigned, in
  decimal, hexadecimal (`p` and `X` in capitals), octal, or as an English ordinal;
* `f`, `e`, `E`, `g`, `G`: doubles, positionally, with an exponent, or whichever suits the
  size, their digits peeled off in double arithmetic; at most sixteen significant digits
  (twenty-six with `!`) are shown, the rest being zeros;
* `s`, `z`: a text, cut to the precision; `q`, `Q`, `w`: a text with its quotes doubled
  (`Q` also encloses it in quotes, and gives `NULL` for no text); `c`: the first character of a
  text, repeated precision times;
* `%`: a percent sign; `n`: nothing.

Any other conversion character, or a format that ends inside a conversion, ends the text there.
Widths and precisions of texts count bytes unless `!` is given. A format that produces nothing
at all gives `NULL`, and so does one with a conversion that needs more room than a text may
take.
-/

namespace Tabula.Sql

open Tabula.Binary

/-- The flags, the width and the precision of one conversion. -/
structure FormatSpec where
  leftJustify : Bool
  sign : Option Char
  alternate : Bool
  characters : Bool
  zeroPad : Bool
  thousands : Bool
  width : Nat
  precision : Option Nat
  deriving Inhabited

/-- A conversion without flags, width or precision. -/
def FormatSpec.plain : FormatSpec := ⟨false, none, false, false, false, false, 0, none⟩

/-- The next argument as an integer (zero when none is left), and the arguments after it. -/
def nextInt : List Value → Int × List Value
  | [] => (0, [])
  | v :: rest => (v.toInt, rest)

/-- The next argument as a double (zero when none is left). -/
def nextReal : List Value → Float × List Value
  | [] => (0.0, [])
  | v :: rest => (v.toReal, rest)

/-- The next argument as the bytes of a text up to its first NUL (none when it is `NULL` or
none is left). -/
def nextText : List Value → Option (List UInt8) × List Value
  | [] => (none, [])
  | v :: rest => (v.toText?.map Text.untilNul, rest)

/-- The low 32 bits of an integer, as a signed number. -/
def toInt32 (i : Int) : Int :=
  let n := i % Int.pow 2 32
  if n ≥ Int.pow 2 31 then n - Int.pow 2 32 else n

/-- A width read from an argument: a negative width left-justifies. -/
def FormatSpec.withWidthArg (s : FormatSpec) (w : Int) : FormatSpec :=
  let w := toInt32 w
  if w < 0 then { s with leftJustify := true, width := if w ≥ -2147483647 then (-w).toNat else 0 }
  else { s with width := w.toNat }

/-- A precision read from an argument: a negative precision counts as its size. -/
def precisionOfArg (p : Int) : Option Nat :=
  let p := toInt32 p
  if p < 0 then (if p ≥ -2147483647 then some (-p).toNat else none) else some p.toNat

/-- A byte of a format as a character. -/
def byteChar (b : UInt8) : Char := Char.ofNat b.toNat

/-- Whether a byte is an ASCII decimal digit. -/
def isDigitByte (b : UInt8) : Bool := 48 ≤ b && b ≤ 57

/-- The value of a run of decimal digit bytes, kept to 31 bits as a width or precision is. -/
def specNumber (ds : List UInt8) : Nat :=
  ds.foldl (fun acc b => (acc * 10 + (b.toNat - 48)) % Nat.pow 2 32) 0 % Nat.pow 2 31

/-- Reads the flags, width and precision of a conversion, starting at byte `c`: the
conversion character (none when the format ends first), the format after it, the
specification, and the arguments left. -/
def readSpec : Nat → FormatSpec → UInt8 → List UInt8 → List Value →
    Option Char × List UInt8 × FormatSpec × List Value
  | 0, s, c, rest, args => (some (byteChar c), rest, s, args)
  | fuel + 1, s, c, rest, args =>
    let next := fun (s : FormatSpec) => match rest with
      | [] => (none, [], s, args)
      | d :: more => readSpec fuel s d more args
    let isL := fun (b : UInt8) => byteChar b == 'l'
    match byteChar c with
    | '-' => next { s with leftJustify := true }
    | '+' => next { s with sign := some '+' }
    | ' ' => next { s with sign := some ' ' }
    | '#' => next { s with alternate := true }
    | '!' => next { s with characters := true }
    | '0' => next { s with zeroPad := true }
    | ',' => next { s with thousands := true }
    | 'l' =>
      match rest with
      | [] => (none, [], s, args)
      | [d] => if isL d then (none, [], s, args) else (some (byteChar d), [], s, args)
      | d :: e :: more =>
        if isL d then (some (byteChar e), more, s, args)
        else (some (byteChar d), e :: more, s, args)
    | '*' =>
      let (w, args) := nextInt args
      let s := s.withWidthArg w
      match rest with
      | d :: more =>
        if byteChar d == '.' || isL d then readSpec fuel s d more args
        else (some (byteChar d), more, s, args)
      | [] => (none, [], s, args)
    | '.' =>
      let (s, after, args) := match rest with
        | b :: more =>
          if byteChar b == '*' then
            let (p, args) := nextInt args
            ({ s with precision := precisionOfArg p }, more, args)
          else
            let ds := rest.takeWhile isDigitByte
            ({ s with precision := some (specNumber ds) }, rest.drop ds.length, args)
        | [] => ({ s with precision := some 0 }, [], args)
      match after with
      | [] => (none, [], s, args)
      | d :: more =>
        if isL d then readSpec fuel s d more args else (some (byteChar d), more, s, args)
    | d =>
      if '1' ≤ d && d ≤ '9' then
        let ds := rest.takeWhile isDigitByte
        let s := { s with width := specNumber (c :: ds) }
        match rest.drop ds.length with
        | [] => (none, [], s, args)
        | e :: more =>
          if byteChar e == '.' || isL e then readSpec fuel s e more args
          else (some (byteChar e), more, s, args)
      else (some d, rest, s, args)

/-- The bytes of ASCII characters. -/
def asciiBytes (cs : List Char) : List UInt8 := cs.map fun c => c.toNat.toUInt8

/-- Pads converted bytes with blanks to the width, counting characters (bytes that do not
continue a character) or bytes. -/
def FormatSpec.pad (s : FormatSpec) (byCharacters : Bool) (body : List UInt8) : List UInt8 :=
  let len := if byCharacters then (body.filter (!Text.isContinuation ·)).length else body.length
  if s.width ≤ len then body
  else
    let fill := List.replicate (s.width - len) 32
    if s.leftJustify then body ++ fill else fill ++ body

/-- Groups digits in threes from the right with commas. -/
def groupThousands (ds : List Char) : List Char :=
  ds.zipIdx.flatMap fun (c, i) => if i > 0 && (ds.length - i) % 3 == 0 then [',', c] else [c]

/-- A whole number under an integer conversion. -/
def formatWhole (s : FormatSpec) (conv : Char) (v : Int) : List Char :=
  let signed := conv == 'd' || conv == 'i' || conv == 'r'
  let (mag, pfx) : Nat × List Char :=
    if signed then (if v < 0 then (v.natAbs, ['-']) else (v.toNat, s.sign.toList))
    else ((v % Int.pow 2 64).toNat, [])
  let base :=
    if conv == 'x' || conv == 'X' || conv == 'p' then 16 else if conv == 'o' then 8 else 10
  let digits := (Nat.toDigits base mag).map fun c =>
    if conv == 'X' || conv == 'p' then c.toUpper else c
  let suffix : List Char :=
    if conv != 'r' then []
    else
      let x := mag % 10
      if x ≥ 4 || (mag / 10) % 10 == 1 || x == 0 then ['t', 'h']
      else if x == 1 then ['s', 't'] else if x == 2 then ['n', 'd'] else ['r', 'd']
  let body := digits ++ suffix
  let requested : Int := match s.precision with
    | some p => p
    | none => -1
  let fill : Int := (s.width : Int) - pfx.length
  let precision := if s.zeroPad && requested < fill then fill else requested
  let body := List.replicate (precision.toNat - body.length) '0' ++ body
  let body := if s.thousands && base == 10 && conv != 'r' then groupThousands body else body
  let alt : List Char :=
    if !s.alternate || mag == 0 then []
    else if conv == 'o' then ['0'] else if conv == 'x' || conv == 'p' then ['0', 'x']
    else if conv == 'X' then ['0', 'X'] else []
  alt ++ pfx ++ body

/-- The largest precision a real conversion uses; a larger one counts as this. -/
def realPrecisionLimit : Nat := 100000000

/-- A double under a real conversion: its sign (or the sign flag), then its digits, padded
with zeros to the width when asked. An infinite double is written `Inf` after its sign, and,
like `NaN`, is never padded with zeros. -/
def formatReal (s : FormatSpec) (style : Decimal.RealStyle) (upper : Bool) (x : Float) :
    List Char :=
  let spec : Decimal.RealSpec :=
    ⟨style, min (s.precision.getD 6) realPrecisionLimit, s.alternate, s.characters, s.thousands⟩
  match spec.write upper x with
  | .nan => "NaN".toList
  | .signed neg body =>
    let pfx : List Char := if neg then ['-'] else s.sign.toList
    if s.zeroPad && !s.leftJustify && !x.isInf && pfx.length + body.length < s.width then
      pfx ++ List.replicate (s.width - pfx.length - body.length) '0' ++ body
    else pfx ++ body

/-- Bytes with each quote byte doubled. -/
def doubleQuotes (q : UInt8) (bs : List UInt8) : List UInt8 :=
  bs.flatMap fun b => if b == q then [b, b] else [b]

/-- The start of a text within a precision, counting characters (with `!`) or bytes. -/
def FormatSpec.cut (s : FormatSpec) (bs : List UInt8) : List UInt8 :=
  match s.precision with
  | none => bs
  | some p => if s.characters then ((Text.glyphs bs).take p).flatten else bs.take p

/-- What one conversion does to the text being formatted. -/
inductive Piece where
  /-- Writes these bytes and leaves these arguments. -/
  | write (bytes : List UInt8) (args : List Value)
  /-- Ends the format: the text so far is the result. -/
  | stop
  /-- Needs more room than a text may take: the result is `NULL`. -/
  | overflow

/-- The most bytes one conversion may need. The engine refuses a text over 10^9 bytes, and the
whole result is then `NULL`; here a conversion that needs more than 10^8 bytes gives `NULL`
too, so that no text of hundreds of megabytes is ever built. -/
def pieceLimit : Nat := 100000000

/-- The room a conversion needs besides its width: whole numbers whose precision (after
zero-padding to the width) is 37 or more take that many digits and ten more, and a third more
with grouping; doubles take their precision and width and fifteen more, unless their
trailing zeros go; `c` repeats its character precision times. Texts and the other conversions
need only their width. -/
def FormatSpec.room (s : FormatSpec) (conv : Char) (args : List Value) : Nat :=
  match conv with
  | 'd' | 'i' | 'u' | 'x' | 'X' | 'o' | 'p' | 'r' =>
    let v := (nextInt args).1
    let signed := conv == 'd' || conv == 'i' || conv == 'r'
    let pfx := if signed && (v < 0 || s.sign.isSome) then 1 else 0
    let p := match s.precision with
      | some p => p
      | none => 0
    let p := if s.zeroPad && p + pfx < s.width then s.width - pfx else p
    let grouped := s.thousands && (conv == 'd' || conv == 'i' || conv == 'u')
    if p < 37 then 0 else p + 10 + (if grouped then p / 3 else 0)
  | 'f' | 'e' | 'E' | 'g' | 'G' =>
    let trims := ((conv == 'g' || conv == 'G') && !s.alternate) || s.characters
    if trims then 0 else min (s.precision.getD 6) realPrecisionLimit + s.width + 15
  | 'c' =>
    let t := (nextText args).1
    let c := ((Text.glyphs (t.getD [])).head?.map (·.take 4)).getD [0]
    s.precision.getD 1 * c.length
  | _ => 0

/-- The bytes of one conversion, padded to its width, and the arguments left. -/
def convertOne (s : FormatSpec) (conv : Char) (args : List Value) : Piece :=
  if conv ∉ "diuxXoprfeEgGszqQwc%n".toList then .stop
  else if conv != 'n' && max s.width (s.room conv args) > pieceLimit then .overflow
  else
  match conv with
  | 'd' | 'i' | 'u' | 'x' | 'X' | 'o' | 'p' | 'r' =>
    let (v, args) := nextInt args
    let s := if conv == 'd' || conv == 'i' || conv == 'u' then s else { s with thousands := false }
    .write (s.pad false (asciiBytes (formatWhole s conv v))) args
  | 'f' | 'e' | 'E' | 'g' | 'G' =>
    let (x, args) := nextReal args
    let style := if conv == 'f' then Decimal.RealStyle.fixed
      else if conv == 'e' || conv == 'E' then .exponent else .general
    .write (s.pad false (asciiBytes (formatReal s style (conv == 'E' || conv == 'G') x))) args
  | 's' | 'z' =>
    let (t, args) := nextText args
    .write (s.pad s.characters (s.cut (t.getD []))) args
  | 'q' | 'Q' | 'w' =>
    let (t, args) := nextText args
    let q : UInt8 := if conv == 'w' then 34 else 39
    let text := match t with
      | some t => t
      | none => Text.encode (if conv == 'Q' then "NULL" else "(NULL)")
    let body := doubleQuotes q (s.cut text)
    let body := if conv == 'Q' && t.isSome then q :: body ++ [q] else body
    .write (s.pad s.characters body) args
  | 'c' =>
    let (t, args) := nextText args
    let c := ((Text.glyphs (t.getD [])).head?.map (·.take 4)).getD [0]
    .write (s.pad true (List.replicate (max 1 (s.precision.getD 1)) c).flatten) args
  | '%' => .write (s.pad false [37]) args
  | 'n' => .write [] args
  | _ => .stop

/-- Formats the rest of a format; the flag says whether anything was written at all, and
`none` means a conversion overflowed. -/
def formatRest : Nat → List UInt8 → List Value → List UInt8 × Bool → Option (List UInt8 × Bool)
  | 0, _, _, acc => some acc
  | _ + 1, [], _, acc => some acc
  | fuel + 1, b :: rest, args, (out, written) =>
    if b == 37 then
      match rest with
      | [] => some (out ++ [37], true)
      | c :: more =>
        match readSpec (more.length + 1) FormatSpec.plain c more args with
        | (none, _, _, _) => some (out, written)
        | (some conv, after, s, args) =>
          match convertOne s conv args with
          | .stop => some (out, written)
          | .overflow => none
          | .write text args => formatRest fuel after args (out ++ text, true)
    else
      let run := rest.takeWhile (· != 37)
      formatRest fuel (rest.drop run.length) args (out ++ b :: run, true)

/-- The value of `printf(format, args…)`: the formatted text, or `NULL` when the format is
`NULL`, produces nothing, or overflows. The format ends at its first NUL. -/
def printfValue (format : Value) (args : List Value) : Value :=
  match format.toText? with
  | none => .null
  | some f =>
    let bs := Text.untilNul f
    match formatRest (bs.length + 1) bs args ([], false) with
    | some (out, true) => .text out
    | _ => .null

end Tabula.Sql
