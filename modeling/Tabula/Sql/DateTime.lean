import Tabula.Sql.Printf
import Tabula.Sql.Compare

/-!
# Dates and times: `date`, `time`, `datetime`, `julianday`, `unixepoch`, `strftime`

A moment is kept as a julian day number in milliseconds, together with the calendar fields it
stands for. Either side may be missing: each is computed from the other when needed, and flags
say which of them are current. A moment is read from

* a text `YYYY-MM-DD`, optionally followed by a time, or a time `HH:MM`, `HH:MM:SS` or
  `HH:MM:SS.FFF` alone (on 2000-01-01), each optionally followed by a zone `±HH:MM` or `Z`;
* a number: a julian day if it lies between 0 and 5373484.5, otherwise a raw number that a
  modifier such as `unixepoch` must interpret.

Modifiers then move it: `±N days|hours|minutes|seconds|months|years`, `±HH:MM[:SS[.FFF]]`,
`start of day|month|year`, `weekday N`, `unixepoch`, `julianday`, `auto` (the last three only
first), and `localtime`/`utc`, which leave a moment in range unchanged in a zone without
offset; both start afresh from a moment that went out of range, so that a failure before them
is forgotten. A moment outside the years -4713 to 9999, or any part that cannot be read, gives
`NULL`.

The text `now` stands for a fixed moment, 2000-01-01 00:00:00, since the clock is not part of
the computation.
-/

namespace Tabula.Sql

/-- Milliseconds in a day. -/
def dayMillis : Int := 86400000

/-- The julian day, in milliseconds, of 1970-01-01 00:00:00. -/
def unixEpochMillis : Int := 210866760000000

/-- A moment being computed: the julian day in milliseconds, the calendar fields and the zone
offset in minutes, and flags for which of them are current. A failed computation keeps
nothing but `failed`. -/
structure Clock where
  jd : Int
  year : Int
  month : Int
  day : Int
  hour : Int
  minute : Int
  zone : Int
  seconds : Float
  hasJd : Bool
  raw : Bool
  hasDate : Bool
  hasTime : Bool
  hasZone : Bool
  zoneSet : Bool
  failed : Bool
  deriving Inhabited

/-- A moment with nothing known. -/
def Clock.blank : Clock :=
  ⟨0, 0, 0, 0, 0, 0, 0, 0.0, false, false, false, false, false, false, false⟩

/-- The state of a computation that went out of range. -/
def Clock.failure : Clock := { Clock.blank with failed := true }

/-- Whether a julian day in milliseconds lies in the supported range (years -4713 to 9999). -/
def validJulian (jd : Int) : Bool := 0 ≤ jd && jd ≤ 464269060799999

/-- Forgets the calendar fields and the zone, keeping the julian day. -/
def Clock.clearFields (c : Clock) : Clock :=
  { c with hasDate := false, hasTime := false, hasZone := false }

/-- The double nearest an integer. -/
def floatOf (i : Int) : Float := realOfInt i

/-- Computes the julian day from the calendar fields (2000-01-01 when there is no date). -/
def Clock.computeJd (c : Clock) : Clock :=
  if c.hasJd then c else
  let (y, m, d) := if c.hasDate then (c.year, c.month, c.day) else (2000, 1, 1)
  if y < -4713 || y > 9999 || c.raw then Clock.failure else
  let (y, m) := if m ≤ 2 then (y - 1, m + 12) else (y, m)
  let a := y.tdiv 100
  let b := 2 - a + a.tdiv 4
  let x1 := (36525 * (y + 4716)).tdiv 100
  let x2 := (306001 * (m + 1)).tdiv 10000
  let jd := truncateReal ((floatOf (x1 + x2 + d + b) - 1524.5) * 86400000.0)
  let c := { c with jd, hasJd := true }
  if !c.hasTime then c else
  let jd := c.jd + c.hour * 3600000 + c.minute * 60000 + truncateReal (c.seconds * 1000.0 + 0.5)
  if c.hasZone then
    { c with jd := jd - c.zone * 60000, hasDate := false, hasTime := false, hasZone := false }
  else { c with jd }

/-- Computes the calendar date from the julian day (2000-01-01 when there is none). -/
def Clock.computeYmd (c : Clock) : Clock :=
  if c.hasDate then c
  else if !c.hasJd then { c with year := 2000, month := 1, day := 1, hasDate := true }
  else if !validJulian c.jd then Clock.failure
  else
    let z := (c.jd + 43200000).tdiv dayMillis
    let a := truncateReal ((floatOf z - 1867216.25) / 36524.25)
    let a := z + 1 + a - a.tdiv 4
    let b := a + 1524
    let cc := truncateReal ((floatOf b - 122.1) / 365.25)
    let d := (36525 * (cc % 32768)).tdiv 100
    let e := truncateReal (floatOf (b - d) / 30.6001)
    let x1 := truncateReal (30.6001 * floatOf e)
    let month := if e < 14 then e - 1 else e - 13
    { c with day := b - d - x1, month, year := if month > 2 then cc - 4716 else cc - 4715,
             hasDate := true }

/-- Computes the time of day from the julian day. -/
def Clock.computeHms (c : Clock) : Clock :=
  if c.hasTime then c else
  let c := c.computeJd
  let ms := (c.jd + 43200000).tmod dayMillis
  let secs := floatOf ms / 1000.0
  let whole := truncateReal secs
  let frac := secs - floatOf whole
  let hour := whole.tdiv 3600
  let rest := whole - hour * 3600
  let minute := rest.tdiv 60
  { c with seconds := frac + floatOf (rest - minute * 60), hour, minute, raw := false,
           hasTime := true }

/-- Computes both the date and the time of day. -/
def Clock.computeAll (c : Clock) : Clock := c.computeYmd.computeHms

/-- A fixed-width field of digits: its width, its least and greatest value, and the
separator that must follow it. -/
structure DigitField where
  width : Nat
  lo : Nat
  hi : Nat
  sep : Option Char

/-- Reads fields in turn; the values of the fields read before the first that fails. -/
def readFields : List DigitField → List Char → List Nat
  | [], _ => []
  | f :: fs, cs =>
    let ds := cs.take f.width
    let v := ds.foldl (fun acc c => acc * 10 + digitOf c) 0
    if ds.length < f.width || !ds.all isDigit || v < f.lo || v > f.hi then []
    else match f.sep, cs.drop f.width with
      | none, _ => [v]
      | some s, c :: more => if c == s then v :: readFields fs more else []
      | some _, [] => []

/-- Reads a zone after a time: blanks, then `±HH:MM` or `Z`, then blanks. The flag is true
when something else follows. -/
def Clock.readZone (c : Clock) (cs : List Char) : Bool × Clock :=
  let c := { c with zone := 0 }
  let rest := fun (c : Clock) (cs : List Char) =>
    (!(cs.dropWhile isSpace).isEmpty, { c with zoneSet := true })
  match cs.dropWhile isSpace with
  | [] => (false, c)
  | ch :: more =>
    if ch == 'Z' || ch == 'z' then rest c more
    else if ch == '+' || ch == '-' then
      match readFields [⟨2, 0, 14, some ':'⟩, ⟨2, 0, 59, none⟩] more with
      | [h, m] =>
        rest { c with zone := (if ch == '-' then -1 else 1) * ((m : Int) + h * 60) } (more.drop 5)
      | _ => (true, c)
    else (true, c)

/-- Reads `HH:MM`, `HH:MM:SS` or `HH:MM:SS.FFF` and an optional zone. The flag is true when
the text is not such a time; the fields read before the failure are kept. -/
def Clock.readTime (c : Clock) (cs : List Char) : Bool × Clock :=
  match readFields [⟨2, 0, 24, some ':'⟩, ⟨2, 0, 59, none⟩] cs with
  | [h, m] =>
    let after := cs.drop 5
    let secs : Option (Nat × Float × List Char) := match after with
      | ':' :: more =>
        match readFields [⟨2, 0, 59, none⟩] more with
        | [s] =>
          match more.drop 2 with
          | '.' :: d :: ds =>
            if isDigit d then
              let run := (d :: ds).takeWhile isDigit
              let (ms, scale) := run.foldl
                (fun (acc : Float × Float) ch =>
                  (acc.1 * 10.0 + floatOf (digitOf ch), acc.2 * 10.0))
                (0.0, 1.0)
              some (s, ms / scale, (d :: ds).drop run.length)
            else some (s, 0.0, more.drop 2)
          | rest => some (s, 0.0, rest)
        | _ => none
      | rest => some (0, 0.0, rest)
    match secs with
    | none => (true, c)
    | some (s, frac, rest) =>
      let c := { c with hasJd := false, raw := false, hasTime := true, hour := h, minute := m,
                        seconds := floatOf s + frac }
      let (bad, c) := c.readZone rest
      if bad then (true, c) else (false, { c with hasZone := c.zone != 0 })
  | _ => (true, c)

/-- Reads `[-]YYYY-MM-DD`, optionally followed by blanks or `T` and a time. -/
def Clock.readDate (c : Clock) (cs : List Char) : Bool × Clock :=
  let (neg, cs) := match cs with
    | '-' :: rest => (true, rest)
    | _ => (false, cs)
  let fields : List DigitField :=
    [⟨4, 0, 14712, some '-'⟩, ⟨2, 1, 12, some '-'⟩, ⟨2, 1, 31, none⟩]
  match readFields fields cs with
  | [y, m, d] =>
    let rest := (cs.drop 10).dropWhile fun ch => isSpace ch || ch == 'T'
    let (bad, c) := c.readTime rest
    let timed : Option Clock :=
      if !bad then some c else if rest.isEmpty then some { c with hasTime := false } else none
    match timed with
    | none => (true, c)
    | some c =>
      let c := { c with hasJd := false, hasDate := true, year := if neg then -(y : Int) else y,
                        month := m, day := d }
      (false, if c.hasZone then c.computeJd else c)
  | _ => (true, c)

/-- Records a number as the moment: a julian day when it lies in range, and a raw number in
any case, for a modifier to interpret. -/
def Clock.setNumber (c : Clock) (r : Float) : Clock :=
  let c := { c with seconds := r, raw := true }
  if r >= 0.0 && r < 5373484.5 then
    { c with jd := truncateReal (r * 86400000.0 + 0.5), hasJd := true }
  else c

/-- The moment `now` stands for: 2000-01-01 00:00:00. -/
def Clock.now : Clock := { Clock.blank with jd := unixEpochMillis + 946684800000, hasJd := true }

/-- A text in small ASCII letters. -/
def lowerChars (cs : List Char) : List Char := cs.map asciiLower

/-- Whether a text is a number as a whole, and its value. -/
def wholeNumber (cs : List Char) : Option Float :=
  let (reading, r) := readReal cs
  if reading.isWhole then some r else none

/-- Reads the first argument of a date function given as text. -/
def readMoment (cs : List Char) : Option Clock :=
  let (bad, c) := Clock.blank.readDate cs
  if !bad then some c else
  let (bad, c) := c.readTime cs
  if !bad then some c
  else if lowerChars cs == "now".toList then some Clock.now
  else (wholeNumber cs).map c.setNumber

/-- Shifts a moment to local time, which here has no offset from universal time: the
calendar fields are recomputed from the julian day, with a year outside 1970 to 2037 mapped
into that range and back as the system clock functions require. -/
def Clock.toLocal (c : Clock) : Clock :=
  let c := c.computeJd
  let (shift, t) :=
    if c.jd < 210866760000000 || c.jd > 213014145600000 then
      let x := c.computeAll
      let shift := (2000 + x.year.tmod 4) - x.year
      let x := { x with year := x.year + shift, hasJd := false }.computeJd
      (shift, x.jd.tdiv 1000 - unixEpochMillis / 1000)
    else (0, c.jd.tdiv 1000 - unixEpochMillis / 1000)
  let l := { Clock.blank with jd := (t * 1000 + unixEpochMillis), hasJd := true }.computeAll
  { c with year := l.year - shift, month := l.month, day := l.day, hour := l.hour,
           minute := l.minute,
           seconds := floatOf (truncateReal l.seconds) + floatOf (c.jd.tmod 1000) * 0.001,
           hasDate := true, hasTime := true, hasJd := false, raw := false, hasZone := false,
           failed := false }

/-- The guesses at the universal moment whose local time is the julian day `orig`: each
guess is moved back by how far its local time misses `orig`, at most four guesses in all. The
miss is kept in 32 bits, so a guess far out of range wraps. -/
def universalGuess (orig : Int) : Nat → Int → Int
  | 0, guess => guess
  | n + 1, guess =>
    let shown := ({ Clock.blank with jd := guess, hasJd := true }.toLocal).computeJd
    let miss := toInt32 (shown.jd - orig)
    if miss == 0 || n == 0 then guess else universalGuess orig n (guess - miss)

/-- The julian day the `utc` modifier gives: the last guess at the universal moment whose
local time is the moment's julian day. A moment out of range counts as julian day 0, and the
result is in range again. -/
def Clock.universalJd (c : Clock) : Int :=
  let orig := c.computeJd.jd
  universalGuess orig 4 orig

/-- The units of the `±N unit` modifiers: name, exclusive limit on `N`, and seconds per unit. -/
def timeUnits : List (String × Float × Float) :=
  [("second", 464269992787968.0, 1.0), ("minute", 7737900007424.0, 60.0),
   ("hour", 128969998336.0, 3600.0), ("day", 5373485.0, 86400.0),
   ("month", 176546.0, 2592000.0), ("year", 14713.0, 31536000.0)]

/-- Applies `±N unit`. -/
def Clock.addUnits (c : Clock) (r : Float) (unitText : List Char) : Option Clock := do
  let n := unitText.length
  if n > 10 || n < 3 then none
  let n := if unitText.getLast? == some 's' || unitText.getLast? == some 'S' then n - 1 else n
  let c := c.computeJd
  let rounder := if r < 0.0 then -0.5 else 0.5
  let (name, _, perUnit) ← timeUnits.find? fun (name, limit, _) =>
    name.length == n && lowerChars (unitText.take n) == name.toList && r > -limit && r < limit
  let whole := truncateReal r
  let (c, r) :=
    if name == "month" then
      let c := c.computeAll
      let months := c.month + whole
      let x := if months > 0 then (months - 1).tdiv 12 else (months - 12).tdiv 12
      ({ c with year := c.year + x, month := months - x * 12, hasJd := false }, r - floatOf whole)
    else if name == "year" then
      let c := c.computeAll
      ({ c with year := c.year + whole, hasJd := false }, r - floatOf whole)
    else (c, r)
  let c := c.computeJd
  pure { c with jd := c.jd + truncateReal (r * 1000.0 * perUnit + rounder) }.clearFields

/-- Applies one modifier; `idx` is its place among the arguments (the first modifier is 1). -/
def Clock.modify (c : Clock) (z : List Char) (idx : Nat) : Option Clock :=
  let lz := lowerChars z
  match lz with
  | [] => none
  | first :: _ =>
    if lz == "auto".toList then
      if idx > 1 then none
      else if !c.raw || c.hasJd then some { c with raw := false }
      else if c.seconds >= -210866760000.0 && c.seconds <= 253402300799.0 then
        let r := c.seconds * 1000.0 + 210866760000000.0
        some { c.clearFields with jd := truncateReal (r + 0.5), hasJd := true, raw := false }
      else none
    else if lz == "julianday".toList then
      if idx > 1 then none
      else if c.hasJd && c.raw then some { c with raw := false } else none
    else if lz == "localtime".toList then some c.toLocal
    else if lz == "unixepoch".toList && c.raw then
      if idx > 1 then none else
      let r := c.seconds * 1000.0 + 210866760000000.0
      if r >= 0.0 && r < 464269060800000.0 then
        some { c.clearFields with jd := truncateReal (r + 0.5), hasJd := true, raw := false }
      else none
    else if lz == "utc".toList then
      if c.zoneSet then some c
      else some { Clock.blank with jd := c.universalJd, hasJd := true, zoneSet := true }
    else if lz.take 8 == "weekday ".toList then do
      let r ← wholeNumber (z.drop 8)
      let n := truncateReal r
      if floatOf n != r || n < 0 || r >= 7.0 then none
      let c := { c.computeAll with hasZone := false, hasJd := false }.computeJd
      let w := ((c.jd + 129600000).tdiv dayMillis).tmod 7
      let w := if w > n then w - 7 else w
      pure { c with jd := c.jd + (n - w) * dayMillis }.clearFields
    else if lz.take 9 == "start of ".toList then
      if !c.hasJd && !c.hasDate && !c.hasTime then none else
      let c := { c.computeYmd with hasTime := true, hour := 0, minute := 0, seconds := 0.0,
                                   raw := false, hasZone := false, hasJd := false }
      match String.ofList (lz.drop 9) with
      | "month" => some { c with day := 1 }
      | "year" => some { c with month := 1, day := 1 }
      | "day" => some c
      | _ => none
    else if first == '+' || first == '-' || isDigit first then do
      let n := 1 + ((z.drop 1).takeWhile fun ch => ch != ':' && !isSpace ch).length
      let r ← wholeNumber (z.take n)
      match z.drop n with
      | ':' :: _ =>
        let z2 := if isDigit first then z else z.drop 1
        let (bad, tx) := Clock.blank.readTime z2
        if bad then none
        let tx := tx.computeJd
        let j := tx.jd - 43200000
        let j := j - j.tdiv dayMillis * dayMillis
        let j := if first == '-' then -j else j
        let c := c.computeJd
        pure { c.clearFields with jd := c.jd + j }
      | rest => c.addUnits r (rest.dropWhile isSpace)
    else none

/-- The characters of a text argument up to its first NUL. -/
def textChars (bs : List UInt8) : List Char := Text.lenientChars (Text.untilNul bs)

/-- Applies modifiers in turn. -/
def Clock.modifyAll (c : Clock) : List Value → Nat → Option Clock
  | [], _ => some c
  | v :: rest, idx => do
    let z ← v.toText?
    let c ← c.modify (textChars z) idx
    c.modifyAll rest (idx + 1)

/-- The moment that the arguments of a date function name, or `none` when they name none. -/
def momentOf (args : List Value) : Option Clock := do
  let c ← match args with
    | [] => some Clock.now
    | first :: _ =>
      match first with
      | .null => none
      | .integer _ | .real _ => some (Clock.blank.setNumber first.toReal)
      | v => v.toText? >>= fun t => readMoment (textChars t)
  let c ← c.modifyAll (args.drop 1) 1
  let c := c.computeJd
  if c.failed || !validJulian c.jd then none else some c

/-- A whole number written with at least `width` digits, zero-padded. -/
def padded (width : Nat) (v : Int) : String :=
  String.ofList (formatWhole { FormatSpec.plain with zeroPad := true, width } 'd' v)

/-- The date of a moment, `YYYY-MM-DD`, with a minus sign before the year's four digits for a
year before 0. -/
def Clock.dateText (c : Clock) : String :=
  (if c.year < 0 then "-" else "") ++ padded 4 c.year.natAbs ++ "-" ++ padded 2 c.month ++ "-" ++
    padded 2 c.day

/-- The time of a moment, `HH:MM:SS`. -/
def Clock.timeText (c : Clock) : String :=
  padded 2 c.hour ++ ":" ++ padded 2 c.minute ++ ":" ++ padded 2 (truncateReal c.seconds)

/-- The julian day of a moment as a double. -/
def Clock.julianDay (c : Clock) : Float := floatOf c.jd / 86400000.0

/-- The seconds since 1970-01-01 00:00:00 of a moment. -/
def Clock.unixSeconds (c : Clock) : Int := c.jd.tdiv 1000 - unixEpochMillis / 1000

/-- The conversion characters `strftime` knows. -/
def strftimeConversions : List Char :=
  ['d', 'f', 'H', 'j', 'J', 'm', 'M', 's', 'S', 'w', 'W', 'Y', '%']

/-- The byte of `%`, which starts a conversion in a `strftime` format. -/
def percentByte : UInt8 := 37

/-- Whether every `%` of a `strftime` format is followed by a known conversion. The format is
read byte by byte: its other bytes are copied whatever they are. -/
def strftimeFormatValid : List UInt8 → Bool
  | [] => true
  | b :: rest =>
    if b != percentByte then strftimeFormatValid rest
    else match rest with
      | [] => false
      | c :: rest => strftimeConversions.contains (Char.ofNat c.toNat) && strftimeFormatValid rest

/-- The text of one `strftime` conversion. -/
def Clock.strftimeField (c : Clock) : Char → String
  | 'd' => padded 2 c.day
  | 'f' =>
    let s := if c.seconds > 59.999 then 59.999 else c.seconds
    let spec := { FormatSpec.plain with zeroPad := true, width := 6, precision := some 3 }
    String.ofList (formatReal spec .fixed false s)
  | 'H' => padded 2 c.hour
  | 'W' | 'j' => ""
  | 'J' => String.ofList (formatReal { FormatSpec.plain with precision := some 16 } .general false
      c.julianDay)
  | 'm' => padded 2 c.month
  | 'M' => padded 2 c.minute
  | 's' => intText c.unixSeconds
  | 'S' => padded 2 (truncateReal c.seconds)
  | 'w' => toString (((c.jd + 129600000).tdiv dayMillis).tmod 7)
  | 'Y' => padded 4 c.year
  | _ => "%"

/-- The day of the year (from 0) of a moment, and its day of the week (Monday is 0). -/
def Clock.dayOfYear (c : Clock) : Int × Int :=
  let jan1 := { c with hasJd := false, month := 1, day := 1 }.computeJd
  ((c.jd - jan1.jd + 43200000).tdiv dayMillis, ((c.jd + 43200000).tdiv dayMillis).tmod 7)

/-- Formats a moment under a `strftime` format, byte by byte: each conversion becomes its
text, and every other byte is copied. -/
def Clock.strftime (c : Clock) : List UInt8 → List UInt8
  | [] => []
  | b :: rest =>
    if b != percentByte then b :: c.strftime rest
    else match rest with
      | [] => []
      | k :: rest =>
        let k := Char.ofNat k.toNat
        let field :=
          if k == 'j' then padded 3 (c.dayOfYear.1 + 1)
          else if k == 'W' then
            let (n, w) := c.dayOfYear
            padded 2 ((n + 7 - w).tdiv 7)
          else c.strftimeField k
        Text.encode field ++ c.strftime rest

/-- The value of a date function, by name; `none` for a name that is not one. -/
def dateFunction (name : String) (args : List Value) : Option Value :=
  let text := fun (f : Clock → String) => match momentOf args with
    | some c => Value.ofString (f c.computeAll)
    | none => .null
  match name with
  | "date" => some (text Clock.dateText)
  | "time" => some (text Clock.timeText)
  | "datetime" => some (text fun c => c.dateText ++ " " ++ c.timeText)
  | "julianday" => some (match momentOf args with
    | some c => .real c.julianDay
    | none => .null)
  | "unixepoch" => some (match momentOf args with
    | some c => .integer c.unixSeconds
    | none => .null)
  | "strftime" => some (match args with
    | [] => .null
    | f :: rest =>
      match f.toText?, momentOf rest with
      | some fmt, some c =>
        let bs := Text.untilNul fmt
        if strftimeFormatValid bs then .text (c.computeAll.strftime bs) else .null
      | _, _ => .null)
  | _ => none

end Tabula.Sql
