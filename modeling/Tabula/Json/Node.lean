/-!
# JSON documents

A JSON document as the table engine reads, edits and writes it. The reader works on bytes and
keeps numbers and strings as they were written: a number is its text, a string the bytes
between its quotes with its escapes untouched. Written back, a document is compact (no blank
between tokens) and every number and string is the text it was read with.

The reader accepts what RFC 8259 allows, with these limits:

* blanks are space, tab, newline and carriage return;
* a string may hold any byte from `0x20` up, malformed UTF-8 included; its escapes are
  `\"`, `\\`, `\/`, `\b`, `\f`, `\n`, `\r`, `\t` and `\u` with four hexadecimal digits;
* `null`, `true` and `false` may not run on into a letter or a digit;
* containers nest at most 2000 deep.

An edit leaves marks in the tree rather than rebuilding it from values: an argument written in
place of a value (`written`, by the argument's index, so that the engine writes it as JSON
only when the document is written), and a value taken out (`removed`), which is no longer
written but which a label still leads to. Members and items added by an edit come after those
that were read.
-/

namespace Tabula.Json

/-- An object member's label: its bytes, and whether an edit made it (written back as a new
string, escapes added) rather than a document (written back between quotes as read). -/
structure Label where
  bytes : List UInt8
  fresh : Bool
  deriving Repr, BEq, Inhabited

/-- A JSON value as read, with the marks that edits leave. -/
inductive Node where
  | null
  | bool (b : Bool)
  | integer (text : List UInt8)
  | real (text : List UInt8)
  /-- A string: the bytes between its quotes, and whether any of them is an escape. -/
  | string (raw : List UInt8) (escaped : Bool)
  | array (items : List Node)
  | object (members : List (Label × Node))
  /-- An argument of the edit, by index, written in place of a value. -/
  | written (arg : Nat)
  /-- A value taken out. -/
  | removed (node : Node)
  deriving Repr, Inhabited

/-- The byte of an ASCII character. -/
def byte (c : Char) : UInt8 := c.toNat.toUInt8

/-- The bytes of an ASCII text. -/
def bytesOf (s : String) : List UInt8 := s.toList.map byte

/-- Whether a byte is blank between tokens: space, tab, newline or carriage return. -/
def isBlank (b : UInt8) : Bool := b == 0x20 || b == 0x09 || b == 0x0a || b == 0x0d

/-- Whether a byte is an ASCII digit. -/
def isDigit (b : UInt8) : Bool := 0x30 ≤ b && b ≤ 0x39

/-- Whether a byte is an ASCII letter. -/
def isLetter (b : UInt8) : Bool := (0x41 ≤ b && b ≤ 0x5a) || (0x61 ≤ b && b ≤ 0x7a)

/-- Whether a byte is an ASCII letter or digit. -/
def isAlnum (b : UInt8) : Bool := isDigit b || isLetter b

/-- Whether a byte is a hexadecimal digit. -/
def isHexDigit (b : UInt8) : Bool :=
  isDigit b || (0x41 ≤ b && b ≤ 0x46) || (0x61 ≤ b && b ≤ 0x66)

/-- The value of a hexadecimal digit. -/
def hexDigitValue (b : UInt8) : Nat :=
  if isDigit b then b.toNat - 0x30
  else if b ≤ 0x46 then b.toNat - 0x41 + 10
  else b.toNat - 0x61 + 10

/-- The value of four hexadecimal digits. -/
def hexValue (ds : List UInt8) : Nat := ds.foldl (fun v d => v * 16 + hexDigitValue d) 0

/-- The bytes after the blanks at the front. -/
def skipBlank (bs : List UInt8) : List UInt8 := bs.dropWhile isBlank

/-- Whether a byte may follow a backslash in a string as a one-letter escape: a quote, a
backslash, a slash, or one of `b`, `f`, `n`, `r`, `t`. -/
def isEscapeLetter (b : UInt8) : Bool :=
  b == 0x22 || b == 0x5c || b == 0x2f || b == 0x62 || b == 0x66 || b == 0x6e || b == 0x72 ||
    b == 0x74

/-- The bytes of `null`. -/
def nullWord : List UInt8 := [0x6e, 0x75, 0x6c, 0x6c]

/-- The bytes of `true`. -/
def trueWord : List UInt8 := [0x74, 0x72, 0x75, 0x65]

/-- The bytes of `false`. -/
def falseWord : List UInt8 := [0x66, 0x61, 0x6c, 0x73, 0x65]

/-- Reads the rest of a string after its opening quote: its bytes (`acc` holds those read so
far, last first), whether it has an escape, and the bytes after its closing quote; `none`
for a control byte, a bad escape or a missing closing quote. -/
def scanString (acc : List UInt8) (escaped : Bool) : List UInt8 →
    Option (List UInt8 × Bool × List UInt8)
  | [] => none
  | c :: rest =>
    if c < 0x20 then none
    else if c == byte '"' then some (acc.reverse, escaped, rest)
    else if c == byte '\\' then
      match rest with
      | d :: more =>
        if isEscapeLetter d then scanString (d :: c :: acc) true more
        else if d == byte 'u' && (more.take 4).length == 4 && (more.take 4).all isHexDigit then
          scanString (d :: c :: acc) true more
        else none
      | [] => none
    else scanString (c :: acc) escaped rest

/-- Reads the rest of a number after the byte `prev`: its bytes (`acc`, last first), whether
it has a fraction or an exponent, and what follows it; `none` when it is malformed. A point
may not follow the sign nor come twice or after the exponent; the exponent must follow a
digit, may be signed and must have a digit; the number must end in a digit. -/
def scanNumber (prev : UInt8) (point exp : Bool) (acc : List UInt8) : List UInt8 →
    Option (List UInt8 × Bool × List UInt8)
  | [] => if prev < byte '0' then none else some (acc.reverse, point, [])
  | c :: rest =>
    if isDigit c then scanNumber c point exp (c :: acc) rest
    else if c == byte '.' then
      if prev == byte '-' || point then none else scanNumber c true exp (c :: acc) rest
    else if c == byte 'e' || c == byte 'E' then
      if prev < byte '0' || exp then none
      else
        match rest with
        | s :: d :: more =>
          if s == byte '+' || s == byte '-' then
            if isDigit d then scanNumber d true true (d :: s :: c :: acc) more else none
          else if isDigit s then scanNumber s true true (s :: c :: acc) (d :: more)
          else none
        | [d] => if isDigit d then scanNumber d true true (d :: c :: acc) [] else none
        | [] => none
    else if prev < byte '0' then none
    else some (acc.reverse, point, c :: rest)

/-- Whether a number's first byte `c`, before `rest`, starts it with a zero that a digit
follows, which is not allowed. -/
def leadingZero (c : UInt8) (rest : List UInt8) : Bool :=
  let ds := if c == byte '-' then rest else c :: rest
  match ds with
  | z :: d :: _ => z == byte '0' && isDigit d
  | _ => false

/-- What reading at a point of a document gives: a value and the bytes after it, the end of
an object or an array where a value could stand (the bytes after the bracket), or failure. -/
inductive Reading where
  | value (node : Node) (rest : List UInt8)
  | closeObject (rest : List UInt8)
  | closeArray (rest : List UInt8)
  | fail

/-- How deep containers may nest. -/
def maxDepth : Nat := 2000

/-- Reads a keyword (`null`, `true` or `false`) if the bytes start with it and no letter or
digit follows. -/
def readWord (w : List UInt8) (node : Node) (bs : List UInt8) : Reading :=
  if bs.take w.length == w && !((bs.drop w.length).head?.any isAlnum) then
    .value node (bs.drop w.length)
  else .fail

mutual

/-- Reads a value after blanks, at a nesting depth. -/
def readValue : Nat → Nat → List UInt8 → Reading
  | 0, _, _ => .fail
  | fuel + 1, depth, bs =>
    match skipBlank bs with
    | [] => .fail
    | c :: rest =>
      if c == byte '{' then readMembers fuel depth [] rest
      else if c == byte '[' then readItems fuel depth [] rest
      else if c == byte '"' then
        match scanString [] false rest with
        | some (raw, escaped, more) => .value (.string raw escaped) more
        | none => .fail
      else if c == byte 'n' then readWord nullWord .null (c :: rest)
      else if c == byte 't' then readWord trueWord (.bool true) (c :: rest)
      else if c == byte 'f' then readWord falseWord (.bool false) (c :: rest)
      else if c == byte '-' || isDigit c then
        if leadingZero c rest then .fail
        else
          match scanNumber c false false [c] rest with
          | some (text, true, more) => .value (.real text) more
          | some (text, false, more) => .value (.integer text) more
          | none => .fail
      else if c == byte '}' then .closeObject rest
      else if c == byte ']' then .closeArray rest
      else .fail

/-- Reads the items of an array after its opening bracket or a comma; `acc` holds the items
read so far, last first. -/
def readItems : Nat → Nat → List Node → List UInt8 → Reading
  | 0, _, _, _ => .fail
  | fuel + 1, depth, acc, bs =>
    if depth + 1 > maxDepth then .fail
    else
      match readValue fuel (depth + 1) bs with
      | .closeArray rest => if acc.isEmpty then .value (.array []) rest else .fail
      | .value n rest =>
        match skipBlank rest with
        | c :: more =>
          if c == byte ',' then readItems fuel depth (n :: acc) more
          else if c == byte ']' then .value (.array (n :: acc).reverse) more
          else .fail
        | [] => .fail
      | _ => .fail

/-- Reads the members of an object after its opening brace or a comma; `acc` holds the
members read so far, last first. A label must be a string. -/
def readMembers : Nat → Nat → List (Label × Node) → List UInt8 → Reading
  | 0, _, _, _ => .fail
  | fuel + 1, depth, acc, bs =>
    if depth + 1 > maxDepth then .fail
    else
      match readValue fuel (depth + 1) bs with
      | .closeObject rest => if acc.isEmpty then .value (.object []) rest else .fail
      | .value (.string raw _) rest =>
        match skipBlank rest with
        | c :: more =>
          if c != byte ':' then .fail
          else
            match readValue fuel (depth + 1) more with
            | .value v after =>
              let acc := (⟨raw, false⟩, v) :: acc
              match skipBlank after with
              | d :: tail =>
                if d == byte ',' then readMembers fuel depth acc tail
                else if d == byte '}' then .value (.object acc.reverse) tail
                else .fail
              | [] => .fail
            | _ => .fail
        | [] => .fail
      | _ => .fail

end

/-- Reads a whole document: one value, with nothing but blanks after it. -/
def parse (bs : List UInt8) : Option Node :=
  match readValue (2 * bs.length + 2) 0 bs with
  | .value n rest => if (skipBlank rest).isEmpty then some n else none
  | _ => none

/-- A lowercase hexadecimal digit. -/
def hexDigitByte (n : Nat) : UInt8 := (if n < 10 then 0x30 + n else 0x61 + n - 10).toUInt8

/-- The escape of a byte inside a new string: a quote or a backslash gets a backslash, a
control byte its letter escape or `\u00XX`, any other byte stands for itself. -/
def escapeByte (c : UInt8) : List UInt8 :=
  if c == 0x22 || c == 0x5c then [0x5c, c]
  else if c == 0x08 then [0x5c, 0x62]
  else if c == 0x09 then [0x5c, 0x74]
  else if c == 0x0a then [0x5c, 0x6e]
  else if c == 0x0c then [0x5c, 0x66]
  else if c == 0x0d then [0x5c, 0x72]
  else if c < 0x20 then
    [0x5c, 0x75, 0x30, 0x30, hexDigitByte (c.toNat / 16), hexDigitByte (c.toNat % 16)]
  else [c]

/-- Bytes as a new JSON string, between quotes. -/
def quoteBytes (bs : List UInt8) : List UInt8 := byte '"' :: bs.flatMap escapeByte ++ [byte '"']

/-- A label as it is written: a read label between quotes as read, a new one as a new
string. -/
def Label.render (l : Label) : List UInt8 :=
  if l.fresh then quoteBytes l.bytes else byte '"' :: l.bytes ++ [byte '"']

/-- Whether a value has been taken out. -/
def Node.isRemoved : Node → Bool
  | .removed _ => true
  | _ => false

/-- A value marked as taken out. -/
def Node.markRemoved (n : Node) : Node :=
  match n with
  | .removed _ => n
  | _ => .removed n

/-- Whether a value is an array or an object. -/
def Node.isContainer : Node → Bool
  | .array _ | .object _ => true
  | _ => false

/-- Parts joined by commas. -/
def joinComma (parts : List (List UInt8)) : List UInt8 :=
  match parts with
  | [] => []
  | p :: ps => p ++ ps.flatMap (byte ',' :: ·)

/-- Writes a document compactly; `writeArg` writes an argument put in place of a value, and
may fail with a message. Values taken out are left out, with their labels. -/
def Node.render (writeArg : Nat → Except String (List UInt8)) :
    Nat → Node → Except String (List UInt8)
  | 0, _ => pure []
  | fuel + 1, n =>
    match n with
    | .null => pure nullWord
    | .bool true => pure trueWord
    | .bool false => pure falseWord
    | .integer t | .real t => pure t
    | .string raw _ => pure (byte '"' :: raw ++ [byte '"'])
    | .array items => do
      let parts ← (items.filter (!·.isRemoved)).mapM (Node.render writeArg fuel)
      pure (byte '[' :: joinComma parts ++ [byte ']'])
    | .object ms => do
      let parts ← (ms.filter (!·.2.isRemoved)).mapM fun (l, v) => do
        pure (l.render ++ byte ':' :: (← Node.render writeArg fuel v))
      pure (byte '{' :: joinComma parts ++ [byte '}'])
    | .written i => writeArg i
    | .removed inner => Node.render writeArg fuel inner

mutual

/-- How many places a document takes laid out in reading order, each value and each label
taking one: it numbers the values of a document, and bounds every walk over it. -/
def Node.slots : Node → Nat
  | .array items => 1 + itemsSlots items
  | .object ms => 1 + membersSlots ms
  | .removed n => n.slots
  | _ => 1

/-- The places of the items of an array. -/
def itemsSlots : List Node → Nat
  | [] => 0
  | n :: rest => n.slots + itemsSlots rest

/-- The places of the members of an object, labels included. -/
def membersSlots : List (Label × Node) → Nat
  | [] => 0
  | (_, v) :: rest => 1 + v.slots + membersSlots rest

end

/-- Writes a document with no argument in it. -/
def Node.write (n : Node) : List UInt8 :=
  match n.render (fun _ => pure []) (n.slots + 1) with
  | .ok bs => bs
  | .error _ => []

/-- The name of a value's JSON type, as the engine reports it. -/
def Node.typeName : Node → String
  | .null => "null"
  | .bool true => "true"
  | .bool false => "false"
  | .integer _ => "integer"
  | .real _ => "real"
  | .string _ _ => "text"
  | .array _ => "array"
  | .object _ => "object"
  | .written _ => "null"
  | .removed n => match n with
    | .array _ => "array"
    | .object _ => "object"
    | _ => "null"

/-- The UTF-8 bytes of a code point of up to sixteen bits. -/
def pointBytes (v : Nat) : List UInt8 :=
  if v ≤ 0x7f then [v.toUInt8]
  else if v ≤ 0x7ff then [(0xc0 + v / 64).toUInt8, (0x80 + v % 64).toUInt8]
  else [(0xe0 + v / 4096).toUInt8, (0x80 + v / 64 % 64).toUInt8, (0x80 + v % 64).toUInt8]

/-- The text a read string stands for, its escapes undone (the fuel bounds the steps): `\u`
escapes become UTF-8, a high surrogate escape followed by a low one becomes one four-byte
character, any other surrogate is written as three bytes, and `\u0000` ends the text. -/
def unescapeSteps : Nat → List UInt8 → List UInt8
  | 0, _ => []
  | _ + 1, [] => []
  | fuel + 1, c :: rest =>
    if c != 0x5c then c :: unescapeSteps fuel rest
    else
      match rest with
      | [] => []
      | d :: more =>
        if d == 0x75 then
          let v := hexValue (more.take 4)
          let after := more.drop 4
          if v == 0 then []
          else if v ≤ 0x7ff then pointBytes v ++ unescapeSteps fuel after
          else
            match after with
            | b :: u :: tail =>
              let lo := hexValue (tail.take 4)
              if v / 1024 == 0xd800 / 1024 && b == 0x5c && u == 0x75 &&
                  (tail.take 4).length == 4 && lo / 1024 == 0xdc00 / 1024 then
                let w := (v % 1024) * 1024 + lo % 1024 + 0x10000
                [(0xf0 + w / 262144).toUInt8, (0x80 + w / 4096 % 64).toUInt8,
                 (0x80 + w / 64 % 64).toUInt8, (0x80 + w % 64).toUInt8] ++
                  unescapeSteps fuel (tail.drop 4)
              else pointBytes v ++ unescapeSteps fuel (b :: u :: tail)
            | _ => pointBytes v ++ unescapeSteps fuel after
        else
          let x :=
            if d == 0x62 then 0x08 else if d == 0x66 then 0x0c
            else if d == 0x6e then 0x0a else if d == 0x72 then 0x0d
            else if d == 0x74 then 0x09 else d
          x :: unescapeSteps fuel more

/-- The text a read string stands for, its escapes undone. -/
def unescape (raw : List UInt8) : List UInt8 := unescapeSteps (raw.length + 1) raw

/-- Takes the members whose value is `null` out of an object, and out of the objects among
its members' values, as a patch does with an object it adds. -/
def Node.dropNulls : Nat → Node → Node
  | 0, n => n
  | fuel + 1, n =>
    match n with
    | .object ms =>
      .object (ms.map fun (l, v) => match v with
        | .null => (l, .removed .null)
        | .object _ => (l, Node.dropNulls fuel v)
        | v => (l, v))
    | n => n

/-- Applies a merge patch (RFC 7396) to a document. A patch that is not an object replaces the
target; an object patches an object member by member, in order: a `null` member takes out the
target's member of that label, any other is merged into the target's member of that label or,
if there is none, added after the target's members, without its `null` members. A target's
member that was taken out, or replaced by something other than an object merge, takes no
further patch. An object patch of a target that is not an object replaces it, without its
`null` members. -/
def mergePatch : Nat → Node → Node → Node
  | 0, target, _ => target
  | fuel + 1, target, patch =>
    match patch, target with
    | .object pms, .object tms =>
      let start := (tms.map fun (l, v) => (l, v, v.isRemoved), ([] : List (Label × Node)))
      let (kept, added) := pms.foldl
        (fun (st : List (Label × Node × Bool) × List (Label × Node)) (k, pv) =>
        match st.1.findIdx? (fun (l, _, _) => l.bytes == k.bytes) with
        | some i =>
          match st.1[i]? with
          | some (l, tv, frozen) =>
            if frozen then st
            else
              match pv, tv with
              | .null, _ => (st.1.set i (l, .removed tv, true), st.2)
              | .object _, .object _ => (st.1.set i (l, mergePatch fuel tv pv, false), st.2)
              | _, _ => (st.1.set i (l, mergePatch fuel tv pv, true), st.2)
          | none => st
        | none =>
          match pv with
          | .null => st
          | _ => (st.1, st.2 ++ [(k, pv.dropNulls fuel)])) start
      .object (kept.map (fun (l, v, _) => (l, v)) ++ added)
    | .object _, _ => patch.dropNulls fuel
    | _, _ => patch

example : (parse [0x5b, 0x31, 0x2c, 0x20, 0x32, 0x5d]).map Node.write =
    some [0x5b, 0x31, 0x2c, 0x32, 0x5d] := by decide

example : (parse [0x5b, 0x31, 0x2c, 0x5d]).isNone ∧ (parse [0x30, 0x31]).isNone ∧
    (parse [0x31, 0x2e]).isNone := by decide

end Tabula.Json
