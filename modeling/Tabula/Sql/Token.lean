import Tabula.Sql.Compare

/-!
# Tokens of the query language

A statement is cut into tokens from left to right. Blanks and comments (`-- …` to the end of
the line, `/* … */`, which an unclosed comment ends at the end of the text) separate tokens;
a `/*` with nothing after it is no comment but the two symbols `/` and `*`. Words of letters
and underscores that spell a keyword are keywords, other words are identifiers; `"…"`,
`` `…` `` and `[…]` quote identifiers and `'…'` quotes a string (a doubled quote stands for
itself). Numbers are decimal, with an optional fraction and exponent, or hexadecimal after
`0x`; a number that runs into letters is no token at all. `x'…'` is a blob of hexadecimal
digit pairs, and `?`, `?N`, `:name`, `@name`, `$name` are parameters. What fits none of these
is an illegal token, which the statement reader reports as unrecognized.
-/

namespace Tabula.Sql

/-- The kind of a token. -/
inductive TokenKind where
  | ident
  /-- A keyword, spelled in capitals. -/
  | keyword (word : String)
  | string
  | integer
  | float
  | blob
  | variable
  /-- An operator or punctuation, in a canonical spelling (`==` is `=`, `<>` is `!=`). -/
  | symbol (s : String)
  | space
  | illegal
  /-- The end of the text. -/
  | eof
  deriving Repr, BEq, DecidableEq, Inhabited

/-- A token: its kind, its text and where it starts in the statement (in characters). -/
structure Token where
  kind : TokenKind
  text : String
  start : Nat
  deriving Repr, BEq, Inhabited

/-- The keywords of the language. -/
def keywords : List String :=
  ["ABORT", "ACTION", "ADD", "AFTER", "ALL", "ALTER", "ALWAYS", "ANALYZE", "AND", "AS", "ASC",
   "ATTACH", "AUTOINCREMENT", "BEFORE", "BEGIN", "BETWEEN", "BY", "CASCADE", "CASE", "CAST",
   "CHECK", "COLLATE", "COLUMN", "COMMIT", "CONFLICT", "CONSTRAINT", "CREATE", "CROSS",
   "CURRENT", "CURRENT_DATE", "CURRENT_TIME", "CURRENT_TIMESTAMP", "DATABASE", "DEFAULT",
   "DEFERRED", "DEFERRABLE", "DELETE", "DESC", "DETACH", "DISTINCT", "DO", "DROP", "END",
   "EACH", "ELSE", "ESCAPE", "EXCEPT", "EXCLUSIVE", "EXCLUDE", "EXISTS", "EXPLAIN", "FAIL",
   "FILTER", "FIRST", "FOLLOWING", "FOR", "FOREIGN", "FROM", "FULL", "GENERATED", "GLOB",
   "GROUP", "GROUPS", "HAVING", "IF", "IGNORE", "IMMEDIATE", "IN", "INDEX", "INDEXED",
   "INITIALLY", "INNER", "INSERT", "INSTEAD", "INTERSECT", "INTO", "IS", "ISNULL", "JOIN",
   "KEY", "LAST", "LEFT", "LIKE", "LIMIT", "MATCH", "MATERIALIZED", "NATURAL", "NO", "NOT",
   "NOTHING", "NOTNULL", "NULL", "NULLS", "OF", "OFFSET", "ON", "OR", "ORDER", "OTHERS",
   "OUTER", "OVER", "PARTITION", "PLAN", "PRAGMA", "PRECEDING", "PRIMARY", "QUERY", "RAISE",
   "RANGE", "RECURSIVE", "REFERENCES", "REGEXP", "REINDEX", "RELEASE", "RENAME", "REPLACE",
   "RESTRICT", "RETURNING", "RIGHT", "ROLLBACK", "ROW", "ROWS", "SAVEPOINT", "SELECT", "SET",
   "TABLE", "TEMP", "TEMPORARY", "THEN", "TIES", "TO", "TRANSACTION", "TRIGGER", "UNBOUNDED",
   "UNION", "UNIQUE", "UPDATE", "USING", "VACUUM", "VALUES", "VIEW", "VIRTUAL", "WHEN",
   "WHERE", "WINDOW", "WITH", "WITHOUT"]

/-- Keywords that serve as identifiers where the keyword itself cannot stand. -/
def identifierKeywords : List String :=
  ["ABORT", "ACTION", "AFTER", "ANALYZE", "ASC", "ATTACH", "BEFORE", "BEGIN", "BY", "CASCADE",
   "CAST", "COLUMN", "CONFLICT", "DATABASE", "DEFERRED", "DESC", "DETACH", "DO", "EACH", "END",
   "EXCLUSIVE", "EXPLAIN", "FAIL", "FOR", "IGNORE", "IMMEDIATE", "INITIALLY", "INSTEAD",
   "LIKE", "GLOB", "REGEXP", "MATCH", "NO", "PLAN", "QUERY", "KEY", "OF", "OFFSET", "PRAGMA",
   "RAISE", "RECURSIVE", "RELEASE", "REPLACE", "RESTRICT", "ROW", "ROWS", "ROLLBACK",
   "SAVEPOINT", "TEMP", "TEMPORARY", "TRIGGER", "VACUUM", "VIEW", "VIRTUAL", "WITH", "WITHOUT",
   "NULLS", "FIRST", "LAST", "CURRENT", "FOLLOWING", "PARTITION", "PRECEDING", "RANGE",
   "UNBOUNDED", "EXCLUDE", "GROUPS", "OTHERS", "TIES", "GENERATED", "ALWAYS", "MATERIALIZED",
   "REINDEX", "RENAME", "CURRENT_DATE", "CURRENT_TIME", "CURRENT_TIMESTAMP", "IF"]

/-- The join keywords, which may also name things. -/
def joinKeywords : List String := ["CROSS", "FULL", "INNER", "LEFT", "NATURAL", "OUTER", "RIGHT"]

/-- Characters that may continue an identifier: ASCII letters and digits, `_`, `$`, and
every character beyond ASCII. -/
def isIdChar (c : Char) : Bool :=
  c.isAlphanum || c = '_' || c = '$' || c.toNat ≥ 0x80

/-- Whether a character is a hexadecimal digit. -/
def isHexDigit (c : Char) : Bool :=
  isDigit c || ('a' ≤ c && c ≤ 'f') || ('A' ≤ c && c ≤ 'F')

/-- The length of the leading run of characters that satisfy `p`. -/
def runLength (p : Char → Bool) (cs : List Char) : Nat := (cs.takeWhile p).length

/-- The length of a quoted token that starts after its opening `delim`, closing quote
included, and whether it was closed. A doubled closing quote stands for itself. -/
def quotedLength (delim : Char) : List Char → Nat × Bool
  | [] => (0, false)
  | [c] => if c = delim then (1, true) else (1, false)
  | c :: d :: rest =>
    if c = delim then
      if d = delim then
        let (n, closed) := quotedLength delim rest
        (n + 2, closed)
      else (1, true)
    else
      let (n, closed) := quotedLength delim (d :: rest)
      (n + 1, closed)

/-- The length of a number token and its kind. -/
def numberToken (cs : List Char) : TokenKind × Nat :=
  match cs with
  | '0' :: x :: h :: rest =>
    if (x = 'x' || x = 'X') && isHexDigit h then
      let n := 3 + runLength isHexDigit rest
      let tail := runLength isIdChar (cs.drop n)
      (if tail > 0 then .illegal else .integer, n + tail)
    else decimalToken cs
  | _ => decimalToken cs
where
  /-- A decimal number: digits, an optional fraction, an optional exponent. -/
  decimalToken (cs : List Char) : TokenKind × Nat :=
    let whole := runLength isDigit cs
    let rest := cs.drop whole
    let (kind, n) := match rest with
      | '.' :: frac => (TokenKind.float, whole + 1 + runLength isDigit frac)
      | _ => (TokenKind.integer, whole)
    let (kind, n) := match cs.drop n with
      | e :: d :: more =>
        if (e = 'e' || e = 'E') then
          if isDigit d then (TokenKind.float, n + 2 + runLength isDigit more)
          else if (d = '+' || d = '-') then
            match more with
            | d2 :: more2 =>
              if isDigit d2 then (TokenKind.float, n + 3 + runLength isDigit more2) else (kind, n)
            | [] => (kind, n)
          else (kind, n)
        else (kind, n)
      | _ => (kind, n)
    let tail := runLength isIdChar (cs.drop n)
    (if tail > 0 then .illegal else kind, n + tail)

/-- The length of a named parameter after its sigil, and whether it is well formed. -/
def namedParameter (cs : List Char) : Nat × Bool :=
  go cs 0 0
where
  /-- `n` counts the identifier characters seen, `len` the characters consumed. -/
  go : List Char → Nat → Nat → Nat × Bool
    | c :: rest, n, len =>
      if isIdChar c then go rest (n + 1) (len + 1)
      else if c = '(' && n > 0 then
        let inner := runLength (fun d => !isSpace d && d != ')') rest
        match rest.drop inner with
        | ')' :: _ => (len + inner + 2, true)
        | _ => (len + inner + 1, false)
      else
        match c, rest with
        | ':', ':' :: more => go more n (len + 2)
        | _, _ => (len, n > 0)
    | [], n, len => (len, n > 0)

/-- The kind and length of the token at the start of a nonempty text. -/
def scanToken (cs : List Char) : TokenKind × Nat :=
  match cs with
  | [] => (.eof, 0)
  | c :: rest =>
    if isSpace c then (.space, 1 + runLength isSpace rest) else
    match c, rest with
    | '-', '-' :: more => (.space, 2 + runLength (· != '\n') more +
        (if (more.dropWhile (· != '\n')).isEmpty then 0 else 1))
    | '-', '>' :: '>' :: _ => (.symbol "->>", 3)
    | '-', '>' :: _ => (.symbol "->", 2)
    | '-', _ => (.symbol "-", 1)
    | '(', _ => (.symbol "(", 1)
    | ')', _ => (.symbol ")", 1)
    | ';', _ => (.symbol ";", 1)
    | '+', _ => (.symbol "+", 1)
    | '*', _ => (.symbol "*", 1)
    | '/', '*' :: c :: more => (.space, 2 + commentLength (c :: more))
    | '/', _ => (.symbol "/", 1)
    | '%', _ => (.symbol "%", 1)
    | '=', '=' :: _ => (.symbol "=", 2)
    | '=', _ => (.symbol "=", 1)
    | '<', '=' :: _ => (.symbol "<=", 2)
    | '<', '>' :: _ => (.symbol "!=", 2)
    | '<', '<' :: _ => (.symbol "<<", 2)
    | '<', _ => (.symbol "<", 1)
    | '>', '=' :: _ => (.symbol ">=", 2)
    | '>', '>' :: _ => (.symbol ">>", 2)
    | '>', _ => (.symbol ">", 1)
    | '!', '=' :: _ => (.symbol "!=", 2)
    | '!', _ => (.illegal, 1)
    | '|', '|' :: _ => (.symbol "||", 2)
    | '|', _ => (.symbol "|", 1)
    | ',', _ => (.symbol ",", 1)
    | '&', _ => (.symbol "&", 1)
    | '~', _ => (.symbol "~", 1)
    | '.', d :: _ => if isDigit d then numberToken cs else (.symbol ".", 1)
    | '.', [] => (.symbol ".", 1)
    | '[', _ =>
      let n := runLength (· != ']') rest
      if (rest.drop n).isEmpty then (.illegal, 1 + n) else (.ident, n + 2)
    | '?', _ => (.variable, 1 + runLength isDigit rest)
    | '$', _ | '@', _ | ':', _ | '#', _ =>
      let (n, ok) := namedParameter rest
      (if ok then .variable else .illegal, n + 1)
    | 'x', '\'' :: more | 'X', '\'' :: more =>
      let n := runLength isHexDigit more
      let after := more.drop n
      if after.head? = some '\'' && n % 2 = 0 then (.blob, n + 3)
      else
        let m := runLength (· != '\'') after
        (.illegal, 2 + n + m + (if (after.drop m).isEmpty then 0 else 1))
    | _, _ =>
      if c = '\'' || c = '"' || c = '`' then
        let (n, closed) := quotedLength c rest
        if closed then (if c = '\'' then .string else .ident, n + 1) else (.illegal, n + 1)
      else if isDigit c then numberToken cs
      else if isIdChar c then
        let n := 1 + runLength isIdChar rest
        let word := cs.take n
        if word.all (fun d => d.isAlpha || d = '_') then
          let upper := String.ofList (word.map asciiUpper)
          if keywords.contains upper then (.keyword upper, n) else (.ident, n)
        else (.ident, n)
      else (.illegal, 1)
where
  /-- The length of a block comment after its opening, closing mark included if present. -/
  commentLength : List Char → Nat
    | '*' :: '/' :: _ => 2
    | _ :: rest => 1 + commentLength rest
    | [] => 0

/-- The tokens of a text, blanks and comments left out, ending with `eof`. -/
def tokenize (text : String) : List Token :=
  go text.toList 0 (text.length + 1)
where
  /-- Cuts tokens from `cs`, which starts at character `pos`. -/
  go : List Char → Nat → Nat → List Token
    | _, pos, 0 => [⟨.eof, "", pos⟩]
    | cs, pos, fuel + 1 =>
      if cs.isEmpty then [⟨.eof, "", pos⟩] else
      let (kind, n) := scanToken cs
      let n := max n 1
      let rest := go (cs.drop n) (pos + n) fuel
      if kind = .space then rest else ⟨kind, String.ofList (cs.take n), pos⟩ :: rest

/-- The text of an identifier with its quotes removed and doubled quotes made single. -/
def dequote (s : String) : String :=
  match s.toList with
  | '[' :: rest => String.ofList (rest.take (rest.length - 1))
  | q :: rest =>
    if q = '"' || q = '\'' || q = '`' then String.ofList (undouble q (rest.take (rest.length - 1)))
    else s
  | [] => s
where
  /-- Makes each doubled quote single. -/
  undouble (q : Char) : List Char → List Char
    | c :: d :: rest => if c = q && d = q then q :: undouble q rest else c :: undouble q (d :: rest)
    | cs => cs

example : (tokenize "SELECT a,'x''y' FROM t -- c").map (·.kind) =
    [.keyword "SELECT", .ident, .symbol ",", .string, .keyword "FROM", .ident, .eof] := by
  decide

end Tabula.Sql
