import Tabula.Sql.Syntax

/-!
# Reading statements

The reader takes the tokens of a statement from left to right and stops at the first token
that cannot continue any statement of the grammar: the error then names that token
(`near "X": syntax error`), or says the input ended too early (`incomplete input`). An
illegal token is reported as unrecognized the moment the reader reaches it, so a syntax error
before it wins. Only the first statement is read; the text after its `;` is handed back.

Operators bind, from loosest to tightest: `OR`; `AND`; prefix `NOT`; `=`, `!=`, `IS`,
`LIKE`, `BETWEEN`, `IN` and their `NOT` forms; `<`, `<=`, `>`, `>=`; `&`, `|`, `<<`, `>>`;
`+`, `-`; `*`, `/`, `%`; `||`, `->`; `COLLATE`; prefix `-`, `+`, `~`. Binary operators
group to the left. Keywords that cannot stand where they appear serve as names.

Every descent is bounded by fuel computed from the number of tokens, so reading is total.
-/

namespace Tabula.Sql

/-- Why a statement could not be read. -/
inductive ParseError where
  /-- The token cannot continue the statement. -/
  | near (token : String)
  /-- The statement ended before it was complete. -/
  | incomplete
  /-- The text holds something that is no token. -/
  | unrecognized (token : String)
  /-- The statement nests too deeply. -/
  | tooDeep
  /-- A numbered parameter is out of range. -/
  | parameterNumber
  /-- A window function's arguments were marked `DISTINCT`. -/
  | distinctWindow
  /-- A frame ends before it starts. -/
  | unsupportedFrame
  /-- A construct this engine does not read. -/
  | unsupported (what : String)
  /-- Join words that make no join, as written. -/
  | unknownJoin (words : String)
  /-- An `ON` or `USING` clause on the first item of `FROM`. -/
  | joinClauseRequired (clause : String)
  /-- An `ORDER BY` or `LIMIT` clause on a query that is not the last of a compound. -/
  | clauseBeforeSetOp (clause op : String)
  /-- Two named queries of one `WITH` clause share a name. -/
  | duplicateCommonTable (name : String)
  /-- An element of the list of a row value's `IN` with another number of terms. -/
  | inElementTerms (got expected : Nat)
  /-- A generated column with a default value or an unknown way of being kept. -/
  | generatedColumn (column : String)
  /-- A default value for a generated column. -/
  | defaultOnGenerated
  /-- An option after a table's columns that is not `STRICT` or `WITHOUT ROWID`. -/
  | unknownTableOption (text : String)
  /-- A column's collation that the engine does not know. -/
  | unknownCollation (name : String)
  deriving Repr, BEq, Inhabited

/-- The text that explains a reading error. -/
def ParseError.message : ParseError → String
  | .near t => "near \"" ++ t ++ "\": syntax error"
  | .incomplete => "incomplete input"
  | .unrecognized t => "unrecognized token: \"" ++ t ++ "\""
  | .tooDeep => "parser stack overflow"
  | .parameterNumber => "variable number must be between ?1 and ?250000"
  | .distinctWindow => "DISTINCT is not supported for window functions"
  | .unsupportedFrame => "unsupported frame specification"
  | .unsupported what => what ++ " are not supported"
  | .unknownJoin words => "unknown join type: " ++ words
  | .joinClauseRequired clause => "a JOIN clause is required before " ++ clause
  | .clauseBeforeSetOp clause op => clause ++ " clause should come after " ++ op ++ " not before"
  | .duplicateCommonTable n => "duplicate WITH table name: " ++ n
  | .inElementTerms got expected =>
    "IN(...) element has " ++ toString got ++ (if got > 1 then " terms" else " term") ++
      " - expected " ++ toString expected
  | .generatedColumn c => "error in generated column \"" ++ c ++ "\""
  | .defaultOnGenerated => "cannot use DEFAULT on a generated column"
  | .unknownTableOption t => "unknown table option: " ++ t
  | .unknownCollation n => "no such collation sequence: " ++ n

/-- Where the reader stands: the statement's characters, the tokens not yet taken, and the
parameters seen so far (their count and the numbers given to named ones). -/
structure Cursor where
  source : List Char
  tokens : List Token
  params : Nat
  named : List (String × Nat)

/-- A reader of part of a statement. -/
abbrev Reader := StateT Cursor (Except ParseError)

namespace Reader

/-- The token at hand; an illegal one is an error as soon as it is reached. -/
def peek : Reader Token := do
  let c ← get
  match c.tokens with
  | t :: _ => if t.kind = .illegal then throw (.unrecognized t.text) else pure t
  | [] => pure ⟨.eof, "", c.source.length⟩

/-- The token after the one at hand, as it is: looking ahead only steers the reading, so an
illegal token there is no error until the reader reaches it, and a syntax error at the token
at hand comes first. -/
def peekSecond : Reader Token := do
  let c ← get
  match c.tokens with
  | _ :: t :: _ => pure t
  | _ => pure ⟨.eof, "", c.source.length⟩

/-- Takes the token at hand. -/
def advance : Reader Unit := modify fun c => { c with tokens := c.tokens.drop 1 }

/-- The error for a token that cannot continue the statement. -/
def failAt {α : Type} (t : Token) : Reader α :=
  throw (if t.kind = .eof then .incomplete else .near t.text)

/-- Fails at the token at hand. -/
def fail {α : Type} : Reader α := do failAt (← peek)

end Reader

open Reader

/-- Whether a token is the keyword `w`. -/
def Token.isKeyword (t : Token) (w : String) : Bool := t.kind == .keyword w

/-- Whether a token is the symbol `s`. -/
def Token.isSymbol (t : Token) (s : String) : Bool := t.kind == .symbol s

/-- Identifiers, and keywords that serve as identifiers. -/
def Token.isId (t : Token) : Bool :=
  match t.kind with
  | .ident => true
  | .keyword w => w == "INDEXED" || identifierKeywords.contains w
  | _ => false

/-- Names of functions and columns: identifiers and join keywords. -/
def Token.isIdj (t : Token) : Bool :=
  t.isId || match t.kind with
    | .keyword w => joinKeywords.contains w
    | _ => false

/-- Names of tables, columns and aliases after `AS`: identifiers, strings, join keywords. -/
def Token.isNm (t : Token) : Bool := t.isIdj || t.kind == .string

/-- Names that may stand without `AS`: identifiers and strings. `INDEXED` is not one, so
that it can begin an `INDEXED BY` clause. -/
def Token.isIds (t : Token) : Bool := (t.isId && !t.isKeyword "INDEXED") || t.kind == .string

/-- The name a token spells, quotes removed. -/
def Token.name (t : Token) : String := dequote t.text

/-- Whether a token can be a name where a contextual keyword looks ahead for one. -/
def Token.nameLike (t : Token) : Bool :=
  t.isNm || t.isKeyword "WINDOW" || t.isKeyword "OVER"

/-- Settles the words that are keywords only in context: `WINDOW` before a name and `AS`,
`OVER` after `)` and before `(` or a name, `FILTER` after `)` and before `(`. Elsewhere they
are identifiers. `prev` is the token before the first one, as settled. -/
def settleKeywords (prev : Option Token) : List Token → List Token
  | [] => []
  | t :: rest =>
    let next := rest.head?
    let afterParen := (prev.map (·.isSymbol ")")).getD false
    let nextIs := fun (p : Token → Bool) => (next.map p).getD false
    let keep : Bool := match t.kind with
      | .keyword "WINDOW" =>
        nextIs Token.nameLike && (((rest.drop 1).head?.map (·.isKeyword "AS")).getD false)
      | .keyword "OVER" => afterParen && nextIs fun n => n.isSymbol "(" || n.nameLike
      | .keyword "FILTER" => afterParen && nextIs (·.isSymbol "(")
      | _ => true
    let t := if keep then t else { t with kind := .ident }
    t :: settleKeywords (some t) rest

/-- Takes the keyword `w` or fails. -/
def expectKeyword (w : String) : Reader Unit := do
  let t ← peek
  if t.isKeyword w then advance else failAt t

/-- Takes the symbol `s` or fails. -/
def expectSymbol (s : String) : Reader Unit := do
  let t ← peek
  if t.isSymbol s then advance else failAt t

/-- Takes the keyword `w` if it is at hand. -/
def acceptKeyword (w : String) : Reader Bool := do
  let t ← peek
  if t.isKeyword w then advance; pure true else pure false

/-- Takes the symbol `s` if it is at hand. -/
def acceptSymbol (s : String) : Reader Bool := do
  let t ← peek
  if t.isSymbol s then advance; pure true else pure false

/-- Takes a name of the given class or fails. -/
def expectName (ok : Token → Bool) : Reader String := do
  let t ← peek
  if ok t then advance; pure t.name else failAt t

/-- The statement's text from character `start` up to character `stop`. -/
def sourceSlice (start stop : Nat) : Reader String := do
  let c ← get
  pure (String.ofList ((c.source.drop start).take (stop - start)))

/-- A text without the blanks at its ends. -/
def trimSpaces (s : String) : String :=
  String.ofList ((((s.toList.dropWhile isSpace).reverse).dropWhile isSpace).reverse)

/-- The value of a hexadecimal digit. -/
def hexValue (c : Char) : Nat :=
  if isDigit c then digitOf c
  else if 'a' ≤ c && c ≤ 'f' then c.toNat - 'a'.toNat + 10
  else c.toNat - 'A'.toNat + 10

/-- The bytes of hexadecimal digit pairs. -/
def hexBytes : List Char → List UInt8
  | a :: b :: rest => (hexValue a * 16 + hexValue b).toUInt8 :: hexBytes rest
  | _ => []

/-- The bytes a blob literal `x'…'` spells. -/
def blobLiteral (text : String) : List UInt8 :=
  hexBytes ((text.toList.drop 2).takeWhile isHexDigit)

/-- Numbers a parameter: `?` takes the next number, `?N` the number `N`, a named parameter
the number it got when it first appeared. -/
def parameter (text : String) : Reader Expr := do
  let c ← get
  match text.toList with
  | ['?'] =>
    set { c with params := c.params + 1 }
    pure (.parameter (c.params + 1))
  | '?' :: digits =>
    match readWhole digits with
    | (.clean, n) =>
      if n < 1 || n > 250000 then throw .parameterNumber else
      set { c with params := max c.params n.toNat }
      pure (.parameter n.toNat)
    | _ => throw .parameterNumber
  | _ =>
    match c.named.lookup text with
    | some n => pure (.parameter n)
    | none =>
      set { c with params := c.params + 1, named := (text, c.params + 1) :: c.named }
      pure (.parameter (c.params + 1))

/-- Skips tokens up to and including the `)` that closes an already opened `(`. -/
def skipGroup : Nat → Nat → Reader Unit
  | 0, _ => throw .tooDeep
  | fuel + 1, depth => do
    let t ← peek
    if t.kind = .eof then failAt t
    else if t.isSymbol "(" then advance; skipGroup fuel (depth + 1)
    else if t.isSymbol ")" then
      advance
      if depth = 0 then pure () else skipGroup fuel (depth - 1)
    else advance; skipGroup fuel depth

/-- A signed number in a type: an optional sign and an integer or decimal literal. -/
def signedNumber : Reader Unit := do
  let t ← peek
  if t.isSymbol "+" || t.isSymbol "-" then advance
  let t ← peek
  if t.kind = .integer || t.kind = .float then advance else failAt t

/-- Takes names while they are at hand. -/
def typeWords : Nat → Reader (Option Token)
  | 0 => pure none
  | fuel + 1 => do
    let t ← peek
    if t.isIds then
      advance
      match ← typeWords fuel with
      | some last => pure (some last)
      | none => pure (some t)
    else pure none

/-- A type as written: names, then optionally one or two signed numbers in parentheses. The
text runs from the first name to the end of the last token of the type. -/
def typeToken (fuel : Nat) : Reader String := do
  let first ← peek
  match ← typeWords fuel with
  | none => pure ""
  | some last =>
    let t ← peek
    if t.isSymbol "(" then
      advance
      signedNumber
      if ← acceptSymbol "," then signedNumber
      let close ← peek
      expectSymbol ")"
      sourceSlice first.start (close.start + 1)
    else sourceSlice first.start (last.start + last.text.length)

/-- How tightly an operator that follows an operand binds, if the token is one. -/
def infixLevel (t : Token) : Option Nat :=
  match t.kind with
  | .keyword "OR" => some 1
  | .keyword "AND" => some 2
  | .keyword "IS" | .keyword "ISNULL" | .keyword "NOTNULL" | .keyword "NOT" | .keyword "LIKE"
  | .keyword "GLOB" | .keyword "REGEXP" | .keyword "MATCH" | .keyword "BETWEEN"
  | .keyword "IN" => some 4
  | .symbol "=" | .symbol "!=" => some 4
  | .symbol "<" | .symbol "<=" | .symbol ">" | .symbol ">=" => some 5
  | .symbol "&" | .symbol "|" | .symbol "<<" | .symbol ">>" => some 7
  | .symbol "+" | .symbol "-" => some 8
  | .symbol "*" | .symbol "/" | .symbol "%" => some 9
  | .symbol "||" | .symbol "->" | .symbol "->>" => some 10
  | .keyword "COLLATE" => some 11
  | _ => none

/-- The binary operator a symbol or keyword spells. -/
def binaryOpOf (t : Token) : BinaryOp :=
  match t.kind with
  | .keyword "OR" => .or
  | .keyword "AND" => .and
  | .symbol "=" => .eq
  | .symbol "!=" => .ne
  | .symbol "<" => .lt
  | .symbol "<=" => .le
  | .symbol ">" => .gt
  | .symbol ">=" => .ge
  | .symbol "&" => .bitAnd
  | .symbol "|" => .bitOr
  | .symbol "<<" => .shiftLeft
  | .symbol ">>" => .shiftRight
  | .symbol "+" => .add
  | .symbol "-" => .sub
  | .symbol "*" => .mul
  | .symbol "/" => .div
  | .symbol "%" => .rem
  | .symbol "||" => .concat
  | .symbol "->>" => .extract true
  | _ => .extract false

/-- The value of an integer literal that the reader holds as a 32-bit number: after `0x` and
leading zeros at most eight hexadecimal digits below `2^31`, or after leading zeros at most
ten decimal digits up to `2147483647`. -/
def smallLiteral (text : String) : Option Int :=
  match text.toList with
  | '0' :: x :: rest =>
    if x == 'x' || x == 'X' then
      let ds := rest.dropWhile (· == '0')
      let v := ds.foldl (fun v c => v * 16 + hexValue c) 0
      if ds.length ≤ 8 && v < 2147483648 then some v else none
    else decimalSmall (x :: rest)
  | cs => decimalSmall cs
where
  decimalSmall (cs : List Char) : Option Int :=
    let ds := cs.dropWhile (· == '0')
    let v := ds.foldl (fun v c => v * 10 + (c.toNat - 48 : Nat)) 0
    if ds.length ≤ 10 && v ≤ 2147483647 then some v else none

/-- The value of an expression that is a small integer literal itself; a sign makes an
operation, not a literal. -/
def Expr.smallInteger? : Expr → Option Int
  | .integer digits => smallLiteral digits
  | _ => none

/-- Joins two conditions by `AND`. When one of them is a small integer literal equal to zero
the reader keeps the literal `0` alone, and the other side is dropped unexamined. -/
def conjunction (lhs rhs : Expr) : Expr :=
  if lhs.smallInteger? == some 0 || rhs.smallInteger? == some 0 then .integer "0"
  else .binary .and lhs rhs


/-- An optional alias: a name after `AS`, or an identifier or string standing alone. -/
def aliasOpt : Reader (Option String) := do
  let t ← peek
  if t.isKeyword "AS" then advance; some <$> expectName Token.isNm
  else if t.isIds then advance; pure (some t.name)
  else pure none

/-- Whether an expression is constant as the reader sees it: nothing in it reads a column,
calls a function (`LIKE`, `GLOB` and `->` are calls) or runs a subquery. The names `TRUE` and
`FALSE`, unquoted, are constants. -/
def Expr.readsAsConstantWithin : Nat → Expr → Bool
  | 0, _ => false
  | fuel + 1, e =>
    match e with
    | .name id false => sameName id "true" || sameName id "false"
    | .name _ true | .qualified _ _ _ | .call _ _ _ | .windowed _ _ _ _ _ | .subquery _
    | .exists _ | .inQuery _ _ _ | .pattern _ _ _ _ _ | .binary (.extract _) _ _ => false
    | e => e.children.all (Expr.readsAsConstantWithin fuel)

/-- Whether an expression is constant as the reader sees it. -/
def Expr.readsAsConstant (e : Expr) : Bool := e.readsAsConstantWithin 1000

/-- The rows of a `VALUES`, each row a query of its own, combined by `UNION ALL`. -/
def valuesQueries (rows : List (List Expr)) : List Select :=
  rows.map fun row => { (default : Select) with
    values := true
    columns := row.zipIdx.map fun (e, i) => .expr e none ("column" ++ toString (i + 1)) }

/-- One query of the rows of a `VALUES`. -/
def valuesQuery (rows : List (List Expr)) : Select :=
  match valuesQueries rows with
  | q :: more => { q with compound := more.map (.unionAll, ·) }
  | [] => default

/-- The test that `x IN (…)` with a list makes. A lone constant makes an equality with the
constant under a unary plus (`x IN (c)` is `x = +c`, so a `COLLATE` on the constant counts), a
lone subquery is an `IN` of its rows, and the list of a row value of `n` terms is a `VALUES`
whose rows are its elements, each of `n` terms. -/
def inListOf (lhs : Expr) (items : List Expr) (negated : Bool) : Reader Expr := do
  let isRow := lhs matches .vector _
  if let [c] := items then
    if !isRow && c.readsAsConstant then
      let eq := Expr.binary .eq lhs (.unary .pos c)
      return if negated then .unary .not eq else eq
    if let .subquery q := c then return .inQuery lhs q negated
  match lhs with
  | .vector xs =>
    let rows ← items.mapM fun item => do
      let row := match item with
        | .vector ys => ys
        | e => [e]
      if row.length != xs.length then
        let _ ← peek
        throw (.inElementTerms row.length xs.length)
      pure row
    pure (.inQuery lhs (valuesQuery rows) negated)
  | _ => pure (.inList lhs items negated)

/-- Whether a token begins a query: `SELECT`, `VALUES` or `WITH`. -/
def Token.startsQuery (t : Token) : Bool :=
  t.isKeyword "SELECT" || t.isKeyword "VALUES" || t.isKeyword "WITH"

/-- Whether a token is one of the words of a join operator. -/
def Token.isJoinWord (t : Token) : Bool :=
  match t.kind with
  | .keyword w => joinKeywords.contains w
  | _ => false

/-- Whether a token is a keyword that a window definition may begin with. -/
def Token.startsWindowPart (t : Token) : Bool :=
  t.isKeyword "PARTITION" || t.isKeyword "ORDER" || t.isKeyword "RANGE" ||
    t.isKeyword "ROWS" || t.isKeyword "GROUPS"

/-- Whether a frame's two bounds are in an order that the engine refuses. -/
def FrameBound.refused : FrameBound → FrameBound → Bool
  | .currentRow, .preceding _ => true
  | .following _, .preceding _ => true
  | .following _, .currentRow => true
  | _, _ => false

/-- A query that reads every column of one item of `FROM`. -/
def Select.allOf (source : FromSource) (database : Option String := none) : Select :=
  { (default : Select) with
    columns := [.all], source := [⟨source, none, .inner, none, none, database, none⟩] }

/-- The join operator that join words spell, written as in the statement: each word is one of
`NATURAL`, `LEFT`, `RIGHT`, `FULL`, `OUTER`, `INNER`, `CROSS`, and `OUTER` goes with `LEFT`,
`RIGHT` or `FULL` and never with `INNER` or `CROSS`. -/
def joinOpOf (words : List String) : Except ParseError JoinOp := do
  let keys := words.map fun w => String.ofList (w.toList.map asciiUpper)
  let known := ["NATURAL", "LEFT", "RIGHT", "FULL", "OUTER", "INNER", "CROSS"]
  let has := fun (k : String) => keys.contains k
  let bad := !(keys.takeWhile known.contains).length == keys.length ||
    ((has "INNER" || has "CROSS") && (has "OUTER" || has "LEFT" || has "RIGHT" || has "FULL")) ||
    (has "OUTER" && !(has "LEFT" || has "RIGHT" || has "FULL"))
  if bad then throw (.unknownJoin (" ".intercalate words))
  pure ⟨has "NATURAL", has "LEFT" || has "FULL", has "RIGHT" || has "FULL"⟩

/-- A `LIKE`-like operator's keyword. -/
def Token.patternWord (t : Token) : String :=
  match t.kind with
  | .keyword w => w
  | _ => "LIKE"

/-- The operator that joins the next item of `FROM`, if one follows: `,` or `JOIN` for the
plain join, or up to three words (the first a join word) before `JOIN`. -/
def joinOp? : Reader (Option JoinOp) := do
  let t ← peek
  if t.isSymbol "," || t.isKeyword "JOIN" then advance; return some .inner
  if !t.isJoinWord then return none
  advance
  let second ← peek
  let words ←
    if second.isKeyword "JOIN" then pure [t.text]
    else if second.isNm then
      advance
      let third ← peek
      if third.isKeyword "JOIN" then pure [t.text, second.text]
      else if third.isNm then advance; pure [t.text, second.text, third.text]
      else failAt third
    else failAt second
  expectKeyword "JOIN"
  let _ ← peek
  match joinOpOf words with
  | .ok op => pure (some op)
  | .error e => throw e

/-- Names in parentheses, separated by commas, as after `USING`. -/
def nameList : Nat → Reader (List String)
  | 0 => throw .tooDeep
  | fuel + 1 => do
    let n ← expectName Token.isNm
    if ← acceptSymbol "," then pure (n :: (← nameList fuel)) else pure [n]

mutual

/-- An expression whose operators bind at least as tightly as `level`. -/
def exprAt : Nat → Nat → Reader Expr
  | 0, _ => throw .tooDeep
  | fuel + 1, level => do
    let lhs ← prefixExpr fuel
    continueExpr fuel level lhs

/-- An operand, with its prefix operators. -/
def prefixExpr : Nat → Reader Expr
  | 0 => throw .tooDeep
  | fuel + 1 => do
    let t ← peek
    if t.isKeyword "NOT" then advance; pure (.unary .not (← exprAt fuel 3))
    else if t.isSymbol "~" then advance; pure (.unary .bitNot (← exprAt fuel 12))
    else if t.isSymbol "-" then advance; pure (.unary .neg (← exprAt fuel 12))
    else if t.isSymbol "+" then advance; pure (.unary .pos (← exprAt fuel 12))
    else primary fuel

/-- Operators after `lhs` that bind at least as tightly as `level`. -/
def continueExpr : Nat → Nat → Expr → Reader Expr
  | 0, _, _ => throw .tooDeep
  | fuel + 1, level, lhs => do
    let t ← peek
    match infixLevel t with
    | none => pure lhs
    | some l =>
      if l < level then pure lhs else
      let e ← infixExpr fuel t lhs
      continueExpr fuel level e

/-- The operator `t` applied to `lhs`, with what follows it. -/
def infixExpr : Nat → Token → Expr → Reader Expr
  | 0, _, _ => throw .tooDeep
  | fuel + 1, t, lhs => do
    advance
    match t.kind with
    | .keyword "COLLATE" =>
      let c ← peek
      if c.isIds then advance; pure (.collate lhs c.name) else failAt c
    | .keyword "ISNULL" => pure (.isNull lhs false)
    | .keyword "NOTNULL" => pure (.isNull lhs true)
    | .keyword "IS" =>
      let negated ← acceptKeyword "NOT"
      if ← acceptKeyword "DISTINCT" then
        expectKeyword "FROM"
        let rhs ← exprAt fuel 5
        pure (.binary (if negated then .is else .isNot) lhs rhs)
      else
        let rhs ← exprAt fuel 5
        pure (.binary (if negated then .isNot else .is) lhs rhs)
    | .keyword "NOT" =>
      let n ← peek
      match n.kind with
      | .keyword "NULL" => advance; pure (.isNull lhs true)
      | .keyword "LIKE" | .keyword "GLOB" | .keyword "REGEXP" | .keyword "MATCH" =>
        advance
        patternRest fuel n lhs true
      | .keyword "BETWEEN" => advance; betweenRest fuel lhs true
      | .keyword "IN" => advance; inRest fuel lhs true
      | _ => failAt n
    | .keyword "LIKE" | .keyword "GLOB" | .keyword "REGEXP" | .keyword "MATCH" =>
      patternRest fuel t lhs false
    | .keyword "BETWEEN" => betweenRest fuel lhs false
    | .keyword "IN" => inRest fuel lhs false
    | _ =>
      let l := (infixLevel t).getD 1
      let rhs ← exprAt fuel (l + 1)
      let op := binaryOpOf t
      pure (if op == .and then conjunction lhs rhs else .binary op lhs rhs)

/-- The pattern of a `LIKE`-like operator and its optional escape. Each such operator is a
call of the function its keyword names, on the pattern, the subject and the escape: `LIKE`,
and `GLOB` without an escape, are pattern tests; any other (`REGEXP`, `MATCH`, `GLOB` with an
escape) is a plain call under the keyword as written, which finds no function or the wrong
number of arguments when it is resolved. -/
def patternRest : Nat → Token → Expr → Bool → Reader Expr
  | 0, _, _, _ => throw .tooDeep
  | fuel + 1, op, lhs, negated => do
    let pat ← exprAt fuel 5
    let esc ← if ← acceptKeyword "ESCAPE" then some <$> exprAt fuel 5 else pure none
    match op.patternWord, esc with
    | "LIKE", _ => pure (.pattern .like negated lhs pat esc)
    | "GLOB", none => pure (.pattern .glob negated lhs pat none)
    | _, _ =>
      let call := Expr.call op.text false ([pat, lhs] ++ esc.toList)
      pure (if negated then .unary .not call else call)

/-- The bounds of a `BETWEEN`. -/
def betweenRest : Nat → Expr → Bool → Reader Expr
  | 0, _, _ => throw .tooDeep
  | fuel + 1, lhs, negated => do
    let lo ← exprAt fuel 3
    expectKeyword "AND"
    let hi ← exprAt fuel 5
    pure (.between lhs lo hi negated)

/-- The list of an `IN`: expressions in parentheses, a subquery, or a table. -/
def inRest : Nat → Expr → Bool → Reader Expr
  | 0, _, _ => throw .tooDeep
  | fuel + 1, lhs, negated => do
    let t ← peek
    if t.isSymbol "(" then
      advance
      let n ← peek
      if n.startsQuery then
        let q ← selectBody fuel
        expectSymbol ")"
        pure (.inQuery lhs q negated)
      else if n.isSymbol ")" then advance; pure (.inList lhs [] negated)
      else
        let items ← exprList fuel
        expectSymbol ")"
        inListOf lhs items negated
    else if t.isNm then
      advance
      let (database, name) ← if ← acceptSymbol "." then
          pure (some t.name, ← expectName Token.isNm)
        else pure (none, t.name)
      if ← acceptSymbol "(" then
        let args ← if ← acceptSymbol ")" then pure [] else
          let args ← exprList fuel
          expectSymbol ")"
          pure args
        pure (.inQuery lhs (Select.allOf (.function name args) database) negated)
      else pure (.inQuery lhs (Select.allOf (.table name) database) negated)
    else failAt t

/-- One or more expressions separated by commas. -/
def exprList : Nat → Reader (List Expr)
  | 0 => throw .tooDeep
  | fuel + 1 => do
    let e ← exprAt fuel 1
    if ← acceptSymbol "," then pure (e :: (← exprList fuel)) else pure [e]

/-- The `WHEN … THEN …` branches of a `CASE`. -/
def caseBranches : Nat → Reader (List (Expr × Expr))
  | 0 => throw .tooDeep
  | fuel + 1 => do
    expectKeyword "WHEN"
    let w ← exprAt fuel 1
    expectKeyword "THEN"
    let th ← exprAt fuel 1
    if (← peek).isKeyword "WHEN" then pure ((w, th) :: (← caseBranches fuel))
    else pure [(w, th)]

/-- A literal, a name, a call, a parenthesised expression or a special form. -/
def primary : Nat → Reader Expr
  | 0 => throw .tooDeep
  | fuel + 1 => do
    let t ← peek
    match t.kind with
    | .integer => advance; pure (.integer t.text)
    | .float => advance; pure (.real t.text)
    | .blob => advance; pure (.blob (blobLiteral t.text))
    | .variable => advance; parameter t.text
    | .string =>
      if (← peekSecond).isSymbol "." then nameExpr fuel t
      else advance; pure (.text t.name)
    | .symbol "(" =>
      advance
      let n ← peek
      if n.startsQuery then
        let q ← selectBody fuel
        expectSymbol ")"
        pure (.subquery q)
      else
      let e ← exprAt fuel 1
      if ← acceptSymbol "," then
        let more ← exprList fuel
        expectSymbol ")"
        pure (.vector (e :: more))
      else
        expectSymbol ")"
        pure e
    | .keyword "NULL" => advance; pure .null
    | .keyword "CAST" =>
      advance
      expectSymbol "("
      let e ← exprAt fuel 1
      expectKeyword "AS"
      let ty ← typeToken fuel
      expectSymbol ")"
      pure (.cast e ty)
    | .keyword "CASE" =>
      advance
      let operand ← if (← peek).isKeyword "WHEN" then pure none else some <$> exprAt fuel 1
      let branches ← caseBranches fuel
      let otherwise ← if ← acceptKeyword "ELSE" then some <$> exprAt fuel 1 else pure none
      expectKeyword "END"
      pure (.case operand branches otherwise)
    | .keyword "EXISTS" =>
      advance
      expectSymbol "("
      let q ← selectBody fuel
      expectSymbol ")"
      pure (.exists q)
    | .keyword "RAISE" =>
      advance
      expectSymbol "("
      skipGroup fuel 0
      pure .raise
    | .keyword "CURRENT_DATE" | .keyword "CURRENT_TIME" | .keyword "CURRENT_TIMESTAMP" =>
      advance
      pure (.call (String.ofList (t.text.toList.map asciiLower)) false [])
    | _ => if t.isIdj then nameExpr fuel t else failAt t

/-- A name at hand: a call, a qualified column, or a plain name. -/
def nameExpr : Nat → Token → Reader Expr
  | 0, _ => throw .tooDeep
  | fuel + 1, t => do
    advance
    let n ← peek
    if n.isSymbol "(" && t.isIdj then
      advance
      if ← acceptSymbol "*" then
        expectSymbol ")"
        callClauses fuel t.name false []
      else
        let distinct ← acceptKeyword "DISTINCT"
        if !distinct then let _ ← acceptKeyword "ALL"
        if ← acceptSymbol ")" then callClauses fuel t.name distinct []
        else
          let args ← exprList fuel
          expectSymbol ")"
          callClauses fuel t.name distinct args
    else if n.isSymbol "." then
      advance
      let c ← expectName Token.isNm
      if ← acceptSymbol "." then
        let c2 ← expectName Token.isNm
        pure (.qualified (some t.name) c c2)
      else pure (.qualified none t.name c)
    else if t.kind = .string then failAt n
    else pure (.name t.name (t.text.startsWith "\""))

/-- A call with the `FILTER (WHERE …)` and `OVER …` clauses that may follow its closing
parenthesis. `FILTER` and `OVER` are keywords only there, and `OVER` only before `(` or a
name. -/
def callClauses : Nat → String → Bool → List Expr → Reader Expr
  | 0, _, _, _ => throw .tooDeep
  | fuel + 1, fn, distinct, args => do
    let filter ←
      if (← peek).isKeyword "FILTER" && (← peekSecond).isSymbol "(" then
        advance
        advance
        expectKeyword "WHERE"
        let e ← exprAt fuel 1
        expectSymbol ")"
        pure (some e)
      else pure none
    let next ← peekSecond
    let window ←
      if (← peek).isKeyword "OVER" && (next.isSymbol "(" || next.isNm) then
        advance
        if ← acceptSymbol "(" then
          let w ← windowBody fuel
          expectSymbol ")"
          pure (some w)
        else
          let name ← expectName Token.isNm
          pure (some ⟨some name, none, [], [], ⟨.range, .unboundedPreceding, .currentRow,
            .noOthers, true⟩⟩)
      else pure none
    if distinct && window.isSome then throw .distinctWindow
    if filter.isNone && window.isNone then pure (.call fn distinct args)
    else pure (.windowed fn distinct args filter window)

/-- The inside of a window's parentheses: an optional window it builds on, partitions, an
ordering and a frame. -/
def windowBody : Nat → Reader Window
  | 0 => throw .tooDeep
  | fuel + 1 => do
    let t ← peek
    let base ←
      if t.isNm && !t.startsWindowPart then advance; pure (some t.name) else pure none
    let partition ←
      if ← acceptKeyword "PARTITION" then expectKeyword "BY"; exprList fuel else pure []
    let order ←
      if ← acceptKeyword "ORDER" then expectKeyword "BY"; orderTerms fuel else pure []
    let frame ← frameSpec fuel
    pure ⟨none, base, partition, order, frame⟩

/-- A frame: `RANGE`, `ROWS` or `GROUPS` with one bound (the start, ending at the current
row) or two, and an optional exclusion; nothing is the default frame. -/
def frameSpec : Nat → Reader Frame
  | 0 => throw .tooDeep
  | fuel + 1 => do
    let t ← peek
    let unit : Option FrameUnit :=
      if t.isKeyword "RANGE" then some .range
      else if t.isKeyword "ROWS" then some .rows
      else if t.isKeyword "GROUPS" then some .groups else none
    match unit with
    | none => pure ⟨.range, .unboundedPreceding, .currentRow, .noOthers, true⟩
    | some unit =>
      advance
      let (start, finish) ←
        if ← acceptKeyword "BETWEEN" then
          let s ← frameBound fuel true
          expectKeyword "AND"
          let e ← frameBound fuel false
          pure (s, e)
        else
          let s ← frameBound fuel true
          pure (s, FrameBound.currentRow)
      let exclude ←
        if ← acceptKeyword "EXCLUDE" then
          let x ← peek
          if x.isKeyword "NO" then advance; expectKeyword "OTHERS"; pure FrameExclusion.noOthers
          else if x.isKeyword "CURRENT" then
            advance; expectKeyword "ROW"; pure FrameExclusion.currentRow
          else if x.isKeyword "GROUP" then advance; pure FrameExclusion.group
          else if x.isKeyword "TIES" then advance; pure FrameExclusion.ties
          else failAt x
        else pure FrameExclusion.noOthers
      if start.refused finish then throw .unsupportedFrame
      pure ⟨unit, start, finish, exclude, false⟩

/-- One bound of a frame; `UNBOUNDED` goes with `PRECEDING` at the start and with
`FOLLOWING` at the end. -/
def frameBound : Nat → Bool → Reader FrameBound
  | 0, _ => throw .tooDeep
  | fuel + 1, isStart => do
    let t ← peek
    if t.isKeyword "UNBOUNDED" then
      advance
      if isStart then expectKeyword "PRECEDING"; pure .unboundedPreceding
      else expectKeyword "FOLLOWING"; pure .unboundedFollowing
    else if t.isKeyword "CURRENT" then
      advance
      expectKeyword "ROW"
      pure .currentRow
    else
      let e ← exprAt fuel 1
      if ← acceptKeyword "PRECEDING" then pure (.preceding e)
      else if ← acceptKeyword "FOLLOWING" then pure (.following e)
      else fail

/-- One term of an ordering: an expression, a direction, and where nothing goes. -/
def orderTerm : Nat → Reader OrderTerm
  | 0 => throw .tooDeep
  | fuel + 1 => do
    let e ← exprAt fuel 1
    let descending ←
      if ← acceptKeyword "DESC" then pure true
      else let _ ← acceptKeyword "ASC"; pure false
    if ← acceptKeyword "NULLS" then
      if ← acceptKeyword "FIRST" then pure ⟨e, descending, some true⟩
      else expectKeyword "LAST"; pure ⟨e, descending, some false⟩
    else pure ⟨e, descending, none⟩

/-- Ordering terms separated by commas. -/
def orderTerms : Nat → Reader (List OrderTerm)
  | 0 => throw .tooDeep
  | fuel + 1 => do
    let o ← orderTerm fuel
    if ← acceptSymbol "," then pure (o :: (← orderTerms fuel)) else pure [o]

/-- One result column: `*`, `t.*`, or an expression with an optional alias. -/
def resultColumn : Nat → Reader ResultColumn
  | 0 => throw .tooDeep
  | fuel + 1 => do
    let t ← peek
    if t.isSymbol "*" then advance; pure .all
    else
      let c ← get
      let star := match c.tokens with
        | _ :: dot :: star :: _ => t.isNm && dot.isSymbol "." && star.isSymbol "*"
        | _ => false
      if star then
        advance; advance; advance
        pure (.allOf t.name)
      else
        let e ← exprAt fuel 1
        let next ← peek
        let span := trimSpaces (← sourceSlice t.start next.start)
        if next.isKeyword "AS" then
          advance
          let a ← expectName Token.isNm
          pure (.expr e (some a) span)
        else if next.isIds then
          advance
          pure (.expr e (some next.name) span)
        else pure (.expr e none span)

/-- Result columns separated by commas. -/
def resultColumns : Nat → Reader (List ResultColumn)
  | 0 => throw .tooDeep
  | fuel + 1 => do
    let c ← resultColumn fuel
    if ← acceptSymbol "," then pure (c :: (← resultColumns fuel)) else pure [c]

/-- One item of `FROM`, joined by `join` to the items before it (`first` when there are
none): a table, a table function's rows, a subquery or joined items in parentheses, an
optional alias, and an optional `ON` or `USING` clause. -/
def fromItem : Nat → JoinOp → Bool → Reader FromItem
  | 0, _, _ => throw .tooDeep
  | fuel + 1, join, first => do
    let t ← peek
    let (source, asName, database, indexedBy) ←
      if t.isSymbol "(" then
        advance
        if (← peek).startsQuery then
          let q ← selectBody fuel
          expectSymbol ")"
          pure (FromSource.query q, ← aliasOpt, none, none)
        else
          let items ← fromItems fuel
          expectSymbol ")"
          pure (FromSource.nested items, ← aliasOpt, none, none)
      else
        let first ← expectName Token.isNm
        let (database, name) ← if ← acceptSymbol "." then
            pure (some first, ← expectName Token.isNm)
          else pure (none, first)
        if ← acceptSymbol "(" then
          let args ← if ← acceptSymbol ")" then pure [] else
            let args ← exprList fuel
            expectSymbol ")"
            pure args
          pure (FromSource.function name args, ← aliasOpt, database, none)
        else
          let asName ← aliasOpt
          let index ← if ← acceptKeyword "INDEXED" then
              expectKeyword "BY"
              some <$> expectName Token.isNm
            else if (← peek).isKeyword "NOT" then
              advance
              expectKeyword "INDEXED"
              pure none
            else pure none
          pure (FromSource.table name, asName, database, index)
    let on ← if ← acceptKeyword "ON" then some <$> exprAt fuel 1 else pure none
    let usingColumns ← if on.isNone && (← acceptKeyword "USING") then
        expectSymbol "("
        let ns ← nameList fuel
        expectSymbol ")"
        pure (some ns)
      else pure none
    if first && (on.isSome || usingColumns.isSome) then
      let _ ← peek
      throw (.joinClauseRequired (if on.isSome then "ON" else "USING"))
    pure ⟨source, asName, join, on, usingColumns, database, indexedBy⟩

/-- The items of `FROM`, each joined to those before it. -/
def fromItems : Nat → Reader (List FromItem)
  | 0 => throw .tooDeep
  | fuel + 1 => do
    let first ← fromItem fuel .inner true
    pure (first :: (← moreFromItems fuel))

/-- Further items of `FROM`, each after its join operator. -/
def moreFromItems : Nat → Reader (List FromItem)
  | 0 => throw .tooDeep
  | fuel + 1 => do
    match ← joinOp? with
    | none => pure []
    | some op =>
      let item ← fromItem fuel op false
      pure (item :: (← moreFromItems fuel))

/-- The definitions of a `WINDOW` clause: `name AS (…)`, separated by commas. -/
def windowDefs : Nat → Reader (List (String × Window))
  | 0 => throw .tooDeep
  | fuel + 1 => do
    let name ← expectName Token.isNm
    expectKeyword "AS"
    expectSymbol "("
    let w ← windowBody fuel
    expectSymbol ")"
    if ← acceptSymbol "," then pure ((name, w) :: (← windowDefs fuel)) else pure [(name, w)]

/-- One `SELECT`, up to the end of its `LIMIT` clause. -/
def simpleSelect : Nat → Reader Select
  | 0 => throw .tooDeep
  | fuel + 1 => do
    expectKeyword "SELECT"
    let distinct ← acceptKeyword "DISTINCT"
    if !distinct then let _ ← acceptKeyword "ALL"
    let columns ← resultColumns fuel
    let source ← if ← acceptKeyword "FROM" then fromItems fuel else pure []
    let filter ← if ← acceptKeyword "WHERE" then some <$> exprAt fuel 1 else pure none
    let groupBy ←
      if ← acceptKeyword "GROUP" then expectKeyword "BY"; exprList fuel else pure []
    let having ← if ← acceptKeyword "HAVING" then some <$> exprAt fuel 1 else pure none
    let windows ←
      if (← peek).isKeyword "WINDOW" && (← peekSecond).isNm then
        advance
        windowDefs fuel
      else pure []
    let orderBy ←
      if ← acceptKeyword "ORDER" then expectKeyword "BY"; orderTerms fuel else pure []
    let (limit, offset) ←
      if ← acceptKeyword "LIMIT" then
        let first ← exprAt fuel 1
        if ← acceptKeyword "OFFSET" then pure (some first, some (← exprAt fuel 1))
        else if ← acceptSymbol "," then
          let second ← exprAt fuel 1
          pure (some second, some first)
        else pure (some first, none)
      else pure (none, none)
    pure { (default : Select) with
      distinct := distinct, columns := columns, source := source, filter := filter,
      groupBy := groupBy, having := having, windows := windows, orderBy := orderBy,
      limit := limit, offset := offset }

/-- The rows of `VALUES` after the first, each in parentheses after a comma. -/
def valuesRows : Nat → Reader (List (List Expr))
  | 0 => throw .tooDeep
  | fuel + 1 => do
    if ← acceptSymbol "," then
      expectSymbol "("
      let row ← exprList fuel
      expectSymbol ")"
      pure (row :: (← valuesRows fuel))
    else pure []

/-- One simple query: a `SELECT`, or the rows of a `VALUES`, each row a query of its own,
combined by `UNION ALL`. -/
def simpleQuery : Nat → Reader (List Select)
  | 0 => throw .tooDeep
  | fuel + 1 => do
    if ← acceptKeyword "VALUES" then
      expectSymbol "("
      let first ← exprList fuel
      expectSymbol ")"
      pure (valuesQueries (first :: (← valuesRows fuel)))
    else pure [← simpleSelect fuel]

/-- The set operator at hand, if one is. -/
def setOp? : Reader (Option SetOp) := do
  if ← acceptKeyword "UNION" then
    pure (some (if ← acceptKeyword "ALL" then .unionAll else .union))
  else if ← acceptKeyword "INTERSECT" then pure (some .intersect)
  else if ← acceptKeyword "EXCEPT" then pure (some .except)
  else pure none

/-- The queries combined with the first one, each after its set operator. A `VALUES` of
several rows after an operator is one query, read as a subquery. -/
def compoundArms : Nat → Reader (List (SetOp × Select))
  | 0 => throw .tooDeep
  | fuel + 1 => do
    match ← setOp? with
    | none => pure []
    | some op =>
      let arm ← match ← simpleQuery fuel with
        | [q] => pure q
        | q :: more => pure (Select.allOf (.query { q with compound := more.map (.unionAll, ·) }))
        | [] => pure default
      pure ((op, arm) :: (← compoundArms fuel))

/-- The named queries of a `WITH` clause, separated by commas. -/
def commonTables : Nat → List CommonTable → Reader (List CommonTable)
  | 0, _ => throw .tooDeep
  | fuel + 1, seen => do
    let name ← expectName Token.isNm
    let columnNames ← if ← acceptSymbol "(" then
        let ns ← nameList fuel
        expectSymbol ")"
        pure (some ns)
      else pure none
    expectKeyword "AS"
    if ← acceptKeyword "NOT" then expectKeyword "MATERIALIZED"
    else let _ ← acceptKeyword "MATERIALIZED"
    expectSymbol "("
    let q ← selectBody fuel
    expectSymbol ")"
    if seen.any (sameName ·.name name) then
      let _ ← peek
      throw (.duplicateCommonTable name)
    let seen := seen ++ [⟨name, columnNames, q⟩]
    if ← acceptSymbol "," then commonTables fuel seen else pure seen

/-- A full query: an optional `WITH` clause, then simple queries combined by set operators.
The last query's ordering and limit apply to the combined rows; an earlier query may have
none. -/
def selectBody : Nat → Reader Select
  | 0 => throw .tooDeep
  | fuel + 1 => do
    let common ← if ← acceptKeyword "WITH" then
        let _ ← acceptKeyword "RECURSIVE"
        commonTables fuel []
      else pure []
    let first ← simpleQuery fuel
    let arms := (first.drop 1).map (SetOp.unionAll, ·) ++ (← compoundArms fuel)
    let head := first.headD default
    let _ ← peek
    let ops := arms.map (·.1)
    let earlier := (head :: arms.map (·.2)).zip ops
    if let some (q, op) := earlier.reverse.find? fun (q, _) =>
        !q.orderBy.isEmpty || q.limit.isSome then
      throw (.clauseBeforeSetOp (if q.orderBy.isEmpty then "LIMIT" else "ORDER BY") op.words)
    let last := ((arms.getLast?).map (·.2)).getD head
    let arms := arms.map fun (op, q) =>
      (op, { q with orderBy := [], limit := none, offset := none })
    pure { head with
      compound := arms, common := common, orderBy := last.orderBy, limit := last.limit,
      offset := last.offset }

end

/-- An expression at the loosest level. -/
def expr (fuel : Nat) : Reader Expr := exprAt fuel 1

/-- The end of the first statement: a `;` or the end of the text. Gives the text after the
`;`. -/
def statementEnd : Reader String := do
  let t ← peek
  if t.kind = .eof then pure ""
  else if t.isSymbol ";" then
    let c ← get
    pure (String.ofList (c.source.drop (t.start + 1)))
  else failAt t

/-- The cursor at the start of a text. -/
def Cursor.start (text : String) : Cursor :=
  ⟨text.toList, settleKeywords none (tokenize text), 0, []⟩

/-- The fuel that bounds the reading of a text. -/
def readingFuel (text : String) : Nat := 8 * (text.length + 8)

/-- A query read from the first statement of a text: the query, how many parameters it
uses, and the text after its `;`. -/
def parseSelect (text : String) : Except ParseError (Select × Nat × String) := do
  let (s, c) ← (do
    let s ← selectBody (readingFuel text)
    let tail ← statementEnd
    pure (s, tail)).run (Cursor.start text)
  pure (s.1, c.params, s.2)

/-- Why a table could not be created. -/
inductive CreateError where
  | malformed (e : ParseError)
  | duplicateColumn (name : String)
  deriving Repr, BEq

/-- The text that explains a failed creation. -/
def CreateError.message : CreateError → String
  | .malformed e => e.message
  | .duplicateColumn n => "duplicate column name: " ++ n

/-- Whether a token can follow the name and type of a column or one of its constraints: the
`,` or `)` that ends the column, or a word that starts a constraint. -/
def Token.followsColumnType (t : Token) : Bool :=
  t.isSymbol "," || t.isSymbol ")" ||
    ["CONSTRAINT", "DEFAULT", "NULL", "NOT", "PRIMARY", "UNIQUE", "CHECK", "REFERENCES",
      "DEFERRABLE", "COLLATE", "GENERATED", "AS"].any t.isKeyword

/-- Fails with `e`, an error found in a part of a column just read, once the next token shows
that the part is complete: a token that cannot follow is reported instead. -/
def failAfterPart {α : Type} (e : ParseError) : Reader α := do
  let t ← peek
  if t.followsColumnType then throw e else failAt t

/-- Takes one of the keywords `ws` or fails. -/
def expectOneOf (ws : List String) : Reader Unit := do
  let t ← peek
  if ws.any t.isKeyword then advance else failAt t

/-- Takes an optional `ASC` or `DESC`. -/
def sortOrder : Reader Unit := do
  let t ← peek
  if t.isKeyword "ASC" || t.isKeyword "DESC" then advance

/-- Takes the optional `ON CONFLICT` clause of a constraint. -/
def conflictClause : Reader Unit := do
  if ← acceptKeyword "ON" then
    expectKeyword "CONFLICT"
    expectOneOf ["ROLLBACK", "ABORT", "FAIL", "IGNORE", "REPLACE"]

/-- Takes the optional `INITIALLY DEFERRED` or `INITIALLY IMMEDIATE` of a deferrable
constraint. -/
def initiallyClause : Reader Unit := do
  if ← acceptKeyword "INITIALLY" then expectOneOf ["DEFERRED", "IMMEDIATE"]

/-- Whether a token is a literal that a default value may be: nothing, a number, a text, a
blob, or the current date or time. -/
def Token.isLiteralTerm (t : Token) : Bool :=
  t.kind == .integer || t.kind == .float || t.kind == .string || t.kind == .blob ||
    ["NULL", "CURRENT_DATE", "CURRENT_TIME", "CURRENT_TIMESTAMP"].any t.isKeyword

/-- Takes the value of a `DEFAULT` clause: an expression in parentheses, a literal with an
optional sign, or a name. -/
def defaultValue (fuel : Nat) : Reader Unit := do
  let t ← peek
  if t.isSymbol "(" then
    advance
    let _ ← exprAt fuel 1
    expectSymbol ")"
  else if t.isSymbol "+" || t.isSymbol "-" then
    advance
    let n ← peek
    if n.isLiteralTerm then advance else failAt n
  else if t.isLiteralTerm || t.isId then advance
  else failAt t

/-- Takes the columns a foreign key names after its `(`: names, each with an optional
collation and order, up to the closing `)`. -/
def keyColumns : Nat → Reader Unit
  | 0 => throw .tooDeep
  | fuel + 1 => do
    let _ ← expectName Token.isNm
    if ← acceptKeyword "COLLATE" then
      let _ ← expectName Token.isIds
    sortOrder
    if ← acceptSymbol "," then keyColumns fuel else expectSymbol ")"

/-- Takes the match clauses and actions of a foreign key. -/
def referenceArgs : Nat → Reader Unit
  | 0 => throw .tooDeep
  | fuel + 1 => do
    if ← acceptKeyword "MATCH" then
      let _ ← expectName Token.isNm
      referenceArgs fuel
    else if ← acceptKeyword "ON" then
      expectOneOf ["INSERT", "DELETE", "UPDATE"]
      let t ← peek
      if t.isKeyword "SET" then
        advance
        expectOneOf ["NULL", "DEFAULT"]
      else if t.isKeyword "NO" then
        advance
        expectKeyword "ACTION"
      else expectOneOf ["CASCADE", "RESTRICT"]
      referenceArgs fuel
    else pure ()

/-- Takes the expression of a generated column, in parentheses, and the optional word that
says how it is kept, `VIRTUAL` or `STORED`, which it gives. -/
def generatedValue (fuel : Nat) : Reader (Option Token) := do
  expectSymbol "("
  let _ ← exprAt fuel 1
  expectSymbol ")"
  let t ← peek
  if t.isId then
    advance
    pure (some t)
  else pure none

/-- Whether the word after a generated column's expression is one the engine knows, spelled
as it is written. -/
def knownGeneratedKind : Option Token → Bool
  | none => true
  | some t => t.text.toLower == "virtual" || t.text.toLower == "stored"

/-- Takes the constraints of the column `column` up to the `,` or `)` that ends it, noting
whether it has a default value and whether it is generated. Each follows the grammar of column
constraints; any other token stops the statement there. A generated column may have no
default value, before or after. -/
def columnConstraints (column : String) : Nat → Bool → Bool → Reader Unit
  | 0, _, _ => throw .tooDeep
  | fuel + 1, hasDefault, generated => do
    let t ← peek
    let more := columnConstraints column fuel hasDefault generated
    if t.isSymbol "," || t.isSymbol ")" then pure ()
    else if t.isKeyword "CONSTRAINT" then
      advance
      let _ ← expectName Token.isNm
      more
    else if t.isKeyword "DEFAULT" then
      advance
      defaultValue fuel
      if generated then failAfterPart .defaultOnGenerated
      columnConstraints column fuel true generated
    else if t.isKeyword "NULL" || t.isKeyword "UNIQUE" then
      advance
      conflictClause
      more
    else if t.isKeyword "NOT" then
      advance
      let n ← peek
      if n.isKeyword "NULL" then
        advance
        conflictClause
      else if n.isKeyword "DEFERRABLE" then
        advance
        initiallyClause
      else failAt n
      more
    else if t.isKeyword "PRIMARY" then
      advance
      expectKeyword "KEY"
      sortOrder
      conflictClause
      let _ ← acceptKeyword "AUTOINCREMENT"
      more
    else if t.isKeyword "CHECK" then
      advance
      expectSymbol "("
      let _ ← exprAt fuel 1
      expectSymbol ")"
      more
    else if t.isKeyword "REFERENCES" then
      advance
      let _ ← expectName Token.isNm
      if ← acceptSymbol "(" then keyColumns fuel
      referenceArgs fuel
      more
    else if t.isKeyword "DEFERRABLE" then
      advance
      initiallyClause
      more
    else if t.isKeyword "COLLATE" then
      advance
      let name ← expectName Token.isIds
      if (Collation.ofName? name).isNone then failAfterPart (.unknownCollation name)
      more
    else if t.isKeyword "GENERATED" || t.isKeyword "AS" then
      advance
      if t.isKeyword "GENERATED" then
        expectKeyword "ALWAYS"
        expectKeyword "AS"
      let kind ← generatedValue fuel
      if hasDefault || !knownGeneratedKind kind then failAfterPart (.generatedColumn column)
      columnConstraints column fuel hasDefault true
    else failAt t

/-- The columns of a `CREATE TABLE` statement, each checked against those before it. -/
def columnDefs : Nat → List ColumnDef → ExceptT CreateError Reader (List ColumnDef)
  | 0, _ => throw (.malformed .tooDeep)
  | fuel + 1, seen => do
    let name ← (expectName Token.isNm : Reader String)
    let typeName ← (typeToken fuel : Reader String)
    let next ← (peek : Reader Token)
    if !next.followsColumnType then (failAt next : Reader Unit)
    if seen.any (fun c => sameName c.name name) then throw (.duplicateColumn name)
    (columnConstraints name fuel false false : Reader Unit)
    let seen := seen ++ [⟨name, typeName⟩]
    if ← (acceptSymbol "," : Reader Bool) then columnDefs fuel seen else pure seen

/-- Takes one option after a table's columns: a name, or `WITHOUT` and a name. Only `STRICT`
and `WITHOUT ROWID` are known, spelled without quotes; another is an error once the next token
shows that the option is complete. -/
def tableOption : Reader Unit := do
  let t ← peek
  let (word, known) ← if t.isKeyword "WITHOUT" then do
      advance
      let n ← peek
      if n.isNm then
        advance
        pure (n, "rowid")
      else failAt n
    else if t.isNm then do
      advance
      pure (t, "strict")
    else failAt t
  let next ← peek
  if !(next.isSymbol "," || next.isSymbol ";" || next.kind == .eof) then failAt next
  if word.text.toLower != known then throw (.unknownTableOption word.text)

/-- Takes the options after a table's columns, separated by commas. -/
def tableOptions : Nat → Reader Unit
  | 0 => throw .tooDeep
  | fuel + 1 => do
    tableOption
    if ← acceptSymbol "," then tableOptions fuel

/-- The columns that a `CREATE TABLE name (…)` statement declares, and the text after the
`;` that ends it. -/
def parseCreateTable (text : String) : Except CreateError (List ColumnDef × String) :=
  let reading : ExceptT CreateError Reader (List ColumnDef × String) := do
    (expectKeyword "CREATE" : Reader Unit)
    (expectKeyword "TABLE" : Reader Unit)
    let _ ← (expectName Token.isNm : Reader String)
    (expectSymbol "(" : Reader Unit)
    let cols ← columnDefs (readingFuel text) []
    (expectSymbol ")" : Reader Unit)
    let t ← (peek : Reader Token)
    if !(t.kind == .eof || t.isSymbol ";") then (tableOptions (readingFuel text) : Reader Unit)
    let tail ← (statementEnd : Reader String)
    pure (cols, tail)
  match (reading.run).run (Cursor.start text) with
  | .error e => .error (.malformed e)
  | .ok (r, _) => r

end Tabula.Sql
