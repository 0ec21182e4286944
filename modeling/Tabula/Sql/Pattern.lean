import Tabula.Sql.Compare

/-!
# Text patterns: `LIKE` and `GLOB`

A pattern is matched against a text from left to right. `LIKE` patterns use `%` for any run
of characters and `_` for one character, and compare ASCII letters without regard to case;
an escape character makes the character after it literal. `GLOB` patterns use `*`, `?` and
character sets `[…]` (with ranges `a-z` and a leading `^` for the complement), and are
case-sensitive.

Pattern and text are read as code points the way the engine decodes its text, so that bytes
that are not well-formed UTF-8 still stand for distinct values (a code point above U+10FFFF
among them) rather than all reading as one replacement character.

The matcher reports three outcomes: a match, no match, and no match even when more text is
skipped before the current wildcard. The third lets a search after `%` stop early; it is
still a failure to match.
-/

namespace Tabula.Sql

/-- The wildcards of a pattern language, as code points. -/
structure PatternRules where
  /-- Matches any run of characters. -/
  matchAll : Option Nat
  /-- Matches one character. -/
  matchOne : Option Nat
  /-- Opens a character set. -/
  matchSet : Option Nat
  /-- Whether ASCII letters match without regard to case. -/
  noCase : Bool
  deriving Repr

/-- The rules of `LIKE`. -/
def PatternRules.like : PatternRules := ⟨some '%'.toNat, some '_'.toNat, none, true⟩

/-- The rules of `GLOB`. -/
def PatternRules.glob : PatternRules := ⟨some '*'.toNat, some '?'.toNat, some '['.toNat, false⟩

/-- The outcome of a match. -/
inductive MatchOutcome where
  | matched
  | noMatch
  /-- No match, and none if the text is shortened at the front. -/
  | noWildcardMatch
  deriving Repr, BEq, DecidableEq

/-- An ASCII capital letter's code point lowered; any other code point as it is. -/
def lowerPoint (c : Nat) : Nat := if 65 ≤ c && c ≤ 90 then c + 32 else c

/-- Whether two code points are the same, ASCII letters folded when `noCase`. -/
def samePoint (noCase : Bool) (a b : Nat) : Bool :=
  a == b || (noCase && lowerPoint a == lowerPoint b)

/-- Skips wildcards after a `matchAll`: more `matchAll`s, and `matchOne`s, each of which
takes one character of the text. `none` when the text runs out. -/
def skipWildcards (r : PatternRules) : List Nat → List Nat → Option (List Nat × List Nat)
  | c :: p, s =>
    if some c = r.matchAll then skipWildcards r p s
    else if some c = r.matchOne then
      match s with
      | [] => none
      | _ :: s' => skipWildcards r p s'
    else some (c :: p, s)
  | [], s => some ([], s)

/-- The code point that makes a set its complement, just after `[`. -/
def setCaret : Nat := '^'.toNat
/-- The code point that closes a set. -/
def setClose : Nat := ']'.toNat
/-- The code point that marks a range in a set. -/
def setDash : Nat := '-'.toNat

/-- Whether code point `c` belongs to the set at the start of `p` (just after `[`), and the
pattern after the closing `]`; `none` when the set is not closed. -/
def matchSetClass (c : Nat) (p : List Nat) : Option (Bool × List Nat) :=
  let (invert, p) := match p with
    | d :: rest => if d == setCaret then (true, rest) else (false, p)
    | [] => (false, p)
  let (seen, p) := match p with
    | d :: rest => if d == setClose then (c == setClose, rest) else (false, p)
    | [] => (false, p)
  go seen 0 p |>.map fun (seen, rest) => (seen != invert, rest)
where
  /-- Reads the members up to `]`; `prior` is the last member, for ranges. -/
  go (seen : Bool) (prior : Nat) : List Nat → Option (Bool × List Nat)
    | [] => none
    | [d] => if d == setClose then some (seen, []) else go (seen || c == d) d []
    | d :: hi :: rest =>
      if d == setClose then some (seen, hi :: rest)
      else if d == setDash && hi != setClose && prior > 0 then
        go (seen || (prior ≤ c && c ≤ hi)) 0 rest
      else go (seen || c == d) d (hi :: rest)

mutual

/-- Matches pattern `p` against text `s`; `other` is the escape character of `LIKE` or the
set opener of `GLOB`. The fuel bounds the length of the pattern. -/
def matchPattern (r : PatternRules) (other : Option Nat) :
    Nat → List Nat → List Nat → MatchOutcome
  | 0, _, _ => .noMatch
  | _ + 1, [], s => if s.isEmpty then .matched else .noMatch
  | fuel + 1, c :: p, s =>
    if some c = r.matchAll then
      match skipWildcards r p s with
      | none => .noWildcardMatch
      | some ([], _) => .matched
      | some (c :: p, s) =>
        if some c = other then
          if r.matchSet.isNone then
            match p with
            | [] => .noWildcardMatch
            | e :: p => searchFor r other fuel e p s
          else trySuffixes r other fuel (c :: p) s
        else searchFor r other fuel c p s
    else if some c = other then
      if r.matchSet.isNone then
        match p, s with
        | [], _ => .noMatch
        | e :: p, d :: s =>
          if samePoint r.noCase e d then matchPattern r other fuel p s else .noMatch
        | _ :: _, [] => .noMatch
      else
        match s with
        | [] => .noMatch
        | d :: s =>
          match matchSetClass d p with
          | some (true, p) => matchPattern r other fuel p s
          | _ => .noMatch
    else
      match s with
      | d :: s =>
        if samePoint r.noCase c d || some c = r.matchOne then matchPattern r other fuel p s
        else .noMatch
      | [] => .noMatch

/-- After a wildcard: tries the rest of the pattern after each occurrence of `c` in the text. -/
def searchFor (r : PatternRules) (other : Option Nat) :
    Nat → Nat → List Nat → List Nat → MatchOutcome
  | 0, _, _, _ => .noWildcardMatch
  | fuel + 1, c, p, s =>
    match s with
    | [] => .noWildcardMatch
    | d :: s =>
      if samePoint r.noCase c d then
        match matchPattern r other fuel p s with
        | .noMatch => searchFor r other fuel c p s
        | o => o
      else searchFor r other fuel c p s

/-- After a wildcard followed by a set: tries the pattern at each position of the text. -/
def trySuffixes (r : PatternRules) (other : Option Nat) :
    Nat → List Nat → List Nat → MatchOutcome
  | 0, _, _ => .noWildcardMatch
  | fuel + 1, p, s =>
    match s with
    | [] => .noWildcardMatch
    | _ :: rest =>
      match matchPattern r other fuel p s with
      | .noMatch => trySuffixes r other fuel p rest
      | o => o

end

/-- Whether a text matches a pattern, both given as code points. -/
def patternMatches (r : PatternRules) (other : Option Nat) (p s : List Nat) : Bool :=
  matchPattern r other ((p.length + 1) * (s.length + 2)) p s == .matched

/-- The code points of a text. -/
def pointsOf (s : String) : List Nat := s.toList.map Char.toNat

example : patternMatches .like none (pointsOf "x%") (pointsOf "Xc") = true ∧
    patternMatches .like none (pointsOf "x%") (pointsOf "ya") = false ∧
    patternMatches .glob (some '['.toNat) (pointsOf "[a-c]*") (pointsOf "beta") = true := by
  decide +kernel

end Tabula.Sql
