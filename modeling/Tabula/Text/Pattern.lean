import Tabula.Text.Blank
import Tabula.Text.Digit
import Tabula.Text.Word

/-!
# Patterns over characters

A pattern matches a prefix of a text. Alternatives are tried from the left and a repetition
first takes as many rounds as it can (or, when lazy, as few); the first way that lets the rest
of the pattern match is the one taken, so a pattern has one definite match when it has any.
Each round of a repetition must take at least one character. Named groups record the text
they matched. `endOfLine` matches at the end of the text and before a final newline.
-/

namespace Tabula.Text

/-- Patterns over characters. -/
inductive Pattern where
  | empty
  | lit (c : Char)
  | cls (p : Char → Bool)
  | seq (a b : Pattern)
  | alt (a b : Pattern)
  | star (a : Pattern) (lazy : Bool)
  | group (name : String) (a : Pattern)
  | endOfLine

/-- The texts that named groups matched, the latest first. -/
abbrev Groups := List (String × List Char)

/-- Runs a pattern on a text and hands the rest of the text and the groups to `k`; the first
way for which `k` succeeds is taken. `fuel` bounds the rounds of repetitions. -/
def Pattern.run {α : Type} (fuel : Nat) (p : Pattern) (cs : List Char) (gs : Groups)
    (k : List Char → Groups → Option α) : Option α :=
  match p, cs with
  | .empty, _ => k cs gs
  | .lit c, d :: rest => if c == d then k rest gs else none
  | .lit _, [] => none
  | .cls q, d :: rest => if q d then k rest gs else none
  | .cls _, [] => none
  | .seq a b, _ => a.run fuel cs gs fun rest gs' => b.run fuel rest gs' k
  | .alt a b, _ => (a.run fuel cs gs k).orElse fun _ => b.run fuel cs gs k
  | .group name a, _ =>
    a.run fuel cs gs fun rest gs' => k rest ((name, cs.take (cs.length - rest.length)) :: gs')
  | .endOfLine, _ => if cs.isEmpty || cs == ['\n'] then k cs gs else none
  | .star a lazy, _ =>
    match fuel with
    | 0 => k cs gs
    | f + 1 =>
      let more := a.run f cs gs fun rest gs' =>
        if rest.length < cs.length then (Pattern.star a lazy).run f rest gs' k else none
      if lazy then (k cs gs).orElse fun _ => more else more.orElse fun _ => k cs gs
termination_by (fuel, sizeOf p)

/-- The first match at the start of a text: the rest of the text and the groups. -/
def Pattern.matchPrefix (p : Pattern) (cs : List Char) : Option (List Char × Groups) :=
  p.run (cs.length + 1) cs [] fun rest gs => some (rest, gs)

/-- Whether the pattern matches at the start of a text. -/
def Pattern.matchesPrefix (p : Pattern) (cs : List Char) : Bool := (p.matchPrefix cs).isSome

/-- The patterns in sequence. -/
def Pattern.seqAll : List Pattern → Pattern
  | [] => .empty
  | [p] => p
  | p :: ps => .seq p (seqAll ps)

/-- The first of the patterns that matches. -/
def Pattern.altAll : List Pattern → Pattern
  | [] => .cls fun _ => false
  | [p] => p
  | p :: ps => .alt p (altAll ps)

/-- One or more rounds, as many as possible. -/
def Pattern.plus (p : Pattern) : Pattern := .seq p (.star p false)

/-- One or more rounds, as few as possible. -/
def Pattern.plusLazy (p : Pattern) : Pattern := .seq p (.star p true)

/-- The pattern or nothing, the pattern first. -/
def Pattern.opt (p : Pattern) : Pattern := .alt p .empty

/-- Exactly `n` rounds. -/
def Pattern.times (n : Nat) (p : Pattern) : Pattern := seqAll (List.replicate n p)

/-- The characters of a text, literally. -/
def Pattern.text (s : String) : Pattern := seqAll (s.toList.map .lit)

/-- A decimal digit of any script. -/
def Pattern.digit : Pattern := .cls isDecimal

/-- A word character of any script. -/
def Pattern.word : Pattern := .cls isWordChar

/-- A blank. -/
def Pattern.blank : Pattern := .cls isBlank

/-- An ASCII character from `lo` to `hi`. -/
def Pattern.range (lo hi : Char) : Pattern := .cls fun c => lo ≤ c && c ≤ hi

end Tabula.Text
