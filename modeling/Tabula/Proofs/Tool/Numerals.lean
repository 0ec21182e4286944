import Tabula.Proofs.Tool.NumericGuard
import Tabula.Proofs.Binary.Rounding
import Tabula.Proofs.Text.Utf8

/-!
# Decimal numerals in whole-number columns

A cell of a column converted to `int` that holds a decimal numeral takes one of two paths.
Without a sign the numeral passes the numeric guard, is read as the double nearest to its value,
and keeps that double's whole part, which is the value truncated toward zero
(`convertText_whole_unsigned`, from `wholePart_nearestDouble`). With a sign it fails the guard
and stays text (`convertText_whole_signed`), so the engine decides what it becomes: under
`INTEGER` affinity, the integer it is worth when its value is whole, and the double nearest to
its value otherwise (`Numeral.affinity`, and `IntegerAffinity` for a store that behaves so).
`numeral_shown` follows one cell through the conversion, the binding, the store and the fetch,
and finds `Numeral.shown`.

`Numeral` is a numeral as written; its magnitude is `significand / 10 ^ scale`.
`Numeral.parse?` reads a numeral back from its text (`Numeral.parse?_text`), which is what an
engine needs to tell numerals from other texts; `numeralAffinity` is such an engine's store.
-/

namespace Tabula.Tool

open Tabula.Decimal Tabula.Binary Tabula.Query Tabula.Sql Tabula.Text

/-- A decimal numeral as a cell holds it: an optional sign, the ASCII digits before the point
and, when a point is written, the digits after it, with a digit at least. -/
@[ext]
structure Numeral where
  /-- The sign as written: `none` without one, else whether it is a minus. -/
  sign : Option Bool
  whole : List Char
  /-- The digits after the point, when a point is written. -/
  fraction : Option (List Char)
  digits : ∀ c ∈ whole ++ fraction.getD [], c.isDigit = true
  ne_nil : whole ++ fraction.getD [] ≠ []

namespace Numeral

/-- How a sign is written. -/
def signText : Option Bool → List Char
  | none => []
  | some false => ['+']
  | some true => ['-']

variable (n : Numeral)

/-- The numeral without its sign: the digits, with the point between them if one is written. -/
def body : List Char := n.whole ++ (n.fraction.map ('.' :: ·)).getD []

/-- The numeral as written. -/
def text : List Char := signText n.sign ++ n.body

/-- Whether the numeral is written with a minus. -/
def negative : Bool := n.sign == some true

/-- The digits read as one whole number: the magnitude times ten to the `scale`. -/
def significand : Nat := digitsValue (n.whole ++ n.fraction.getD [])

/-- How many digits follow the point. -/
def scale : Nat := (n.fraction.getD []).length

/-- The numeral's value truncated toward zero. -/
def truncated : Int :=
  if n.negative then -((n.significand / 10 ^ n.scale : Nat) : Int)
  else ((n.significand / 10 ^ n.scale : Nat) : Int)

/-- Whether the numeral's value is a whole number. -/
def isWhole : Bool := n.significand % 10 ^ n.scale == 0

/-- The double nearest to the numeral's value. -/
def nearest : Float := nearestDouble n.negative n.significand (-(n.scale : Int))

/-- What `INTEGER` affinity makes of the numeral's text: the integer it is worth when its value
is whole, the double nearest to its value otherwise. -/
def affinity : Value := if n.isWhole then .integer n.truncated else .real n.nearest

/-- What a whole-number column shows for the numeral: its value truncated toward zero, unless
the numeral is signed and its value is not whole; the double nearest to the value is kept then. -/
def shown : Cell := if n.sign.isNone || n.isWhole then .int n.truncated else .float n.nearest

/-! ## The body of a numeral -/

/-- The body is the digits before the point, then the point and the digits after it, if a point
is written. -/
theorem body_shape : n.body = n.whole ∧ n.fraction.getD [] = [] ∨
    n.body = n.whole ++ '.' :: n.fraction.getD [] := by
  rcases n with ⟨sign, whole, _ | fraction, digits, ne_nil⟩
  · exact .inl ⟨by simp [body], rfl⟩
  · exact .inr rfl

/-- The body holds digits and points only. -/
theorem body_char : ∀ c ∈ n.body, c.isDigit = true ∨ c = '.' := by
  intro c hc
  rcases n.body_shape with ⟨h, -⟩ | h <;> rw [h] at hc
  · exact .inl (n.digits c (List.mem_append_left _ hc))
  · simp only [List.mem_append, List.mem_cons] at hc
    rcases hc with hc | rfl | hc
    · exact .inl (n.digits c (List.mem_append_left _ hc))
    · exact .inr rfl
    · exact .inl (n.digits c (List.mem_append_right _ hc))

theorem body_ne_nil : n.body ≠ [] := by
  rcases n.body_shape with ⟨h, hf⟩ | h <;> rw [h]
  · simpa [hf] using n.ne_nil
  · simp

/-- A body starts with a digit or a point, so never with a sign. -/
theorem splitSign_body : splitSign n.body = (false, n.body) :=
  splitSign_of_body fun c hc => (n.body_char c hc).imp_right Or.inl

/-! ## Reading the body as a number -/

/-- A body is plain text, ASCII with no blank and no underscore, so it is its own number body. -/
theorem numberBody_body : numberBody (String.ofList n.body) = some n.body := by
  have hplain : ∀ c ∈ n.body, c.toNat < 127 ∧ isBlank c = false := by
    intro c hc
    rcases n.body_char c hc with h | rfl
    · exact ⟨Nat.lt_of_le_of_lt (isDigit_toNat_le h) (by decide), isBlank_of_isDigit h⟩
    · exact ⟨by decide, by decide⟩
  have hu : '_' ∉ n.body := fun h => by
    rcases n.body_char _ h with h | h <;> revert h <;> decide
  exact numberBody_of_plain hplain hu

/-- Read as a number, the body is the double nearest to the numeral's magnitude. -/
theorem readReal?_body :
    readReal? (String.ofList n.body) =
      some (nearestDouble false n.significand (-(n.scale : Int))) := by
  simp only [readReal?, n.numberBody_body, Option.bind_eq_bind, Option.bind_some, n.splitSign_body]
  exact readUnsignedReal_numeral n.digits n.ne_nil n.body_shape

/-- The body passes the numeric guard: it is not empty and holds digits and points only. -/
theorem looksNumeric_body : looksNumeric (String.ofList n.body) = true := by
  simp only [looksNumeric, String.toList_ofList, Bool.and_eq_true, Bool.not_eq_eq_eq_not,
    Bool.not_true, String.isEmpty_eq_false_iff, ne_eq, String.ofList_eq_empty_iff,
    List.all_eq_true, Bool.or_eq_true, beq_iff_eq]
  refine ⟨n.body_ne_nil, fun c hc => ?_⟩
  rcases n.body_char c hc with h | rfl
  · exact .inl (.inr (isDecimal_of_isDigit h))
  · exact .inr rfl

/-! ## Reading a numeral back from its text -/

/-- The sign a text opens with, if any, and the rest of the text. -/
def signOf : List Char → Option Bool × List Char
  | [] => (none, [])
  | c :: rest => if c = '-' then (some true, rest) else if c = '+' then (some false, rest)
    else (none, c :: rest)

/-- The digits after the point, when what follows the leading digits starts with a point. -/
def fractionOf : List Char → Option (List Char)
  | '.' :: f => some f
  | _ => none

/-- Reads a numeral from a text: the sign, the leading digits and the digits after a point are
taken as they come, and the text must be the numeral they make. -/
def parse? (cs : List Char) : Option Numeral :=
  let whole := (signOf cs).2.takeWhile Char.isDigit
  let fraction := fractionOf ((signOf cs).2.dropWhile Char.isDigit)
  if h : ((whole ++ fraction.getD []).all Char.isDigit &&
      !(whole ++ fraction.getD []).isEmpty) = true then
    let n : Numeral := ⟨(signOf cs).1, whole, fraction,
      by simp only [Bool.and_eq_true, List.all_eq_true] at h; exact h.1,
      by simp only [Bool.and_eq_true, Bool.not_eq_true', List.isEmpty_eq_false_iff] at h; exact h.2⟩
    if n.text = cs then some n else none
  else none

theorem signOf_text : signOf n.text = (n.sign, n.body) := by
  rcases hsign : n.sign with _ | _ | _
  · -- the body opens with a digit or a point
    obtain ⟨c, rest, hbody⟩ := List.exists_cons_of_ne_nil n.body_ne_nil
    have hc := n.body_char c (hbody ▸ List.mem_cons_self)
    have hminus : c ≠ '-' := by
      rintro rfl
      rcases hc with h | h <;> revert h <;> decide
    have hplus : c ≠ '+' := by
      rintro rfl
      rcases hc with h | h <;> revert h <;> decide
    simp [text, hsign, signText, hbody, signOf, hminus, hplus]
  · simp [text, hsign, signText, signOf]
  · simp [text, hsign, signText, signOf]

theorem takeWhile_body : n.body.takeWhile Char.isDigit = n.whole := by
  have hw : ∀ c ∈ n.whole, c.isDigit = true := fun c hc => n.digits c (List.mem_append_left _ hc)
  rcases n.body_shape with ⟨h, -⟩ | h <;> rw [h]
  · exact List.takeWhile_eq_self_iff.2 hw
  · rw [List.takeWhile_append_of_pos hw, List.takeWhile_cons_of_neg (by decide), List.append_nil]

theorem fractionOf_body : fractionOf (n.body.dropWhile Char.isDigit) = n.fraction := by
  have hw : ∀ c ∈ n.whole, c.isDigit = true := fun c hc => n.digits c (List.mem_append_left _ hc)
  rcases n with ⟨sign, whole, _ | fraction, digits, ne_nil⟩
  · simp only [body, Option.map_none, Option.getD_none, List.append_nil]
    rw [List.dropWhile_eq_nil_iff.2 hw]
    rfl
  · simp only [body, Option.map_some, Option.getD_some]
    rw [List.dropWhile_append_of_pos hw, List.dropWhile_cons_of_neg (by decide)]
    rfl

/-- A numeral is read back from its text. -/
theorem parse?_text : parse? n.text = some n := by
  have hcheck : ((n.whole ++ n.fraction.getD []).all Char.isDigit &&
      !(n.whole ++ n.fraction.getD []).isEmpty) = true := by
    simp only [Bool.and_eq_true, List.all_eq_true, Bool.not_eq_true', List.isEmpty_eq_false_iff]
    exact ⟨n.digits, n.ne_nil⟩
  simp only [parse?, signOf_text, takeWhile_body, fractionOf_body]
  rw [dif_pos hcheck]
  simp

end Numeral

/-! ## The whole part of the nearest double -/

/-- The whole part of a finite double that reads back as a significand and an exponent. -/
theorem wholePart_of_decode {x : Float} {neg : Bool} {m : Nat} {e : Int}
    (h : decode x = .signed neg (.finite m e)) :
    wholePart x = some (if neg then -(wholeOf m e : Int) else wholeOf m e) := by
  simp only [wholePart, h]
  rfl

/-- The double nearest to `digits / 10 ^ k`, with a sign, has the quotient's whole part, for
digits below `2 ^ 52`. -/
theorem wholePart_nearestDouble (neg : Bool) {digits : Nat} (hd : digits < 2 ^ 52) (k : Nat) :
    wholePart (nearestDouble neg digits (-(k : Int))) =
      some (if neg then -((digits / 10 ^ k : Nat) : Int)
        else ((digits / 10 ^ k : Nat) : Int)) := by
  have hzero : wholePart (encode neg (.finite 0 (-1074))) = some 0 := by
    rw [wholePart_of_decode (decode_encode_subnormal (by norm_num)), wholeOf,
      if_neg (show ¬ (0 : Int) ≤ -1074 by norm_num), Nat.zero_div]
    cases neg <;> rfl
  unfold nearestDouble
  by_cases h0 : digits = 0
  · subst h0
    rw [if_pos rfl, hzero]
    cases neg <;> simp
  -- the digits have at most sixteen places, so the value is never too large for a double
  have hlen : (Nat.toDigits 10 digits).length ≤ 16 :=
    Nat.toDigits_length 10 digits 16 (by norm_num) (lt_trans hd (by norm_num))
  have hbig : ¬ (((Nat.toDigits 10 digits).length : Int) + -(k : Int) > 400) := by omega
  rw [if_neg h0, if_neg hbig]
  by_cases hsmall : ((Nat.toDigits 10 digits).length : Int) + -(k : Int) < -400
  · -- far below one, read as a zero
    have hq : digits / 10 ^ k = 0 := Nat.div_eq_of_lt (calc
      digits < 2 ^ 52 := hd
      _ < 10 ^ 16 := by norm_num
      _ ≤ 10 ^ k := Nat.pow_le_pow_right (by norm_num) (by omega))
    rw [if_pos hsmall, hzero, hq]
    cases neg <;> simp
  rw [if_neg hsmall]
  rcases Nat.eq_zero_or_pos k with rfl | hk
  · -- no digit after the point: the digits themselves
    obtain ⟨m, e, hdec, hwhole⟩ := decode_ofRatio_whole neg
      (by simpa using hd : digits * Nat.pow 10 (-((0 : Nat) : Int)).toNat < 2 ^ 52) Nat.one_pos
    rw [if_pos (show (0 : Int) ≤ -((0 : Nat) : Int) by simp), wholePart_of_decode hdec, hwhole]
    simp
  · obtain ⟨m, e, hdec, hwhole⟩ := @decode_ofRatio_whole neg digits
      (Nat.pow 10 (-(-(k : Int))).toNat) hd (Nat.pow_pos (by norm_num))
    rw [if_neg (show ¬ (0 : Int) ≤ -(k : Int) by omega), wholePart_of_decode hdec, hwhole]
    simp [Nat.pow_eq]

/-! ## The whole-number conversion -/

/-- The whole-number conversion truncates a numeral without a sign toward zero, when its digits
read below `2 ^ 52`. -/
theorem convertText_whole_unsigned (kit : Toolkit) {n : Numeral} (hsign : n.sign = none)
    (hsig : n.significand < 2 ^ 52) :
    convertText kit .whole (String.ofList n.text) = .ok (.int n.truncated) := by
  have htext : n.text = n.body := by simp [Numeral.text, hsign, Numeral.signText]
  have hneg : n.negative = false := by simp [Numeral.negative, hsign]
  simp only [convertText, htext, n.looksNumeric_body, n.readReal?_body,
    wholePart_nearestDouble false hsig n.scale]
  simp [Numeral.truncated, hneg]
  rfl

/-- A signed numeral fails the numeric guard, so the whole-number conversion leaves it as text. -/
theorem convertText_whole_signed (kit : Toolkit) {n : Numeral} {neg : Bool}
    (hsign : n.sign = some neg) :
    convertText kit .whole (String.ofList n.text) = .ok (.text (String.ofList n.text)) := by
  have hguard : looksNumeric (String.ofList n.text) = false := by
    have hminus : isBlank '-' = false ∧ isDecimal '-' = false := by decide
    have hplus : isBlank '+' = false ∧ isDecimal '+' = false := by decide
    cases neg <;> simp [looksNumeric, Numeral.text, hsign, Numeral.signText, hminus, hplus]
  simp only [convertText, hguard, Bool.not_false, if_true]
  rfl

/-! ## Integer affinity -/

/-- How an engine stores values under `INTEGER` affinity, as far as numerals go: an integer is
kept, and the text of a numeral with at most fifteen significant digits becomes the integer it
is worth when its value is whole, the double nearest to its value otherwise. -/
structure IntegerAffinity (store : Value → Value) : Prop where
  integer : ∀ i, store (.integer i) = .integer i
  numeral : ∀ n : Numeral, n.significand < 10 ^ 15 →
    store (.ofString (String.ofList n.text)) = n.affinity

/-- `INTEGER` affinity on numerals alone: the text of a numeral becomes what `Numeral.affinity`
says, and every other value is kept. -/
def numeralAffinity : Value → Value
  | .text bs =>
    match (decode? bs).bind fun s => Numeral.parse? s.toList with
    | some n => n.affinity
    | none => .text bs
  | v => v

theorem integerAffinity_numeralAffinity : IntegerAffinity numeralAffinity where
  integer _ := rfl
  numeral n _ := by simp [numeralAffinity, Value.ofString, decode_encode, n.parse?_text]

/-- The store of an engine whose `INTEGER` columns have `numeralAffinity` and whose other
columns keep their values as they are. -/
def numeralStore (type : String) (v : Value) : Value :=
  if type = "INTEGER" then numeralAffinity v else v

theorem integerAffinity_numeralStore : IntegerAffinity (numeralStore "INTEGER") := by
  have h : numeralStore "INTEGER" = numeralAffinity := funext fun _ => if_pos rfl
  rw [h]
  exact integerAffinity_numeralAffinity

/-- A numeral's value truncated toward zero fits 64 bits, when its digits read below `10 ^ 15`. -/
theorem fitsInt64_truncated {n : Numeral} (hsig : n.significand < 10 ^ 15) :
    fitsInt64 n.truncated = true := by
  have hq : n.significand / 10 ^ n.scale ≤ n.significand := Nat.div_le_self _ _
  have h63 : Int.pow 2 63 = 9223372036854775808 := rfl
  simp only [fitsInt64, minInt64, maxInt64, h63, Numeral.truncated, Bool.and_eq_true,
    decide_eq_true_eq]
  generalize n.significand / 10 ^ n.scale = q at hq ⊢
  split <;> omega

/-- What a whole-number column shows for a numeral: converted, bound, stored under `INTEGER`
affinity and fetched, the numeral's cell is `Numeral.shown`. An unsigned numeral is truncated
by the conversion and its integer is kept; a signed one reaches the engine as text. -/
theorem numeral_shown (kit : Toolkit) {store : Value → Value} (haffinity : IntegerAffinity store)
    {n : Numeral} (hsig : n.significand < 10 ^ 15) (name : String) :
    ∃ cell v, convertText kit .whole (String.ofList n.text) = .ok cell ∧
      bindCell cell = .ok v ∧
      cellOf name (store v) = .ok n.shown := by
  rcases hsign : n.sign with _ | neg
  · -- truncated by the conversion, then kept as an integer
    have hshown : n.shown = .int n.truncated := by simp [Numeral.shown, hsign]
    refine ⟨.int n.truncated, .integer n.truncated,
      convertText_whole_unsigned kit hsign (lt_trans hsig (by norm_num)), ?_, ?_⟩
    · simp [bindCell, fitsInt64_truncated hsig]
      rfl
    · rw [haffinity.integer, hshown]
      rfl
  · -- left as text, and stored as the engine's affinity makes it
    refine ⟨.text (String.ofList n.text), .ofString (String.ofList n.text),
      convertText_whole_signed kit hsign, rfl, ?_⟩
    rw [haffinity.numeral n hsig, Numeral.affinity]
    cases hwhole : n.isWhole
    · simp [Numeral.shown, hsign, hwhole]
      rfl
    · simp [Numeral.shown, hsign, hwhole]
      rfl

end Tabula.Tool
