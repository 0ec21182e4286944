import Mathlib
import Tabula.Text.Pattern

/-!
# Running patterns

`Pattern.run` matches a pattern at the start of a text and hands the rest of the text and the
groups to a continuation; the first way the continuation accepts is the result. This module
gives one equation per constructor (`run_lit_cons`, `run_seq`, `run_alt`, …) and for the
derived forms (`run_seqAll_cons`, `run_opt`, `run_times_cls`), so that the run of a fixed
pattern on a text of known shape unfolds by `simp`, and two facts about repetitions: a greedy or
lazy repetition of a character class over a run of its characters leaves the continuation
free to accept at the end of the run (`run_star_cls_isSome`), and a fixed number of rounds of a
class stops at the first character outside it (`run_times_cls_of_not`).
-/

namespace Tabula.Text

variable {α : Type} {fuel : Nat} {cs : List Char} {gs : Groups} {k : List Char → Groups → Option α}

/-! ## One equation per constructor -/

@[simp] theorem run_empty : Pattern.empty.run fuel cs gs k = k cs gs := by
  rw [Pattern.run]

@[simp] theorem run_lit_cons (c d : Char) (rest : List Char) :
    (Pattern.lit c).run fuel (d :: rest) gs k = if c == d then k rest gs else none := by
  rw [Pattern.run]

@[simp] theorem run_lit_nil (c : Char) : (Pattern.lit c).run fuel [] gs k = none := by
  rw [Pattern.run]

@[simp] theorem run_cls_cons (q : Char → Bool) (d : Char) (rest : List Char) :
    (Pattern.cls q).run fuel (d :: rest) gs k = if q d then k rest gs else none := by
  rw [Pattern.run]

@[simp] theorem run_cls_nil (q : Char → Bool) : (Pattern.cls q).run fuel [] gs k = none := by
  rw [Pattern.run]

@[simp] theorem run_seq (a b : Pattern) :
    (Pattern.seq a b).run fuel cs gs k =
      a.run fuel cs gs fun rest gs' => b.run fuel rest gs' k := by
  rw [Pattern.run]

@[simp] theorem run_alt (a b : Pattern) :
    (Pattern.alt a b).run fuel cs gs k =
      (a.run fuel cs gs k).orElse fun _ => b.run fuel cs gs k := by
  rw [Pattern.run]

@[simp] theorem run_group (name : String) (a : Pattern) :
    (Pattern.group name a).run fuel cs gs k =
      a.run fuel cs gs fun rest gs' =>
        k rest ((name, cs.take (cs.length - rest.length)) :: gs') := by
  rw [Pattern.run]

@[simp] theorem run_endOfLine :
    Pattern.endOfLine.run fuel cs gs k = if cs.isEmpty || cs == ['\n'] then k cs gs else none := by
  rw [Pattern.run]

theorem run_star_zero (a : Pattern) (lazy : Bool) :
    (Pattern.star a lazy).run 0 cs gs k = k cs gs := by
  rw [Pattern.run]

theorem run_star_succ (a : Pattern) (lazy : Bool) (f : Nat) :
    (Pattern.star a lazy).run (f + 1) cs gs k =
      let more := a.run f cs gs fun rest gs' =>
        if rest.length < cs.length then (Pattern.star a lazy).run f rest gs' k else none
      if lazy then (k cs gs).orElse fun _ => more else more.orElse fun _ => k cs gs := by
  rw [Pattern.run]

/-! ## Derived forms -/

@[simp] theorem run_seqAll_nil : (Pattern.seqAll []).run fuel cs gs k = k cs gs := by
  simp [Pattern.seqAll]

/-- A sequence runs its first pattern, then the rest of the sequence. -/
@[simp] theorem run_seqAll_cons (p : Pattern) (ps : List Pattern) :
    (Pattern.seqAll (p :: ps)).run fuel cs gs k =
      p.run fuel cs gs fun rest gs' => (Pattern.seqAll ps).run fuel rest gs' k := by
  cases ps with
  | nil =>
    -- a one-pattern sequence is the pattern itself
    simp only [Pattern.seqAll, run_empty]
  | cons p' ps' => simp [Pattern.seqAll]

@[simp] theorem run_opt (p : Pattern) :
    (Pattern.opt p).run fuel cs gs k = (p.run fuel cs gs k).orElse fun _ => k cs gs := by
  simp [Pattern.opt]

theorem run_times_succ (n : Nat) (p : Pattern) :
    (Pattern.times (n + 1) p).run fuel cs gs k =
      p.run fuel cs gs fun rest gs' => (Pattern.times n p).run fuel rest gs' k := by
  simp [Pattern.times, List.replicate_succ]

/-- `n` rounds of a class take `n` characters of the class. -/
theorem run_times_cls {q : Char → Bool} :
    ∀ (xs : List Char), (∀ x ∈ xs, q x = true) → ∀ (rest : List Char) (gs : Groups),
      (Pattern.times xs.length (.cls q)).run fuel (xs ++ rest) gs k = k rest gs
  | [], _, rest, gs => by simp [Pattern.times]
  | x :: xs, hq, rest, gs => by
    rw [List.length_cons, run_times_succ, List.cons_append, run_cls_cons,
      if_pos (hq x List.mem_cons_self)]
    exact run_times_cls xs (fun y hy => hq y (List.mem_cons_of_mem x hy)) rest gs

/-- Rounds of a class stop at the first character outside it, before the count is reached. -/
theorem run_times_cls_of_not {q : Char → Bool} {c : Char} (hc : q c = false) :
    ∀ (xs : List Char), (∀ x ∈ xs, q x = true) → ∀ (n : Nat), xs.length < n →
      ∀ (rest : List Char) (gs : Groups),
        (Pattern.times n (.cls q)).run fuel (xs ++ c :: rest) gs k = none
  | _, _, 0, hlt, _, _ => absurd hlt (Nat.not_lt_zero _)
  | [], _, n + 1, _, rest, gs => by
    rw [run_times_succ, List.nil_append, run_cls_cons, hc, if_neg Bool.false_ne_true]
  | x :: xs, hq, n + 1, hlt, rest, gs => by
    rw [run_times_succ, List.cons_append, run_cls_cons, if_pos (hq x List.mem_cons_self)]
    exact run_times_cls_of_not hc xs (fun y hy => hq y (List.mem_cons_of_mem x hy)) n
      (by simp at hlt; omega) rest gs

/-! ## Repetitions of a class -/

theorem isSome_orElse_of_left {o : Option α} {o' : Unit → Option α} (h : o.isSome) :
    (o.orElse o').isSome := by
  cases o with
  | none => exact absurd h (by simp)
  | some _ => rfl

theorem isSome_orElse_of_right {o : Option α} {o' : Unit → Option α} (h : (o' ()).isSome) :
    (o.orElse o').isSome := by
  cases o with
  | none => exact h
  | some _ => rfl

/-- A repetition of a class, greedy or lazy, can take a whole run of the class's characters:
when the continuation accepts the text after the run, the repetition finds some match. The
fuel has to cover the run, since each round takes one character. -/
theorem run_star_cls_isSome {q : Char → Bool} (lazy : Bool) :
    ∀ (xs : List Char), (∀ x ∈ xs, q x = true) → ∀ (fuel : Nat), xs.length ≤ fuel →
      ∀ (rest : List Char) (gs : Groups), (k rest gs).isSome →
        ((Pattern.star (.cls q) lazy).run fuel (xs ++ rest) gs k).isSome
  | [], _, 0, _, rest, gs, hk => by rwa [List.nil_append, run_star_zero]
  | [], _, f + 1, _, rest, gs, hk => by
    rw [List.nil_append, run_star_succ]
    cases lazy with
    | true => exact isSome_orElse_of_left hk
    | false => exact isSome_orElse_of_right hk
  | x :: xs, hq, f + 1, hlen, rest, gs, hk => by
    -- the round that takes `x` leads to the repetition over the rest of the run
    have hmore : ((Pattern.cls q).run f (x :: xs ++ rest) gs fun rest' gs' =>
        if rest'.length < (x :: xs ++ rest).length then
          (Pattern.star (.cls q) lazy).run f rest' gs' k else none).isSome := by
      rw [List.cons_append, run_cls_cons, if_pos (hq x List.mem_cons_self),
        if_pos (by simp)]
      exact run_star_cls_isSome lazy xs (fun y hy => hq y (List.mem_cons_of_mem x hy)) f
        (by simp at hlen; omega) rest gs hk
    rw [run_star_succ]
    cases lazy with
    | true => exact isSome_orElse_of_right hmore
    | false => exact isSome_orElse_of_left hmore

/-- One or more rounds of a class over a non-empty run of its characters. -/
theorem run_plus_cls_isSome {q : Char → Bool} {xs : List Char} (hne : xs ≠ [])
    (hq : ∀ x ∈ xs, q x = true) (hlen : xs.length ≤ fuel) (rest : List Char)
    (hk : (k rest gs).isSome) : ((Pattern.plus (.cls q)).run fuel (xs ++ rest) gs k).isSome := by
  obtain ⟨x, xs', rfl⟩ := List.exists_cons_of_ne_nil hne
  rw [Pattern.plus, run_seq, List.cons_append, run_cls_cons, if_pos (hq x List.mem_cons_self)]
  exact run_star_cls_isSome false xs' (fun y hy => hq y (List.mem_cons_of_mem x hy)) fuel
    (by simp at hlen; omega) rest gs hk

end Tabula.Text
