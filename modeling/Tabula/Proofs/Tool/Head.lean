import Tabula.Tool.Query

/-!
# The head of the input

With `--head` the query command shows the first lines of its input and stops: it writes the
first eleven lines as they are and exits 0 before it reads the conversions, the table or the
engine, so no other option can make such a run fail.

The lines are written by a loop that numbers them from 0 and breaks at the first line numbered
past ten (`echoHead`). One turn writes its line before the ones after it (`echoHead_cons`), and
past ten the loop writes nothing (`echoHead_of_gt`); so the loop from the line numbered `i`
writes the first `11 - i` lines (`echoHead_pure`), and from 0 the first eleven, or all of them
if there are fewer (`Source.head_stdin`). A file opened for bytes has lines that cannot be
written as text: its head fails unless the file is empty (`Source.head_file`).

* `runQueryOn_head`: on any engine and any source, a run whose settings have `--head` is the
  source's head, whatever the other settings are.
* `sourceOf_stdin`: without `-f` the source is standard input.
* `runQuery_head_first_lines`: every argument list that reads with `--head` and without `-f`
  writes the first eleven lines of standard input and exits 0. The lines are those of
  `splitLines`, which cuts after each newline and counts a last piece without one as a line
  (`splitLines_spec`).
-/

namespace Tabula.Tool

open Tabula.Cli Tabula.Csv Tabula.Query

/-! ## The loop -/

/-- Past the line numbered ten, the loop breaks and writes nothing more. -/
theorem echoHead_of_gt (write : List Char → Except Fault (List Char)) {i : Nat} (hi : 10 < i)
    (lines : List (List Char)) : echoHead write i lines = pure [] := by
  cases lines with
  | nil => rfl
  | cons line rest => simp only [echoHead, if_pos hi]

/-- One turn of the loop over text: a line numbered ten or less is written as it is, before
the lines after it. -/
theorem echoHead_cons {i : Nat} (hi : i ≤ 10) (line : List Char) (rest : List (List Char)) :
    echoHead pure i (line :: rest) = (line ++ ·) <$> echoHead pure (i + 1) rest := by
  simp only [echoHead, if_neg (Nat.not_lt.2 hi)]
  cases echoHead pure (i + 1) rest <;> rfl

/-- The loop over text from the line numbered `i` writes the lines numbered up to ten: the
first `11 - i` lines, one after another. -/
theorem echoHead_pure (i : Nat) (lines : List (List Char)) :
    echoHead pure i lines = pure ((lines.take (11 - i)).flatten) := by
  induction lines generalizing i with
  | nil => simp only [echoHead, List.take_nil, List.flatten_nil]
  | cons line rest ih =>
    by_cases hi : i ≤ 10
    · -- the line is written, and the loop goes on with the next number
      rw [echoHead_cons hi, ih (i + 1), show 11 - i = 11 - (i + 1) + 1 by omega,
        List.take_succ_cons, List.flatten_cons]
      rfl
    · -- past ten no line is written and none is taken
      rw [echoHead_of_gt pure (by omega), show 11 - i = 0 by omega]
      rfl

/-- Standard input's head is its first eleven lines as they are, all of them if there are
fewer. -/
theorem Source.head_stdin (text : String) :
    (Source.stdin text).head = pure (String.ofList ((splitLines text.toList).take 11).flatten) := by
  simp only [Source.head, echoHead_pure]
  rfl

theorem splitLines_ne_nil {cs : List Char} (h : cs ≠ []) : splitLines cs ≠ [] := by
  obtain ⟨c, rest, rfl⟩ := List.exists_cons_of_ne_nil h
  unfold splitLines
  split
  · exact List.cons_ne_nil _ _
  · split <;> exact List.cons_ne_nil _ _

/-- The head of a file opened for bytes fails on its first line: it is empty or a fault. -/
theorem Source.head_file (name contents : String) :
    (Source.file name contents).head =
      if contents.isEmpty then pure "" else throw .bytesEcho := by
  by_cases hempty : contents.isEmpty = true
  · have hnil : contents.toList = [] := by simpa using hempty
    simp only [Source.head, hnil, hempty, if_true]
    rfl
  · have hne : contents.toList ≠ [] := by simpa using hempty
    obtain ⟨line, rest, hlines⟩ := List.exists_cons_of_ne_nil (splitLines_ne_nil hne)
    simp only [Source.head, hlines, echoHead, hempty, Bool.false_eq_true, if_false]
    rfl

/-! ## The run -/

/-- With `--head` set, a run opens its source, shows its head and ends, whatever the other
settings, the toolkit and the engine are. -/
theorem runQueryOn_head (kit : Toolkit) {σ : Type} (engine : Engine σ) {settings : Settings}
    (hhead : settings.flag "head" = true) (source : Source) :
    runQueryOn kit engine settings source =
      (fun out => ⟨0, out, "", [(.info, "CSV file to process: " ++ source.name)]⟩) <$>
        source.head := by
  simp only [runQueryOn, hhead, if_true]
  cases source.head <;> rfl

/-- Without `-f`, a command reads standard input. -/
theorem sourceOf_stdin {env : Environment} {settings : Settings}
    (hfile : settings.text? "csv_file" = none) :
    sourceOf env settings = .ok (.stdin env.stdin) := by
  simp [sourceOf, hfile]

/-- Every argument list that reads with `--head` and without `-f` makes the query command write
the first eleven lines of standard input as they are (all of them if there are fewer) and exit
0, whatever the other options hold. -/
theorem runQuery_head_first_lines (kit : Toolkit) {env : Environment}
    {args positional : List String} {settings : Settings}
    (hargs : queryCommand.read args = .run settings positional)
    (hhead : settings.flag "head" = true) (hfile : settings.text? "csv_file" = none) :
    runQuery kit env args =
      .ok ⟨0, String.ofList ((splitLines env.stdin.toList).take 11).flatten, "",
        [(.info, "CSV file to process: stdin")]⟩ := by
  simp only [runQuery, runQueryWith, hargs, sourceOf_stdin hfile,
    runQueryOn_head kit sqlEngine hhead, Source.head_stdin]
  rfl

/-- An argument `--convert=` followed by a text with no `=` in it sets the conversions to the
text, and reading goes on with the next argument. -/
theorem queryCommand_read_go_convert {arg conv : String} (hdash : arg ≠ "--")
    (hlong : arg.startsWith "--" = true)
    (hpieces : arg.toList.splitOn '=' = ["--convert".toList, conv.toList])
    (rest : List String) (s : Settings) (pos : List String) :
    Command.read.go queryCommand (arg :: rest) s pos =
      Command.read.go queryCommand rest (s.put "convert" (.text conv)) pos := by
  have hmatch : queryCommand.matchLong "--convert" = .ok ⟨'c', "convert", "convert", true,
      "CONVERT", "What columns to to convert to what eg: --convert='date_epoch:date,hours:int'"⟩ :=
    rfl
  have hkey : ("convert" == "help") = false := by decide +kernel
  rw [Command.read.go.eq_3 _ _ _ _ _ hdash, if_pos hlong]
  simp only [hpieces, String.ofList_toList, hmatch, hkey, Bool.false_eq_true, false_and, if_false,
    if_true, List.intersperse_singleton, List.flatten_singleton]

/-- A conversion without a kind, which fails once the table is read, followed by `-d`. -/
theorem queryCommand_read_convert_head :
    queryCommand.read ["--convert=a", "-d"] =
      .run [("convert", .text "a"), ("head", .flag)] [] := by
  have hdash :
      ¬ ("-d".startsWith "--" = true) ∧ ("-d".startsWith "-" = true ∧ "-d".length > 1) := by
    decide +kernel
  have hfind : queryCommand.allOptions.find? (·.short == 'd') =
      some ⟨'d', "head", "head", false, "HEAD", "list column headings and a sample rows"⟩ := rfl
  have hkeys : ("head" == "help") = false ∧ ("convert" == "head") = false := by
    decide +kernel
  -- the long option with its value, then the short flag
  rw [Command.read, @queryCommand_read_go_convert "--convert=a" "a" (by decide) (by decide +kernel)
      (by decide +kernel),
    Command.read.go.eq_3 _ _ _ _ _ (by decide), if_neg hdash.1, if_pos hdash.2,
    show List.drop 1 "-d".toList = ['d'] by decide +kernel, Command.read.shorts.eq_2, hfind]
  simp only [hkeys, Bool.false_eq_true, if_false, Command.read.shorts.eq_1,
    Command.read.go.eq_1, Settings.put]
  rfl

/-- Twelve lines, the last without a newline, shown with `--head` after a conversion that names
no kind: the first eleven are written. -/
theorem runQuery_head_first_lines_twelve :
    queryCommand.read ["--convert=a", "-d"] = .run [("convert", .text "a"), ("head", .flag)] [] ∧
      Settings.flag [("convert", .text "a"), ("head", .flag)] "head" = true ∧
      Settings.text? [("convert", .text "a"), ("head", .flag)] "csv_file" = none ∧
      runQuery .unavailable ⟨"a\n1\n2\n3\n4\n5\n6\n7\n8\n9\n10\n11", []⟩ ["--convert=a", "-d"] =
        .ok ⟨0, String.ofList
            ((splitLines "a\n1\n2\n3\n4\n5\n6\n7\n8\n9\n10\n11".toList).take 11).flatten, "",
          [(.info, "CSV file to process: stdin")]⟩ ∧
      String.ofList ((splitLines "a\n1\n2\n3\n4\n5\n6\n7\n8\n9\n10\n11".toList).take 11).flatten =
        "a\n1\n2\n3\n4\n5\n6\n7\n8\n9\n10\n" :=
  have hhead : Settings.flag [("convert", .text "a"), ("head", .flag)] "head" = true := by
    decide +kernel
  have hfile : Settings.text? [("convert", .text "a"), ("head", .flag)] "csv_file" = none := by
    decide +kernel
  ⟨queryCommand_read_convert_head, hhead, hfile,
    runQuery_head_first_lines .unavailable queryCommand_read_convert_head hhead hfile,
    by decide +kernel⟩

end Tabula.Tool
