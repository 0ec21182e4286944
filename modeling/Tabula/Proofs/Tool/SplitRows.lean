import Mathlib
import Tabula.Proofs.Tool.Cells

/-!
# What the split command writes

The split command reads a table from standard input and writes it back, a row whose split
column holds several `|`-separated parts once per part.  This module says what it writes for
every table whose header names are distinct, record by record:

* `splitRecord` is the rule for one record, stated on the record's cells: the record's first
  cells, one per header name and trimmed, once per part of the split column's cell with the
  part in that column, or once as they are when the header has no such column.
* `length_splitRecord` and `intercalate_splitRecord`: a record gives one row more than its
  split cell has bars, and the split column of its rows, joined with bars, is the cell again.
* `splitRow_rowOf`: the command's rows of a record are the rule's, unless the record is shorter
  than the header, which is a fault naming the first header name without a cell.
* `runSplit_split_column` assembles the run: it fails on a missing name exactly when some record
  is too short, and otherwise writes the header and the rule's rows of every record in turn.
-/

namespace Tabula.Tool

open Tabula.Cli Tabula.Csv Tabula.Text

/-! ## Parts of a cell -/

/-- A list cut at a separator has one piece more than it has separators. -/
theorem length_splitOn {α : Type} [BEq α] [LawfulBEq α] (x : α) (xs : List α) :
    (xs.splitOn x).length = xs.count x + 1 := by
  induction xs with
  | nil => rfl
  | cons y xs ih =>
    simp only [List.splitOn] at ih ⊢
    rw [List.splitOnP_cons_eq_if_modifyHead, List.count_cons]
    -- a separator starts a new piece; any other element joins the first piece
    split <;> simp [ih]

/-- The `|`-separated parts of a text. -/
def barParts (s : String) : List String := (s.toList.splitOn '|').map String.ofList

/-- A text has one part more than it has bars. -/
theorem length_barParts (s : String) : (barParts s).length = s.toList.count '|' + 1 := by
  rw [barParts, List.length_map, length_splitOn]

/-- The parts of a text, joined with bars, give the text back. -/
theorem intercalate_barParts (s : String) : "|".intercalate (barParts s) = s := by
  apply String.ext
  rw [String.toList_intercalate, barParts, List.map_map]
  have hparts : (String.toList ∘ String.ofList) = id := funext fun cs => String.toList_ofList
  rw [hparts, List.map_id]
  exact List.intercalate_splitOn '|'

/-- Every text has a part. -/
theorem barParts_ne_nil (s : String) : barParts s ≠ [] := by
  simp [barParts, List.splitOn]

/-! ## The rows a record becomes -/

/-- A record's cells under a header: one per header name, each trimmed. -/
def headerCells (header record : List String) : List String :=
  (record.map trimCell).take header.length

/-- A record's trimmed cell in a column; empty where the header has no such column or the
record no such cell. -/
def columnCell (header : List String) (column : String) (record : List String) : String :=
  (headerCells header record).getD (header.idxOf column) ""

/-- The rows a record becomes when a column is split: its cells under the header once per
`|`-separated part of its cell in the column, with the part in the column; its cells once if
there is no column to split or the header has no such column. -/
def splitRecord (header : List String) (column : Option String) (record : List String) :
    List (List String) :=
  match column with
  | some c =>
    if c ∈ header then
      (barParts (columnCell header c record)).map fun part =>
        (headerCells header record).set (header.idxOf c) part
    else [headerCells header record]
  | none => [headerCells header record]

theorem length_headerCells_le (header record : List String) :
    (headerCells header record).length ≤ header.length := by
  rw [headerCells, List.length_take]
  exact Nat.min_le_left _ _

/-- Outside the header there is no cell. -/
theorem columnCell_of_not_mem {header : List String} {column : String} (h : column ∉ header)
    (record : List String) : columnCell header column record = "" := by
  have hout : (headerCells header record).length ≤ header.idxOf column := by
    rw [List.idxOf_eq_length h]
    exact length_headerCells_le header record
  simp [columnCell, List.getD_eq_getElem?_getD, List.getElem?_eq_none hout]

/-- A record becomes one row more than its cell in the split column has bars. -/
theorem length_splitRecord (header : List String) (column : String) (record : List String) :
    (splitRecord header (some column) record).length =
      1 + (columnCell header column record).toList.count '|' := by
  by_cases h : column ∈ header
  · simp only [splitRecord, if_pos h, List.length_map, length_barParts]
    omega
  · simp [splitRecord, h, columnCell_of_not_mem h]

/-- The split column of a record's rows, joined with bars, is the record's cell in it. -/
theorem intercalate_splitRecord (header : List String) (column : String)
    (record : List String) :
    "|".intercalate ((splitRecord header (some column) record).map
        (·.getD (header.idxOf column) "")) = columnCell header column record := by
  by_cases h : column ∈ header
  · simp only [splitRecord, if_pos h, List.map_map]
    by_cases hidx : header.idxOf column < (headerCells header record).length
    · -- each row holds its part in the column
      have hpart : ∀ part : String,
          ((headerCells header record).set (header.idxOf column) part).getD
            (header.idxOf column) "" = part := by
        intro part
        rw [List.getD_eq_getElem?_getD, List.getElem?_set_self hidx, Option.getD_some]
      simp only [Function.comp_def, hpart, List.map_id']
      exact intercalate_barParts _
    · -- the record has no cell in the column: every cell read is empty
      have hempty : columnCell header column record = "" := by
        simp [columnCell, List.getD_eq_getElem?_getD, Nat.le_of_not_lt hidx]
      have hnone : ∀ part : String,
          ((headerCells header record).set (header.idxOf column) part).getD
            (header.idxOf column) "" = "" := by
        intro part
        simp [List.getD_eq_getElem?_getD, Nat.le_of_not_lt hidx]
      simp only [Function.comp_def, hnone, hempty]
      rfl
  · simp [splitRecord, h, columnCell]

/-! ## The split command on the rows of a table -/

section Rows

variable {header : List String}

/-- A record's row gives its cells under the header, unless the record is shorter than the
header: then it is a fault naming the first header name without a cell. -/
theorem cellsInOrder_rowOf (hnodup : header.Nodup) (record : List String) :
    cellsInOrder header (rowOf header record) =
      if h : record.length < header.length then .error (.missingKey header[record.length])
      else .ok (headerCells header record) := by
  rw [rowOf_of_nodup hnodup, cellsInOrder_zip_eq hnodup]
  simp only [List.length_map]
  rfl

/-- A record's row holds a header name's trimmed cell, where the record reaches its column. -/
theorem Row.get?_rowOf (hnodup : header.Nodup) (record : List String) (c : String) :
    Row.get? (rowOf header record) c =
      if c ∈ header then (record.map trimCell)[header.idxOf c]? else none := by
  rw [rowOf_of_nodup hnodup, Row.get?_zip]

/-- A record's row with a part put in a column that the record reaches gives the record's cells
with the part in that column, unless the record is shorter than the header. -/
theorem cellsInOrder_set_rowOf (hnodup : header.Nodup) {record : List String} {c : String}
    (hc : c ∈ header) (hidx : header.idxOf c < record.length) (part : String) :
    cellsInOrder header (Row.set (rowOf header record) c part) =
      if h : record.length < header.length then .error (.missingKey header[record.length])
      else .ok ((headerCells header record).set (header.idxOf c) part) := by
  rw [rowOf_of_nodup hnodup, Row.set_zip (by simpa using hidx) hc, cellsInOrder_zip_eq hnodup]
  simp only [List.length_set, List.length_map, List.take_set]
  rfl

/-- A record's row becomes the rows of the rule, unless the record is shorter than the header:
then it is a fault naming the first header name without a cell. -/
theorem splitRow_rowOf (hnodup : header.Nodup) (column : Option String)
    (record : List String) :
    splitRow header column (rowOf header record) =
      if h : record.length < header.length then .error (.missingKey header[record.length])
      else .ok (splitRecord header column record) := by
  -- the row written whole: with no column to split, or one the row does not hold
  have hwhole : ((fun r => [r]) <$> cellsInOrder header (rowOf header record) :
      Except Fault (List (List String))) =
        if h : record.length < header.length then .error (.missingKey header[record.length])
        else .ok [headerCells header record] := by
    rw [cellsInOrder_rowOf hnodup]
    split <;> rfl
  cases column with
  | none => exact hwhole
  | some c =>
    by_cases hc : c ∈ header
    · by_cases hidx : header.idxOf c < record.length
      · -- the row holds the column: its cell is split and each part set in place
        have hcells : header.idxOf c < (record.map trimCell).length := by simpa using hidx
        have hget : Row.get? (rowOf header record) c =
            some (record.map trimCell)[header.idxOf c] := by
          rw [Row.get?_rowOf hnodup, if_pos hc, List.getElem?_eq_getElem hcells]
        simp only [splitRow, Option.bind_some, hget, Option.map_some]
        change (barParts _).mapM _ = _
        by_cases hshort : record.length < header.length
        · -- every part fails alike, so the first one already does
          obtain ⟨p, ps, hps⟩ := List.exists_cons_of_ne_nil
            (barParts_ne_nil (record.map trimCell)[header.idxOf c])
          rw [dif_pos hshort, hps, List.mapM_cons, cellsInOrder_set_rowOf hnodup hc hidx,
            dif_pos hshort]
          rfl
        · have hidxH : header.idxOf c < header.length := List.idxOf_lt_length_iff.2 hc
          have hcol : columnCell header c record = (record.map trimCell)[header.idxOf c] := by
            simp [columnCell, headerCells, List.getD_eq_getElem?_getD, hidxH, hidx]
          rw [dif_neg hshort, splitRecord, if_pos hc, hcol]
          exact mapM_eq_ok fun part _ => by
            rw [cellsInOrder_set_rowOf hnodup hc hidx, dif_neg hshort]
      · -- the record ends before the column, so the row lacks it and is short
        have hget : Row.get? (rowOf header record) c = none := by
          rw [Row.get?_rowOf hnodup, if_pos hc]
          simp [Nat.le_of_not_lt hidx]
        have hshort : record.length < header.length := by
          have := List.idxOf_lt_length_iff.2 hc
          omega
        simp only [splitRow, Option.bind_some, hget, Option.map_none]
        rw [hwhole, dif_pos hshort, dif_pos hshort]
    · -- the header has no such column: the row is written whole
      have hget : Row.get? (rowOf header record) c = none := by
        rw [Row.get?_rowOf hnodup, if_neg hc]
      simp only [splitRow, Option.bind_some, hget, Option.map_none]
      rw [hwhole]
      simp [splitRecord, hc]

/-- The records of a table with a column split: the rows of each row in turn. -/
theorem splitTable_eq_map (t : Table) (column : Option String) :
    splitTable t column = List.flatten <$> t.rows.mapM (splitRow t.header column) := by
  unfold splitTable
  cases t.rows.mapM (splitRow t.header column) <;> rfl

/-- Where every record is as long as the header, the split table is the rule's rows of every
record in turn. -/
theorem splitTable_of_forall_le (hnodup : header.Nodup) (column : Option String)
    {records : List (List String)} (hwide : ∀ r ∈ records, header.length ≤ r.length) :
    splitTable ⟨header, records.map (rowOf header)⟩ column =
      .ok (records.flatMap (splitRecord header column)) := by
  have hrows : (records.map (rowOf header)).mapM (splitRow header column) =
      .ok (records.map (splitRecord header column)) := by
    rw [List.mapM_map]
    refine mapM_eq_ok fun r hr => ?_
    rw [Function.comp_apply, splitRow_rowOf hnodup, dif_neg (Nat.not_lt.2 (hwide r hr))]
  rw [splitTable_eq_map, hrows, List.flatMap_def]
  rfl

/-- Every fault of the split table is a record shorter than the header, named by the first
header name it has no cell for. -/
theorem splitTable_eq_error {column : Option String} {records : List (List String)}
    (hnodup : header.Nodup) {e : Fault}
    (h : splitTable ⟨header, records.map (rowOf header)⟩ column = .error e) :
    ∃ r ∈ records, ∃ hr : r.length < header.length, e = .missingKey header[r.length] := by
  rw [splitTable_eq_map] at h
  cases hrows : (records.map (rowOf header)).mapM (splitRow header column) with
  | ok rows =>
    rw [hrows] at h
    cases h
  | error e' =>
    rw [hrows] at h
    cases h
    obtain ⟨row, hrow, hfault⟩ := exists_mem_of_mapM_eq_error hrows
    obtain ⟨r, hr, rfl⟩ := List.mem_map.1 hrow
    rw [splitRow_rowOf hnodup] at hfault
    by_cases hshort : r.length < header.length
    · rw [dif_pos hshort] at hfault
      cases hfault
      exact ⟨r, hr, hshort, rfl⟩
    · rw [dif_neg hshort] at hfault
      cases hfault

/-- The split table fails exactly when some record is shorter than the header. -/
theorem splitTable_isError_iff (hnodup : header.Nodup) (column : Option String)
    (records : List (List String)) :
    (∃ e, splitTable ⟨header, records.map (rowOf header)⟩ column = .error e) ↔
      ∃ r ∈ records, r.length < header.length := by
  constructor
  · rintro ⟨e, he⟩
    obtain ⟨r, hr, hshort, -⟩ := splitTable_eq_error hnodup he
    exact ⟨r, hr, hshort⟩
  · rintro ⟨r, hr, hshort⟩
    have hfails : ∃ e, (records.map (rowOf header)).mapM (splitRow header column) = .error e :=
      mapM_isError_iff.2 ⟨rowOf header r, List.mem_map_of_mem hr, _,
        by rw [splitRow_rowOf hnodup, dif_pos hshort]⟩
    obtain ⟨e, he⟩ := hfails
    exact ⟨e, by rw [splitTable_eq_map, he]; rfl⟩

end Rows

/-! ## A run of the split command -/

/-- Splitting a column is asked for by its long option. -/
theorem splitCommand_read_split (column : String) :
    splitCommand.read ["--split", column] = .run [("split", .text column)] [] := by
  have hmatch : splitCommand.matchLong "--split" =
      .ok ⟨'s', "split", "split", true, "SPLIT", "What column to to split on eg: --split='note'"⟩ :=
    rfl
  have hpieces : List.splitOn '=' ['-', '-', 's', 'p', 'l', 'i', 't'] =
      [['-', '-', 's', 'p', 'l', 'i', 't']] := by decide
  rw [Command.read, Command.read.go]
  · simp [hmatch, hpieces, Command.read.go, Settings.put]
  · decide

/-- A run of the split command on standard input whose records can be read and has a record
besides the header writes the header and the split table, or fails where the split table
does. -/
theorem runSplit_eq {args positional : List String} {settings : Settings} {stdin : String}
    {files : List (String × String)} {header : List String} {records : List (List String)}
    (hargs : splitCommand.read args = .run settings positional)
    (hfile : settings.text? "csv_file" = none)
    (hread : readRecords ',' '"' (recordLines stdin) = .ok (header :: records))
    (hrecords : records ≠ []) :
    runSplit ⟨stdin, files⟩ args =
      (fun out => ⟨0, Dialect.standard.writeRecords (header :: out), "",
          [(.info, "CSV file to process: stdin"),
            (.info, "header is: " ++ textListLiteral header)]⟩) <$>
        splitTable ⟨header, records.map (rowOf header)⟩ (settings.text? "split") := by
  have hsource : sourceOf ⟨stdin, files⟩ settings = .ok (.stdin stdin) := by
    simp [sourceOf, hfile]
  have htable : Source.readTable false (.stdin stdin) =
      .ok ⟨header, records.map (rowOf header)⟩ := by
    rw [Source.readTable, readTable_of_readRecords false hread fun h => nomatch h]
    rfl
  have hrows : (records.map (rowOf header)).isEmpty = false := by
    cases records with
    | nil => exact absurd rfl hrecords
    | cons _ _ => rfl
  simp only [runSplit, hargs, hsource, htable, bind, Except.bind, hrows]
  cases splitTable ⟨header, records.map (rowOf header)⟩ (settings.text? "split") <;> rfl

/-- Splitting a column of a table read from standard input, under a header of distinct names
and with at least one record: the run fails on a missing name exactly when some record is
shorter than the header; otherwise it writes the header and, record by record, one row per
`|`-separated part of the record's cell in the column.  So it writes one row more per record
than the record's cell has bars, and the parts of each record join back to its cell. -/
theorem runSplit_split_column {stdin : String} {files : List (String × String)}
    {header : List String} {records : List (List String)} (column : String)
    (hread : readRecords ',' '"' (recordLines stdin) = .ok (header :: records))
    (hnodup : header.Nodup) (hrecords : records ≠ []) :
    ((∃ k, runSplit ⟨stdin, files⟩ ["--split", column] = .error (.missingKey k)) ↔
        ∃ r ∈ records, r.length < header.length) ∧
    ((∀ r ∈ records, header.length ≤ r.length) →
      runSplit ⟨stdin, files⟩ ["--split", column] =
        .ok ⟨0, Dialect.standard.writeRecords
            (header :: records.flatMap (splitRecord header (some column))), "",
          [(.info, "CSV file to process: stdin"),
            (.info, "header is: " ++ textListLiteral header)]⟩) ∧
    (records.flatMap (splitRecord header (some column))).length =
      (records.map fun r => 1 + (columnCell header column r).toList.count '|').sum ∧
    ∀ r ∈ records, "|".intercalate ((splitRecord header (some column) r).map
      (·.getD (header.idxOf column) "")) = columnCell header column r := by
  have hsettings : Settings.text? [("split", .text column)] "split" = some column := by
    simp [Settings.text?]
  have hfile : Settings.text? [("split", .text column)] "csv_file" = none := by
    have hne : ("csv_file" == "split") = false := by decide
    simp [Settings.text?, List.lookup_cons, hne]
  have hrun : runSplit ⟨stdin, files⟩ ["--split", column] = _ :=
    runSplit_eq (splitCommand_read_split column) hfile hread hrecords
  rw [hsettings] at hrun
  refine ⟨?_, ?_, ?_, ?_⟩
  · -- the run fails where the split table does, and only on a record that is too short
    rw [hrun]
    constructor
    · rintro ⟨k, hk⟩
      cases hsplit : splitTable ⟨header, records.map (rowOf header)⟩ (some column) with
      | ok out =>
        rw [hsplit] at hk
        cases hk
      | error e =>
        obtain ⟨r, hr, hshort, -⟩ := splitTable_eq_error hnodup hsplit
        exact ⟨r, hr, hshort⟩
    · intro hshort
      obtain ⟨e, he⟩ := (splitTable_isError_iff hnodup (some column) records).2 hshort
      obtain ⟨r, -, hr, rfl⟩ := splitTable_eq_error hnodup he
      exact ⟨_, by rw [he]; rfl⟩
  · intro hwide
    rw [hrun, splitTable_of_forall_le hnodup _ hwide]
    rfl
  · rw [List.length_flatMap]
    congr 1
    exact List.map_congr_left fun r _ => length_splitRecord header column r
  · exact fun r _ => intercalate_splitRecord header column r

/-- A table whose first record's note holds two parts, one after a blank, split on the note. -/
theorem runSplit_split_column_bars :
    readRecords ',' '"' (recordLines "name,note\na, x|y\nb,z\n") =
        .ok [["name", "note"], ["a", " x|y"], ["b", "z"]] ∧
      ["name", "note"].Nodup ∧ [["a", " x|y"], ["b", "z"]] ≠ [] ∧
      ((∃ k, runSplit ⟨"name,note\na, x|y\nb,z\n", []⟩ ["--split", "note"] =
          .error (.missingKey k)) ↔
        ∃ r ∈ [["a", " x|y"], ["b", "z"]], r.length < ["name", "note"].length) ∧
      ((∀ r ∈ [["a", " x|y"], ["b", "z"]], ["name", "note"].length ≤ r.length) →
        runSplit ⟨"name,note\na, x|y\nb,z\n", []⟩ ["--split", "note"] =
          .ok ⟨0, Dialect.standard.writeRecords (["name", "note"] ::
              [["a", " x|y"], ["b", "z"]].flatMap (splitRecord ["name", "note"] (some "note"))),
            "", [(.info, "CSV file to process: stdin"),
              (.info, "header is: " ++ textListLiteral ["name", "note"])]⟩) ∧
      ([["a", " x|y"], ["b", "z"]].flatMap (splitRecord ["name", "note"] (some "note"))).length =
        ([["a", " x|y"], ["b", "z"]].map fun r =>
          1 + (columnCell ["name", "note"] "note" r).toList.count '|').sum ∧
      ∀ r ∈ [["a", " x|y"], ["b", "z"]],
        "|".intercalate ((splitRecord ["name", "note"] (some "note") r).map
          (·.getD (["name", "note"].idxOf "note") "")) = columnCell ["name", "note"] "note" r :=
  have hread : readRecords ',' '"' (recordLines "name,note\na, x|y\nb,z\n") =
      .ok [["name", "note"], ["a", " x|y"], ["b", "z"]] := rfl
  ⟨hread, by decide, by decide, runSplit_split_column "note" hread (by decide) (by decide)⟩

end Tabula.Tool
