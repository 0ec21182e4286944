import Tabula.Tool.Query
import Tabula.Proofs.Tool.SplitRows
import Tabula.Proofs.Text.Utf8

/-!
# The two commands agree on the identity query

Run with no options, the query command loads the table into its engine, selects every column
by its quoted name and writes the result back; the split command writes the table back
directly.  Both write the header and each record's cells under it, trimmed
(`runQueryWith_no_options`, `runSplit_no_options`), so they agree whenever the engine keeps a
table of text columns faithfully.

What the query command needs of its engine is stated once, as `TextTables`: quoted names that
are not empty, hold no quote or NUL and differ under ASCII case folding name the columns of a
new table; a row of texts, one per column, fits and is stored as it is; and selecting every
column by name gives the names and the rows in the order they were inserted.  `listEngine`, an
engine that keeps the table as lists, has all of these properties (`listEngine_textTables`).

On the command's side the facts are that loading stores each record's cells
(`loadRows_texts`), that the texts come back from their bytes (`fetchRows_texts`, by
`decode_encode`) and that writing rows of text cells is writing records (`writeRows_texts`).
-/

namespace Tabula.Tool

open Tabula.Cli Tabula.Csv Tabula.Query Tabula.Sql Tabula.Text

/-! ## What is asked of the engine -/

/-- Header names that can stand quoted in a statement: there is one at least, none is empty or
holds a double quote or a NUL, and no two are the same name under ASCII case folding. -/
structure QuotableNames (names : List String) : Prop where
  ne_nil : names ≠ []
  ne_empty : ∀ n ∈ names, n ≠ ""
  no_quote : ∀ n ∈ names, '"' ∉ n.toList
  no_nul : ∀ n ∈ names, '\x00' ∉ n.toList
  distinct : names.Pairwise fun a b => sameName a b = false

/-- Names that differ under case folding differ. -/
theorem QuotableNames.nodup {names : List String} (h : QuotableNames names) : names.Nodup := by
  refine List.nodup_iff_pairwise_ne.2 (h.distinct.imp fun hab heq => ?_)
  subst heq
  simp [sameName] at hab

/-- An engine that keeps tables of text columns faithfully: `holds s names rows` says that the
engine's table `s` has the columns `names` and the rows `rows`, in the order of insertion. -/
structure TextTables {σ : Type} (engine : Engine σ) where
  holds : σ → List String → List (List Value) → Prop
  /-- Quotable names, each declared `TEXT`, name the columns of a new, empty table. -/
  create : ∀ names, QuotableNames names →
    ∃ s, engine.create (createStatement names []) = .ok s ∧ holds s names []
  /-- A row of one value per column fits. -/
  checkArity : ∀ s names rows, holds s names rows → engine.checkArity s names.length = .ok ()
  /-- A row of texts, one per column, is stored as it is, after the rows before it. -/
  insert : ∀ s names rows (texts : List String), holds s names rows →
    texts.length = names.length →
      ∃ s', engine.insert s (texts.map Value.ofString) = .ok s' ∧
        holds s' names (rows ++ [texts.map Value.ofString])
  /-- Selecting every column by its quoted name gives the names and the rows as inserted. -/
  selectAll : ∀ s names rows, holds s names rows →
    engine.query s (queryText names []) = .ran names ⟨rows, none⟩

/-! ## Loading, fetching and writing text -/

section Load

variable (kit : Toolkit) {σ : Type} {engine : Engine σ} {header : List String}

/-- A record's row, with its cells taken as text cells, gives the record's cells under the
header, when the record is as long as the header. -/
theorem cellsInOrder_textRow (hnodup : header.Nodup) {record : List String}
    (hwide : header.length ≤ record.length) :
    cellsInOrder header ((rowOf header record).map fun (k, v) => (k, Cell.text v)) =
      .ok ((headerCells header record).map Cell.text) := by
  have hrow : (header.zip (record.map trimCell)).map (fun (k, v) => (k, Cell.text v)) =
      header.zip ((record.map trimCell).map Cell.text) := by
    simp only [List.zip_map_right, List.map_map]
    rfl
  rw [rowOf_of_nodup hnodup, hrow, cellsInOrder_zip hnodup (by simpa using hwide), headerCells,
    List.map_take]

theorem length_headerCells {record : List String} (hwide : header.length ≤ record.length) :
    (headerCells header record).length = header.length := by
  simp [headerCells]
  omega

/-- Loading rows of records as long as the header, with no conversions, stores each record's
cells under the header, in order, after the rows the table held. -/
theorem loadRows_texts (tables : TextTables engine) (hnodup : header.Nodup) :
    ∀ (records : List (List String)), (∀ r ∈ records, header.length ≤ r.length) →
      ∀ {s : σ} {rows : List (List Value)}, tables.holds s header rows →
        ∃ s', loadRows kit engine header [] s (records.map (rowOf header)) = .ok s' ∧
          tables.holds s' header
            (rows ++ records.map fun r => (headerCells header r).map Value.ofString)
  | [], _, s, rows, hs => ⟨s, rfl, by simpa using hs⟩
  | r :: records, hwide, s, rows, hs => by
    have hr : header.length ≤ r.length := hwide r List.mem_cons_self
    have hlen : ((headerCells header r).map Cell.text).length = header.length := by
      rw [List.length_map, length_headerCells hr]
    have hvalues : ((headerCells header r).map Cell.text).mapM bindCell =
        .ok ((headerCells header r).map Value.ofString) := by
      rw [List.mapM_map]
      exact mapM_eq_ok fun _ _ => rfl
    obtain ⟨s₁, hinsert, hs₁⟩ := tables.insert s header rows (headerCells header r) hs
      (length_headerCells hr)
    obtain ⟨s', hload, hs'⟩ := loadRows_texts tables hnodup records
      (fun r' hr' => hwide r' (List.mem_cons_of_mem _ hr')) hs₁
    refine ⟨s', ?_, by simpa using hs'⟩
    simp only [List.map_cons, loadRows, convertRow, List.foldlM_nil, pure, Except.pure, bind,
      Except.bind, cellsInOrder_textRow hnodup hr, hlen, tables.checkArity s header rows hs,
      Except.mapError, hvalues, hinsert, hload]

end Load

/-- Values that are the bytes of texts are fetched as the texts, under any names that cover
them. -/
theorem fetchRows_texts (names : List String) (rows : List (List String))
    (hrows : ∀ r ∈ rows, r.length ≤ names.length) :
    fetchRows names (rows.map (·.map Value.ofString)) = .ok (rows.map (·.map Cell.text)) := by
  unfold fetchRows
  rw [List.mapM_map]
  refine mapM_eq_ok fun r hr => ?_
  rw [Function.comp_apply, List.zip_map_right, List.mapM_map]
  -- the texts are the second members of the pairs, as the names cover them
  conv_rhs => rw [← List.map_snd_zip (hrows r hr), List.map_map]
  exact mapM_eq_ok fun p _ => by simp [cellOf, Value.ofString, decode_encode, pure, Except.pure]

theorem Cell.members?_list (items : List Cell) : (Cell.list items).members? = some items := rfl

/-- Writing rows of text cells is writing the texts as records. -/
theorem writeRows_texts (d : Dialect) (rows : List (List String)) :
    d.writeRows (Cell.list (rows.map fun r => Cell.list (r.map Cell.text))) =
      .ok (d.writeRecords rows) := by
  -- once every row has given its line, the text is the lines one after another
  have hjoin : ∀ {lines : Except WriteError (List (List Char))} (ls : List (List Char)),
      lines = .ok ls → (do let ls ← lines; pure (String.ofList ls.flatten)) =
        (.ok (String.ofList ls.flatten) : Except WriteError String) := by
    intro lines ls h
    rw [h]
    rfl
  rw [Dialect.writeRows]
  simp only [Cell.members?_list]
  refine (hjoin (rows.map fun r => d.record (r.map String.toList)) ?_).trans ?_
  · rw [List.mapM_map]
    refine mapM_eq_ok fun r _ => ?_
    simp only [Function.comp_apply, Cell.members?, List.map_map]
    rfl
  · rw [Dialect.writeRecords, List.flatMap_def]

/-! ## The two runs -/

section Runs

variable (kit : Toolkit) {stdin : String} {files : List (String × String)}
  {header : List String} {records : List (List String)}

/-- With no arguments, no option is set. -/
theorem queryCommand_read_nil : queryCommand.read [] = .run [] [] := by
  rw [Command.read, Command.read.go]
  rfl

theorem splitCommand_read_nil : splitCommand.read [] = .run [] [] := by
  rw [Command.read, Command.read.go]
  rfl

/-- The split command with no options writes the header and each record's cells under it. -/
theorem runSplit_no_options
    (hread : readRecords ',' '"' (recordLines stdin) = .ok (header :: records))
    (hnodup : header.Nodup) (hrecords : records ≠ [])
    (hwide : ∀ r ∈ records, header.length ≤ r.length) :
    ∃ log, runSplit ⟨stdin, files⟩ [] =
      .ok ⟨0, Dialect.standard.writeRecords (header :: records.map (headerCells header)), "",
        log⟩ := by
  have hrun : runSplit ⟨stdin, files⟩ [] = _ :=
    runSplit_eq splitCommand_read_nil rfl hread hrecords
  have hnone : Settings.text? [] "split" = none := rfl
  have hsplit : records.flatMap (splitRecord header none) = records.map (headerCells header) := by
    calc records.flatMap (splitRecord header none)
        = records.flatMap fun r => [headerCells header r] := rfl
      _ = records.map (headerCells header) := List.map_eq_flatMap.symm
  rw [hrun, hnone, splitTable_of_forall_le hnodup _ hwide, hsplit]
  exact ⟨_, rfl⟩

/-- The query command with no options, on an engine that keeps tables of text faithfully,
writes the header and each record's cells under it. -/
theorem runQueryWith_no_options {σ : Type} {engine : Engine σ} (tables : TextTables engine)
    (hread : readRecords ',' '"' (recordLines stdin) = .ok (header :: records))
    (hnames : QuotableNames header) (htrim : ∀ n ∈ header, trimBlank n.toList = n.toList)
    (hrecords : records ≠ []) (hwide : ∀ r ∈ records, header.length ≤ r.length) :
    ∃ log, runQueryWith kit engine ⟨stdin, files⟩ [] =
      .ok ⟨0, Dialect.standard.writeRecords (header :: records.map (headerCells header)), "",
        log⟩ := by
  have hnodup := hnames.nodup
  have hsource : sourceOf ⟨stdin, files⟩ [] = .ok (.stdin stdin) := rfl
  have htable : Source.readTable true (.stdin stdin) =
      .ok ⟨header, records.map (rowOf header)⟩ := by
    rw [Source.readTable, readTable_of_readRecords true hread fun _ => htrim]
    rfl
  have hrows : (records.map (rowOf header)).isEmpty = false := by
    cases records with
    | nil => exact absurd rfl hrecords
    | cons _ _ => rfl
  -- the engine creates the table, stores the records and gives them back
  obtain ⟨s₀, hcreate, hs₀⟩ := tables.create header hnames
  obtain ⟨s, hload, hs⟩ := loadRows_texts kit tables hnodup records hwide hs₀
  rw [List.nil_append] at hs
  have hquery := tables.selectAll s header _ hs
  have hfetch := fetchRows_texts header (records.map (headerCells header))
    fun r hr => by
      obtain ⟨r', hr', rfl⟩ := List.mem_map.1 hr
      exact length_headerCells_le header r'
  have hvalues : records.map (fun r => (headerCells header r).map Value.ofString) =
      (records.map (headerCells header)).map (·.map Value.ofString) := by
    rw [List.map_map]
    rfl
  rw [hvalues] at hquery
  have hwrite : writeResult "," header ((records.map (headerCells header)).map (·.map Cell.text)) =
      .ok (Dialect.standard.writeRecords (header :: records.map (headerCells header))) := by
    have hcells : Cell.list ((header.map Cell.text |> Cell.list) ::
        ((records.map (headerCells header)).map (·.map Cell.text)).map Cell.list) =
        Cell.list ((header :: records.map (headerCells header)).map
          fun r => Cell.list (r.map Cell.text)) := by
      rw [List.map_cons, List.map_map]
      rfl
    simp only [writeResult, hcells, writeRows_texts]
    rfl
  have hhead : Settings.flag [] "head" = false := rfl
  have hconvert : givenText [] "convert" = none := rfl
  have hdelimiter : Settings.text? [] "delimiter" = none := rfl
  simp only [runQueryWith, queryCommand_read_nil, hsource, runQueryOn]
  simp only [bind, Except.bind, pure, Except.pure, hhead, hconvert, List.map_nil, htable, hrows,
    hcreate, Except.mapError, hload, hquery, hfetch, hdelimiter, Option.getD_none, hwrite,
    Bool.false_eq_true, if_false]
  exact ⟨_, rfl⟩

/-- With no options, the query command on an engine that keeps tables of text faithfully and
the split command both succeed and write the same text: the header, then each record's cells
under it, trimmed, in the order of the records. -/
theorem identity_query_agrees {σ : Type} {engine : Engine σ} (tables : TextTables engine)
    (hread : readRecords ',' '"' (recordLines stdin) = .ok (header :: records))
    (hnames : QuotableNames header) (htrim : ∀ n ∈ header, trimBlank n.toList = n.toList)
    (hrecords : records ≠ []) (hwide : ∀ r ∈ records, header.length ≤ r.length) :
    (∃ log, runQueryWith kit engine ⟨stdin, files⟩ [] =
      .ok ⟨0, Dialect.standard.writeRecords (header :: records.map (headerCells header)), "",
        log⟩) ∧
    (∃ log, runSplit ⟨stdin, files⟩ [] =
      .ok ⟨0, Dialect.standard.writeRecords (header :: records.map (headerCells header)), "",
        log⟩) :=
  ⟨runQueryWith_no_options kit tables hread hnames htrim hrecords hwide,
    runSplit_no_options hread hnames.nodup hrecords hwide⟩

end Runs

/-! ## An engine that keeps its table as lists -/

/-- Every other member of a list, from the second on. -/
def oddMembers {α : Type} : List α → List α
  | _ :: x :: rest => x :: oddMembers rest
  | _ => []

/-- The names a statement quotes: the pieces between its double quotes, every other one. -/
def quotedNames (sql : String) : List String :=
  (oddMembers (sql.toList.splitOn '"')).map String.ofList

/-- A table engine that takes the quoted names of its statement for the columns and keeps the
rows as a list. -/
def listEngine : Engine (List String × List (List Value)) where
  create sql := .ok (quotedNames sql, [])
  checkArity t n :=
    if n = t.1.length then .ok () else .error (.columnCount "temptable" t.1.length n)
  insert t values := .ok (t.1, t.2 ++ [values])
  query t _ := .ran t.1 ⟨t.2, none⟩

/-- A piece that holds no separator is cut off at the separator after it. -/
theorem splitOn_append_cons {q : Char} {xs : List Char} (hxs : q ∉ xs) (ys : List Char) :
    (xs ++ q :: ys).splitOn q = xs :: ys.splitOn q := by
  rw [List.splitOn_eq_splitOnP, List.splitOn_eq_splitOnP]
  refine List.splitOnP_append_cons_of_forall_mem (fun x hx => ?_) q (by simp) ys
  simpa using fun h : x = q => hxs (h ▸ hx)

/-- The quoted pieces of a column list `"n₁" TEXT, "n₂" TEXT, …)`, after any text without a
quote, are the names. -/
theorem oddMembers_splitOn_columns : ∀ {names : List (List Char)}, names ≠ [] →
    (∀ n ∈ names, '"' ∉ n) → ∀ {pre : List Char}, '"' ∉ pre →
      oddMembers ((pre ++ ([',', ' '].intercalate
        (names.map fun n => '"' :: n ++ '"' :: " TEXT".toList) ++ [')'])).splitOn '"') = names
  | [], hne, _, _, _ => absurd rfl hne
  | [n], _, hquote, pre, hpre => by
    have hn : '"' ∉ n := hquote n List.mem_cons_self
    have htail : '"' ∉ " TEXT)".toList := by decide
    simp only [List.map_cons, List.map_nil, List.intercalate_singleton, List.cons_append,
      List.append_assoc]
    rw [splitOn_append_cons hpre, splitOn_append_cons hn]
    simp [oddMembers, List.splitOn_eq_splitOnP, List.splitOnP_eq_singleton]
  | n :: n' :: rest, _, hquote, pre, hpre => by
    have hn : '"' ∉ n := hquote n List.mem_cons_self
    have hsep : '"' ∉ " TEXT, ".toList := by decide
    have ih := @oddMembers_splitOn_columns (n' :: rest) (by simp)
      (fun m hm => hquote m (List.mem_cons_of_mem _ hm)) _ hsep
    simp only [List.map_cons, List.intercalate_cons_cons, List.cons_append,
      List.append_assoc] at ih ⊢
    rw [splitOn_append_cons hpre, splitOn_append_cons hn]
    -- what follows the second name starts again with text without a quote
    have hrest : ∀ xs : List Char, " TEXT".toList ++ ',' :: ' ' :: ([] ++ xs) =
        " TEXT, ".toList ++ xs := fun xs => rfl
    rw [oddMembers, hrest, ih]

/-- The statement that creates a table of text columns quotes the names of the columns. -/
theorem quotedNames_createStatement {names : List String} (hnames : QuotableNames names) :
    quotedNames (createStatement names []) = names := by
  have hchars : (createStatement names []).toList = "CREATE TABLE temptable(".toList ++
      ([',', ' '].intercalate ((names.map String.toList).map
        fun n => '"' :: n ++ '"' :: " TEXT".toList) ++ [')']) := by
    have hcol : ∀ h, columnType [] h = "TEXT" := fun _ => rfl
    have hcolumn : (String.toList ∘ fun h => "\"" ++ h ++ "\" " ++ "TEXT") =
        ((fun n => '"' :: n ++ '"' :: " TEXT".toList) ∘ String.toList) := by
      funext h
      simp
    unfold createStatement
    simp only [hcol, String.toList_append, String.toList_intercalate, List.map_map, hcolumn,
      List.append_assoc]
    rfl
  have hpre : '"' ∉ "CREATE TABLE temptable(".toList := by decide
  have hne : names.map String.toList ≠ [] := by simpa using hnames.ne_nil
  have hquote : ∀ n ∈ names.map String.toList, '"' ∉ n := by
    simpa using hnames.no_quote
  rw [quotedNames, hchars, oddMembers_splitOn_columns hne hquote hpre, List.map_map]
  calc names.map (String.ofList ∘ String.toList) = names.map id :=
        List.map_congr_left fun n _ => String.ofList_toList
    _ = names := List.map_id names

/-- The list engine keeps tables of text faithfully. -/
def listEngine_textTables : TextTables listEngine where
  holds t names rows := t = (names, rows)
  create names hnames := by
    refine ⟨(names, []), ?_, rfl⟩
    show Except.ok (quotedNames (createStatement names []), []) = _
    rw [quotedNames_createStatement hnames]
  checkArity t names rows h := by
    subst h
    simp [listEngine]
  insert t names rows texts h _ := by
    subst h
    exact ⟨(names, rows ++ [texts.map Value.ofString]), rfl, rfl⟩
  selectAll t names rows h := by
    subst h
    rfl

/-- A table with a cell padded by blanks and a record longer than the header, loaded into the
list engine and written back by both commands. -/
theorem identity_query_agrees_lists :
    readRecords ',' '"' (recordLines "name,note\nb , x\na,y,z\n") =
        .ok [["name", "note"], ["b ", " x"], ["a", "y", "z"]] ∧
      QuotableNames ["name", "note"] ∧
      (∀ n ∈ ["name", "note"], trimBlank n.toList = n.toList) ∧
      [["b ", " x"], ["a", "y", "z"]] ≠ [] ∧
      (∀ r ∈ [["b ", " x"], ["a", "y", "z"]], ["name", "note"].length ≤ r.length) ∧
      ((∃ log, runQueryWith .unavailable listEngine ⟨"name,note\nb , x\na,y,z\n", []⟩ [] =
          .ok ⟨0, Dialect.standard.writeRecords (["name", "note"] ::
            [["b ", " x"], ["a", "y", "z"]].map (headerCells ["name", "note"])), "", log⟩) ∧
        (∃ log, runSplit ⟨"name,note\nb , x\na,y,z\n", []⟩ [] =
          .ok ⟨0, Dialect.standard.writeRecords (["name", "note"] ::
            [["b ", " x"], ["a", "y", "z"]].map (headerCells ["name", "note"])), "", log⟩)) :=
  have hread : readRecords ',' '"' (recordLines "name,note\nb , x\na,y,z\n") =
      .ok [["name", "note"], ["b ", " x"], ["a", "y", "z"]] := rfl
  have hnames : QuotableNames ["name", "note"] :=
    ⟨by decide, by decide, by decide, by decide, by decide⟩
  ⟨hread, hnames, by decide, by decide, by decide,
    identity_query_agrees .unavailable listEngine_textTables hread hnames (by decide) (by decide)
      (by decide)⟩

end Tabula.Tool
