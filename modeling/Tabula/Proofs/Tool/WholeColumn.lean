import Tabula.Proofs.Tool.Numerals
import Tabula.Proofs.Tool.Loading

/-!
# Whole-number columns

A column converted with `--convert=c:int` is declared `INTEGER`, and the default query writes
each of its cells back as the engine stored it. A decimal numeral in such a column is written
as its value truncated toward zero when it has no sign: the conversion truncates it before the
engine sees it. A signed numeral fails the conversion's guard and reaches the engine as text,
which `INTEGER` affinity turns into the integer it is worth when its value is whole, and into
the double nearest to its value otherwise; such a numeral is written as that double, not
truncated (`runQuery_signed_fraction_kept`).

`runQueryWith_whole_column` states this for every table and every engine that keeps its table
(`KeepsTable`) and stores numerals as `INTEGER` affinity does (`IntegerAffinity`): each row of
the table gives one written row, and where a row's cell in the column is a numeral with at most
fifteen significant digits, the written row holds `Numeral.shown` at every position of the
column. `row_shown` is the same fact for one row.
-/

namespace Tabula.Tool

open Tabula.Cli Tabula.Csv Tabula.Query Tabula.Sql

/-- In a row loaded into an engine that stores numerals as `INTEGER` affinity does, a numeral
in a column converted once to whole numbers is fetched back as what the column shows for it, at
every position of the column. -/
theorem row_shown {kit : Toolkit} {header : List String} {conversions : Conversions}
    {store : String → Value → Value} (haffinity : IntegerAffinity (store "INTEGER")) {c : String}
    (honce : ConvertsOnce conversions c .whole) {r : Row String} {values : List Value}
    (hvalues : rowValues kit header conversions r = .ok values) {out : List Cell}
    (hout : List.Forall₂ (fun p cell => cellOf p.1 p.2 = .ok cell)
      (header.zip (List.zipWith store (header.map (columnType conversions)) values)) out)
    (n : Numeral) (hr : r.get? c = some (String.ofList n.text)) (hsig : n.significand < 10 ^ 15)
    {j : Nat} (hj : header[j]? = some c) : out[j]? = some n.shown := by
  obtain ⟨v, hv, hvj⟩ := rowValues_getElem? honce hr hvalues hj
  obtain ⟨cell, v', hcell, hbind, hshown⟩ := numeral_shown kit haffinity hsig c
  -- the value inserted at the position is the numeral's value bound
  have hv' : v' = v := by
    have hconvert : convertCell kit .whole (.text (String.ofList n.text)) = .ok cell := hcell
    rw [hconvert] at hv
    exact Except.ok.inj (hbind.symm.trans hv)
  subst hv'
  have hpair : (header.zip (List.zipWith store (header.map (columnType conversions)) values))[j]? =
      some (c, store "INTEGER" v') := by
    rw [List.getElem?_zip_eq_some]
    refine ⟨hj, List.getElem?_zipWith_eq_some.2 ⟨"INTEGER", v', ?_, hvj, rfl⟩⟩
    rw [List.getElem?_map, hj, Option.map_some, honce.columnType]
    rfl
  obtain ⟨fetched, hfetched, hcellOf⟩ := forall₂_getElem? hout hpair
  rw [hshown] at hcellOf
  cases hcellOf
  exact hfetched

/-- The query command's default query over a table with a column given the kind `int` writes,
for each row of the table, one row in which every decimal numeral of the column with at most
fifteen significant digits shows as `Numeral.shown`: its value truncated toward zero, unless it
is signed and its value is not whole. This holds on every engine that keeps its table and stores
numerals as `INTEGER` affinity does. -/
theorem runQueryWith_whole_column {kit : Toolkit} {σ : Type} {engine : Engine σ}
    {store : String → Value → Value}
    {env : Environment} {args positional : List String} {settings : Settings} {text : String}
    {named : List (String × String)} {c : String} {t : Csv.Table} {o : Outcome}
    (hargs : queryCommand.read args = .run settings positional)
    (hfile : settings.text? "csv_file" = none) (hdefault : DefaultQuery settings)
    (hconvert : givenText settings "convert" = some text)
    (hnamed : readConversions text = .ok named) (hint : named.lookup c = some "int")
    (htable : readTable true env.stdin = .ok t)
    (tables : KeepsTable engine t.header (conversionsOf named) store)
    (haffinity : IntegerAffinity (store "INTEGER"))
    (hrun : runQueryWith kit engine env args = .ok o) (hexit : o.exit = 0) :
    ∃ shown : List (List Cell),
      writeResult ((settings.text? "delimiter").getD ",") t.header shown = .ok o.stdout ∧
      List.Forall₂ (fun (r : Row String) (out : List Cell) => ∀ n : Numeral,
        r.get? c = some (String.ofList n.text) → n.significand < 10 ^ 15 →
          ∀ j : Nat, t.header[j]? = some c → out[j]? = some n.shown)
        t.rows shown := by
  have honce : ConvertsOnce (conversionsOf named) c .whole :=
    convertsOnce_of_lookup (readConversions_nodup hnamed) hint
  have hon : runQueryOn kit engine settings (.stdin env.stdin) = .ok o := by
    simpa only [runQueryWith, hargs, sourceOf_stdin hfile] using hrun
  obtain ⟨t', s₀, s, names, rows, cells, ht, hcreate, hload, hquery, hfetch, hwrite⟩ :=
    runQueryOn_written hdefault.no_head hconvert hnamed hon hexit
  have htt : t' = t := by
    rw [Source.readTable, htable] at ht
    cases ht
    rfl
  subst htt
  -- the engine gives back the header and the rows it stored, one for each row of the table
  rw [hdefault.queryText_eq] at hquery
  obtain ⟨rfl, hrows⟩ := tables.selectAll s names rows hquery
  obtain ⟨valueRows, hvalues, hheld⟩ := loadRows_rows tables hload
  rw [tables.create s₀ hcreate, List.nil_append] at hheld
  have hfetched := fetchRows_forall₂ hfetch
  rw [hrows, hheld, List.forall₂_map_left_iff] at hfetched
  refine ⟨cells, hwrite, forall₂_comp ?_ hvalues hfetched⟩
  intro r values out hr hout n hn hsig j hj
  exact row_shown haffinity honce hr hout n hn hsig hj

/-- A run whose outcome, read as an option, has the given exit code and output is a run that
succeeds with them. -/
theorem exists_ok_of_toOption {r : Except Fault Outcome} {code : Int} {out : String}
    (h : r.toOption.map (fun o => (o.exit, o.stdout)) = some (code, out)) :
    ∃ o, r = .ok o ∧ o.exit = code ∧ o.stdout = out := by
  cases r with
  | error e => cases h
  | ok o =>
    simp only [Except.toOption, Option.map_some, Option.some.injEq, Prod.mk.injEq] at h
    exact ⟨o, rfl, h⟩

/-- `--convert=a:int`, and nothing else, sets the conversions to `a:int`. -/
theorem queryCommand_read_convert_int :
    queryCommand.read ["--convert=a:int"] = .run [("convert", .text "a:int")] [] := by
  rw [Command.read, @queryCommand_read_go_convert "--convert=a:int" "a:int" (by decide)
      (by decide +kernel) (by decide +kernel),
    Command.read.go.eq_1]
  rfl

/-- A whole number, a signed whole number written with a point, and a signed fraction, loaded
into an engine that keeps its rows as a list and stores numerals as `INTEGER` affinity does: the
first is truncated, the second shown as the integer it is, the third kept as it is. -/
theorem runQueryWith_whole_column_signs :
    queryCommand.read ["--convert=a:int"] = .run [("convert", .text "a:int")] [] ∧
      Settings.text? [("convert", .text "a:int")] "csv_file" = none ∧
      DefaultQuery [("convert", .text "a:int")] ∧
      givenText [("convert", .text "a:int")] "convert" = some "a:int" ∧
      readConversions "a:int" = .ok [("a", "int")] ∧
      List.lookup "a" [("a", "int")] = some "int" ∧
      readTable true "a\n7.9\n-3.0\n-2.5\n" =
        .ok ⟨["a"], [[("a", "7.9")], [("a", "-3.0")], [("a", "-2.5")]]⟩ ∧
      IntegerAffinity (numeralStore "INTEGER") ∧
      ∃ o, runQueryWith .unavailable
          (rowsEngine ["a"] (conversionsOf [("a", "int")]) numeralStore)
          ⟨"a\n7.9\n-3.0\n-2.5\n", []⟩ ["--convert=a:int"] = .ok o ∧ o.exit = 0 ∧
        o.stdout = "a\n7\n-3\n-2.5\n" ∧
        ∃ shown : List (List Cell),
          writeResult ((Settings.text? [("convert", .text "a:int")] "delimiter").getD ",") ["a"]
            shown = .ok o.stdout ∧
          List.Forall₂ (fun (r : Row String) (out : List Cell) => ∀ n : Numeral,
            r.get? "a" = some (String.ofList n.text) → n.significand < 10 ^ 15 →
              ∀ j : Nat, ["a"][j]? = some "a" → out[j]? = some n.shown)
            [[("a", "7.9")], [("a", "-3.0")], [("a", "-2.5")]] shown := by
  have hfile : Settings.text? [("convert", .text "a:int")] "csv_file" = none := rfl
  have hdefault : DefaultQuery [("convert", .text "a:int")] := ⟨rfl, rfl, rfl, rfl, rfl⟩
  have hconvert : givenText [("convert", .text "a:int")] "convert" = some "a:int" := rfl
  have hnamed : readConversions "a:int" = .ok [("a", "int")] := rfl
  have hint : List.lookup "a" [("a", "int")] = some "int" := rfl
  have htable : readTable true (Environment.stdin ⟨"a\n7.9\n-3.0\n-2.5\n", []⟩) =
      .ok ⟨["a"], [[("a", "7.9")], [("a", "-3.0")], [("a", "-2.5")]]⟩ := rfl
  -- the run itself, evaluated once the arguments are read
  have hread : runQueryWith .unavailable
      (rowsEngine ["a"] (conversionsOf [("a", "int")]) numeralStore)
      ⟨"a\n7.9\n-3.0\n-2.5\n", []⟩ ["--convert=a:int"] =
        runQueryOn .unavailable (rowsEngine ["a"] (conversionsOf [("a", "int")]) numeralStore)
          [("convert", .text "a:int")] (.stdin "a\n7.9\n-3.0\n-2.5\n") := by
    simp only [runQueryWith, queryCommand_read_convert_int]
    rfl
  have hcheck : ((runQueryOn .unavailable
      (rowsEngine ["a"] (conversionsOf [("a", "int")]) numeralStore)
      [("convert", .text "a:int")] (.stdin "a\n7.9\n-3.0\n-2.5\n")).toOption.map
        fun o => (o.exit, o.stdout)) = some (0, "a\n7\n-3\n-2.5\n") := by
    decide +kernel
  rw [← hread] at hcheck
  obtain ⟨o, hrun, hexit, hout⟩ := exists_ok_of_toOption hcheck
  have hshown := runQueryWith_whole_column queryCommand_read_convert_int hfile hdefault hconvert
    hnamed hint htable rowsEngine_keepsTable integerAffinity_numeralStore hrun hexit
  exact ⟨queryCommand_read_convert_int, hfile, hdefault, hconvert, hnamed, hint, htable,
    integerAffinity_numeralStore, o, hrun, hexit, hout, hshown⟩

/-- A signed fraction in a column given the kind `int` is not truncated: the guard leaves it as
text, the engine keeps it as a double, and it is written back as it was. -/
theorem runQuery_signed_fraction_kept :
    ∃ o, runQuery .unavailable ⟨"a\n-2.5\n", []⟩ ["--convert=a:int"] = .ok o ∧
      o.exit = 0 ∧ o.stdout = "a\n-2.5\n" := by
  have hread : runQuery .unavailable ⟨"a\n-2.5\n", []⟩ ["--convert=a:int"] =
      runQueryOn .unavailable sqlEngine [("convert", .text "a:int")] (.stdin "a\n-2.5\n") := by
    simp only [runQuery, runQueryWith, queryCommand_read_convert_int]
    rfl
  have hcheck :
      ((runQueryOn .unavailable sqlEngine [("convert", .text "a:int")]
        (.stdin "a\n-2.5\n")).toOption.map
        fun o => (o.exit, o.stdout)) = some (0, "a\n-2.5\n") := by
    decide +kernel
  rw [← hread] at hcheck
  exact exists_ok_of_toOption hcheck

end Tabula.Tool
