import Mathlib
import Tabula.Proofs.Tool.Head

/-!
# Loading a table into an engine

The query command converts each row of the table, puts its cells in the order of the header,
binds them to values and inserts them; after the query it fetches the result's values back as
cells. This module says where each cell of a row ends up.

* A column that the conversions name once (`ConvertsOnce`) has its cell converted once: the
  steps for other columns leave it alone (`convertRow_step_get?_ne`,
  `foldlM_step_get?_of_not_mem`), and its own step converts it (`convertRow_get?`). The
  conversions read from a `--convert` text name each column once, the last piece for a column
  winning (`readConversions_nodup`, `convertsOnce_of_lookup`).
* `rowValues` is what a row is inserted as; at a position of the header that names such a
  column it holds the column's cell converted and bound (`rowValues_getElem?`).
* `KeepsTable` is what the command needs of an engine that holds its table: the new table is
  empty, an insert adds the row after the others with each value stored under its column's
  declared type, and selecting every column gives the rows back. Loading then adds one stored
  row per row of the table (`loadRows_rows`), and fetching gives one row of cells per stored
  row (`fetchRows_forall₂`). `rowsEngine`, which keeps the table as a list of rows, is such an
  engine (`rowsEngine_keepsTable`).
* `runQueryOn_written` says what a run that writes its result went through.

The facts about the `Except` monad these rest on come first: a bind succeeds when both its
parts do, and a map succeeds with values related member by member to the list.
-/

namespace Tabula.Tool

open Tabula.Cli Tabula.Csv Tabula.Query Tabula.Sql

/-! ## Successes in the `Except` monad -/

section Except

variable {ε α β : Type}

theorem bind_eq_ok {x : Except ε α} {k : α → Except ε β} {b : β} :
    x >>= k = .ok b ↔ ∃ a, x = .ok a ∧ k a = .ok b := by
  cases x <;> simp [bind, Except.bind]

@[simp] theorem mapError_eq_ok {ε' : Type} {x : Except ε α} {g : ε → ε'} {a : α} :
    x.mapError g = .ok a ↔ x = .ok a := by
  cases x <;> simp [Except.mapError]

/-- A map in the `Except` monad succeeds exactly when each member maps to the value at its
place. -/
theorem mapM_eq_ok_iff {f : α → Except ε β} {xs : List α} {ys : List β} :
    xs.mapM f = .ok ys ↔ List.Forall₂ (fun x y => f x = .ok y) xs ys := by
  induction xs generalizing ys with
  | nil => cases ys <;> simp [pure, Except.pure]
  | cons x xs ih =>
    rw [List.mapM_cons, bind_eq_ok]
    constructor
    · -- the head maps to the first value and the tail's map to the others
      rintro ⟨y, hy, h⟩
      obtain ⟨ys', hys', h⟩ := bind_eq_ok.1 h
      cases h
      exact .cons hy (ih.1 hys')
    · intro h
      cases h with
      | cons hy hrest => exact ⟨_, hy, bind_eq_ok.2 ⟨_, ih.2 hrest, rfl⟩⟩

end Except

section Related

variable {α β γ : Type}

/-- Lists related member by member are related at each position. -/
theorem forall₂_getElem? {R : α → β → Prop} {xs : List α} {ys : List β}
    (h : List.Forall₂ R xs ys) {j : Nat} {x : α} (hx : xs[j]? = some x) :
    ∃ y, ys[j]? = some y ∧ R x y := by
  induction h generalizing j with
  | nil => simp at hx
  | cons hxy _ ih =>
    cases j with
    | zero =>
      simp only [List.getElem?_cons_zero, Option.some.injEq] at hx
      subst hx
      exact ⟨_, rfl, hxy⟩
    | succ j => exact ih (by simpa using hx)

/-- Two relations member by member compose into one. -/
theorem forall₂_comp {R : α → β → Prop} {S : β → γ → Prop} {T : α → γ → Prop}
    (hT : ∀ x y z, R x y → S y z → T x z) :
    ∀ {xs : List α} {ys : List β} {zs : List γ}, List.Forall₂ R xs ys → List.Forall₂ S ys zs →
      List.Forall₂ T xs zs
  | _, _, _, .nil, .nil => .nil
  | _, _, _, .cons hxy hR, .cons hyz hS => .cons (hT _ _ _ hxy hyz) (forall₂_comp hT hR hS)

end Related

/-! ## Converting a row -/

section Rows

variable {α : Type}

theorem Row.get?_set_self (r : Row α) (k : String) (v : α) : (r.set k v).get? k = some v := by
  induction r with
  | nil => simp [Row.set, Row.get?]
  | cons p rest ih =>
    obtain ⟨k', v'⟩ := p
    by_cases hk : k' = k
    · subst hk
      simp [Row.set, Row.get?]
    · have h1 : (k' == k) = false := beq_eq_false_iff_ne.2 hk
      have h2 : (k == k') = false := beq_eq_false_iff_ne.2 (Ne.symm hk)
      simp only [Row.set, Row.get?, h1, List.lookup_cons, h2, Bool.false_eq_true, if_false]
        at ih ⊢
      exact ih

theorem Row.get?_set_ne (r : Row α) {k c : String} (hk : k ≠ c) (v : α) :
    (r.set k v).get? c = r.get? c := by
  have hck : (c == k) = false := beq_eq_false_iff_ne.2 (Ne.symm hk)
  induction r with
  | nil => simp only [Row.set, Row.get?, List.lookup_cons, hck, List.lookup_nil]
  | cons p rest ih =>
    obtain ⟨k', v'⟩ := p
    by_cases hk' : k' = k
    · subst hk'
      simp only [Row.set, Row.get?, beq_self_eq_true, if_true, List.lookup_cons, hck]
    · have h1 : (k' == k) = false := beq_eq_false_iff_ne.2 hk'
      simp only [Row.set, Row.get?, h1, Bool.false_eq_true, if_false, List.lookup_cons] at ih ⊢
      rw [ih]

/-- Looking up a row whose values are all mapped is mapping the value looked up. -/
theorem Row.get?_map {β : Type} (f : α → β) (r : Row α) (c : String) :
    Row.get? (r.map fun p => (p.1, f p.2)) c = (r.get? c).map f := by
  induction r with
  | nil => rfl
  | cons p rest ih =>
    obtain ⟨k, v⟩ := p
    by_cases hk : c = k
    · subst hk
      simp [Row.get?]
    · have hck : (c == k) = false := beq_eq_false_iff_ne.2 hk
      simp only [Row.get?, List.map_cons, List.lookup_cons, hck] at ih ⊢
      exact ih

end Rows

variable {kit : Toolkit}

/-- A conversion step on the column it names converts the column's cell; a kept kind leaves
it. -/
theorem convertRow_step_get? {r r₁ : Row Cell} {c : String} {v : Cell} (hr : r.get? c = some v)
    {conv : Conversion} (h : convertRow.step kit r (c, conv) = .ok r₁) :
    ∃ cell, convertCell kit conv v = .ok cell ∧ r₁.get? c = some cell := by
  cases conv with
  | keep name =>
    simp only [convertRow.step] at h
    cases h
    exact ⟨v, by cases v <;> rfl, hr⟩
  | _ =>
    simp only [convertRow.step, hr] at h
    obtain ⟨cell, hcell, h⟩ := bind_eq_ok.1 h
    cases h
    exact ⟨cell, hcell, Row.get?_set_self r c cell⟩

/-- A conversion step on another column leaves a column's cell alone. -/
theorem convertRow_step_get?_ne {r r₁ : Row Cell} {k c : String} (hk : k ≠ c) {conv : Conversion}
    (h : convertRow.step kit r (k, conv) = .ok r₁) : r₁.get? c = r.get? c := by
  cases conv with
  | keep name =>
    simp only [convertRow.step] at h
    cases h
    rfl
  | _ =>
    simp only [convertRow.step] at h
    split at h
    · obtain ⟨cell, -, h⟩ := bind_eq_ok.1 h
      cases h
      exact Row.get?_set_ne r hk cell
    · cases h

/-- Conversions of other columns leave a column's cell alone. -/
theorem foldlM_step_get?_of_not_mem {c : String} : ∀ {convs : Conversions} {r r' : Row Cell},
    c ∉ convs.map Prod.fst → convs.foldlM (convertRow.step kit) r = .ok r' →
      r'.get? c = r.get? c
  | [], _, _, _, h => by
    cases h
    rfl
  | (k, _) :: rest, _, _, hc, h => by
    rw [List.foldlM_cons] at h
    obtain ⟨r₁, h₁, h⟩ := bind_eq_ok.1 h
    have hk : k ≠ c := fun e => hc (e ▸ List.mem_cons_self)
    rw [foldlM_step_get?_of_not_mem (fun m => hc (List.mem_cons_of_mem _ m)) h,
      convertRow_step_get?_ne hk h₁]

/-- The conversions name a column once, with the kind `conv`. -/
def ConvertsOnce (conversions : Conversions) (c : String) (conv : Conversion) : Prop :=
  ∃ pre post : Conversions, conversions = pre ++ (c, conv) :: post ∧
    c ∉ pre.map Prod.fst ∧ c ∉ post.map Prod.fst

/-- Conversions that name a column once convert its cell once. -/
theorem convertRow_get? {conversions : Conversions} {c : String} {conv : Conversion}
    (honce : ConvertsOnce conversions c conv) {r r' : Row Cell} {v : Cell} (hr : r.get? c = some v)
    (hrow : convertRow kit conversions r = .ok r') :
    ∃ cell, convertCell kit conv v = .ok cell ∧ r'.get? c = some cell := by
  obtain ⟨pre, post, rfl, hpre, hpost⟩ := honce
  -- the steps before the column's own leave its cell, and so do the steps after it
  rw [convertRow, List.foldlM_append] at hrow
  obtain ⟨r₁, h₁, hrow⟩ := bind_eq_ok.1 hrow
  rw [List.foldlM_cons] at hrow
  obtain ⟨r₂, h₂, hrow⟩ := bind_eq_ok.1 hrow
  obtain ⟨cell, hcell, hr₂⟩ :=
    convertRow_step_get? ((foldlM_step_get?_of_not_mem hpre h₁).trans hr) h₂
  exact ⟨cell, hcell, (foldlM_step_get?_of_not_mem hpost hrow).trans hr₂⟩

/-- A column named once has the declared type of its kind. -/
theorem ConvertsOnce.columnType {conversions : Conversions} {c : String} {conv : Conversion}
    (honce : ConvertsOnce conversions c conv) : columnType conversions c = conv.columnType := by
  obtain ⟨pre, post, rfl, hpre, -⟩ := honce
  have hnone : pre.lookup c = none :=
    List.lookup_eq_none_iff.2 fun p hp =>
      bne_iff_ne.2 fun heq => hpre (List.mem_map.2 ⟨p, hp, heq.symm⟩)
  simp [Query.columnType, List.lookup_append, hnone]

/-! ## The conversions of a `--convert` text -/

/-- Recording a value under a name keeps the name's place, or adds the name at the end. -/
theorem putLast_keys (acc : List (String × String)) (k v : String) :
    (putLast acc k v).map Prod.fst =
      if k ∈ acc.map Prod.fst then acc.map Prod.fst else acc.map Prod.fst ++ [k] := by
  induction acc with
  | nil => simp [putLast]
  | cons p rest ih =>
    obtain ⟨k', v'⟩ := p
    by_cases hk : k' = k
    · subst hk
      simp [putLast]
    · have h1 : (k' == k) = false := beq_eq_false_iff_ne.2 hk
      have hmem : k ∈ k' :: rest.map Prod.fst ↔ k ∈ rest.map Prod.fst := by simp [Ne.symm hk]
      simp only [putLast, h1, Bool.false_eq_true, if_false, List.map_cons, ih, hmem]
      split <;> rfl

/-- Recording values one after another under their names keeps the names distinct. -/
theorem foldl_putLast_nodup : ∀ (pairs : List (String × String)) {acc : List (String × String)},
    (acc.map Prod.fst).Nodup →
      ((pairs.foldl (fun acc p => putLast acc p.1 p.2) acc).map Prod.fst).Nodup
  | [], _, h => h
  | (k, v) :: rest, acc, h => by
    refine foldl_putLast_nodup rest ?_
    rw [putLast_keys]
    split
    · exact h
    · rename_i hk
      refine List.nodup_append.2 ⟨h, by simp, fun a ha b hb => ?_⟩
      rw [List.mem_singleton] at hb
      subst hb
      rintro rfl
      exact hk ha

/-- The conversions read from a `--convert` text name each column once. -/
theorem readConversions_nodup {text : String} {named : List (String × String)}
    (h : readConversions text = .ok named) : (named.map Prod.fst).Nodup := by
  simp only [readConversions] at h
  obtain ⟨kinds, -, h⟩ := bind_eq_ok.1 h
  cases h
  exact foldl_putLast_nodup _ List.nodup_nil

/-- The conversions of the kinds named for the columns. -/
def conversionsOf (named : List (String × String)) : Conversions :=
  named.map fun p => (p.1, Conversion.ofName p.2)

/-- A column named once among distinct names is converted once, with the kind it is named
with. -/
theorem convertsOnce_of_lookup {named : List (String × String)}
    (hnodup : (named.map Prod.fst).Nodup) {c k : String} (hc : named.lookup c = some k) :
    ConvertsOnce (conversionsOf named) c (Conversion.ofName k) := by
  obtain ⟨l₁, l₂, rfl, hl₁⟩ := List.lookup_eq_some_iff.1 hc
  have hkeys : ∀ l : List (String × String), (conversionsOf l).map Prod.fst = l.map Prod.fst := by
    intro l
    simp [conversionsOf]
  refine ⟨conversionsOf l₁, conversionsOf l₂, by simp [conversionsOf], ?_, ?_⟩
  · -- the lookup found no earlier entry for the column
    rw [hkeys]
    intro hmem
    obtain ⟨p, hp, hpc⟩ := List.mem_map.1 hmem
    have hne := hl₁ p hp
    simp [hpc] at hne
  · -- and the names are distinct, so there is no later one
    rw [hkeys]
    simp only [List.map_append, List.map_cons] at hnodup
    exact (List.nodup_cons.1 (List.nodup_append.1 hnodup).2.1).1

/-! ## Inserting and fetching rows -/

/-- The cells a row gives in the order of a header: at each position, the cell under that
position's name. -/
theorem cellsInOrder_getElem? {α : Type} {header : List String} {row : Row α} {cells : List α}
    (h : cellsInOrder header row = .ok cells) {j : Nat} {name : String}
    (hj : header[j]? = some name) : ∃ v, row.get? name = some v ∧ cells[j]? = some v := by
  obtain ⟨v, hv, hrel⟩ := forall₂_getElem? (mapM_eq_ok_iff.1 h) hj
  refine ⟨v, ?_, hv⟩
  split at hrel
  · rename_i w hw
    cases hrel
    exact hw
  · cases hrel

/-- The values a row of the table is inserted as: its cells as text, converted, put in the
order of the header and bound. -/
def rowValues (kit : Toolkit) (header : List String) (conversions : Conversions)
    (r : Row String) : Except Fault (List Value) := do
  let converted ← convertRow kit conversions (r.map fun p => (p.1, Cell.text p.2))
  let cells ← cellsInOrder header converted
  cells.mapM bindCell

/-- Where the header names a column that is converted once, the row's value there is its cell
converted and bound. -/
theorem rowValues_getElem? {header : List String} {conversions : Conversions} {c : String}
    {conv : Conversion} (honce : ConvertsOnce conversions c conv) {r : Row String} {s : String}
    (hr : r.get? c = some s) {values : List Value}
    (h : rowValues kit header conversions r = .ok values)
    {j : Nat} (hj : header[j]? = some c) :
    ∃ v, (convertCell kit conv (.text s) >>= bindCell) = .ok v ∧ values[j]? = some v := by
  obtain ⟨converted, hconv, h⟩ := bind_eq_ok.1 h
  obtain ⟨cells, hcells, hvalues⟩ := bind_eq_ok.1 h
  have hr' : Row.get? (r.map fun p => (p.1, Cell.text p.2)) c = some (.text s) := by
    rw [Row.get?_map, hr]
    rfl
  obtain ⟨cell, hcell, hconverted⟩ := convertRow_get? honce hr' hconv
  obtain ⟨cell', hcell', hj'⟩ := cellsInOrder_getElem? hcells hj
  rw [hconverted, Option.some.injEq] at hcell'
  subst hcell'
  obtain ⟨v, hv, hbind⟩ := forall₂_getElem? (mapM_eq_ok_iff.1 hvalues) hj'
  exact ⟨v, by rw [hcell]; exact hbind, hv⟩

/-- An engine that keeps the table the query command creates for `header` and `conversions`:
`rows s` are the rows the table holds in state `s`. The new table holds none, an insert puts its
row after the others, each value stored as `store` stores it under its column's declared type,
and selecting every column by its quoted name gives back the header and the rows held. -/
structure KeepsTable {σ : Type} (engine : Engine σ) (header : List String)
    (conversions : Conversions) (store : String → Value → Value) where
  rows : σ → List (List Value)
  create : ∀ s, engine.create (createStatement header conversions) = .ok s → rows s = []
  insert : ∀ s values s', engine.insert s values = .ok s' →
    rows s' = rows s ++ [List.zipWith store (header.map (columnType conversions)) values]
  selectAll : ∀ s names result,
    engine.query s (queryText header []) = .ran names ⟨result, none⟩ →
      names = header ∧ result = rows s

/-- Loading rows that goes through inserts each row's values, stored, after the rows held. -/
theorem loadRows_rows {σ : Type} {engine : Engine σ} {header : List String}
    {conversions : Conversions} {store : String → Value → Value}
    (tables : KeepsTable engine header conversions store) :
    ∀ {records : List (Row String)} {s s' : σ},
      loadRows kit engine header conversions s records = .ok s' →
      ∃ valueRows,
        List.Forall₂ (fun r values => rowValues kit header conversions r = .ok values)
          records valueRows ∧
        tables.rows s' =
          tables.rows s ++ valueRows.map (List.zipWith store (header.map (columnType conversions)))
  | [], s, s', h => by
    cases h
    exact ⟨[], .nil, by simp⟩
  | r :: records, s, s', h => by
    -- one row converted, ordered, checked, bound and inserted, then the rest
    rw [loadRows] at h
    obtain ⟨converted, hconv, h⟩ := bind_eq_ok.1 h
    obtain ⟨cells, hcells, h⟩ := bind_eq_ok.1 h
    obtain ⟨_, -, h⟩ := bind_eq_ok.1 h
    obtain ⟨values, hvalues, h⟩ := bind_eq_ok.1 h
    obtain ⟨s₁, hinsert, h⟩ := bind_eq_ok.1 h
    obtain ⟨valueRows, hrest, hheld⟩ := loadRows_rows tables h
    have hrow : rowValues kit header conversions r = .ok values := by
      simp only [rowValues, hconv, hcells, hvalues, bind, Except.bind]
    refine ⟨values :: valueRows, .cons hrow hrest, ?_⟩
    rw [hheld, tables.insert s values s₁ (mapError_eq_ok.1 hinsert)]
    simp

/-- Fetched rows: each row of the result gives a row of cells, each value fetched under the name
of its column. -/
theorem fetchRows_forall₂ {names : List String} {rows : List (List Value)}
    {cells : List (List Cell)} (h : fetchRows names rows = .ok cells) :
    List.Forall₂ (fun r out => List.Forall₂ (fun p cell => cellOf p.1 p.2 = .ok cell)
      (names.zip r) out) rows cells :=
  (mapM_eq_ok_iff.1 h).imp fun _ _ hr => mapM_eq_ok_iff.1 hr

/-- An engine for one table of the given columns, kept as the list of its rows: the table is
created empty, a row of one value per column is stored after the others, each value stored under
its column's declared type, and every query gives the column names and the rows. -/
def rowsEngine (header : List String) (conversions : Conversions)
    (store : String → Value → Value) : Engine (List (List Value)) where
  create _ := .ok []
  checkArity _ n :=
    if n = header.length then .ok () else .error (.columnCount "temptable" header.length n)
  insert rows values :=
    .ok (rows ++ [List.zipWith store (header.map (columnType conversions)) values])
  query rows _ := .ran header ⟨rows, none⟩

/-- The engine that keeps its rows as a list keeps its table. -/
def rowsEngine_keepsTable {header : List String} {conversions : Conversions}
    {store : String → Value → Value} :
    KeepsTable (rowsEngine header conversions store) header conversions store where
  rows := id
  create _ h := by
    cases h
    rfl
  insert _ _ _ h := by
    cases h
    rfl
  selectAll _ _ _ h := by
    cases h
    exact ⟨rfl, rfl⟩

/-! ## A run that writes its result -/

/-- Settings under which the query command runs its default query: every column by its quoted
name, with no filter, grouping, ordering or other field list, and no `--head`. -/
structure DefaultQuery (settings : Settings) : Prop where
  no_head : settings.flag "head" = false
  no_where : givenText settings "where" = none
  no_group : givenText settings "group" = none
  no_sort : givenText settings "sort" = none
  no_list : givenText settings "list" = none

/-- The default query is the query of no settings. -/
theorem DefaultQuery.queryText_eq {settings : Settings} (h : DefaultQuery settings)
    (header : List String) : queryText header settings = queryText header [] := by
  simp only [queryText, h.no_where, h.no_group, h.no_sort, h.no_list]
  rfl

/-- A run without `--head` that exits 0 read a table, created the engine's table, loaded the
rows, ran the query to its end, and fetched and wrote its rows. -/
theorem runQueryOn_written {σ : Type} {engine : Engine σ} {settings : Settings} {source : Source}
    {text : String} {named : List (String × String)} {o : Outcome}
    (hhead : settings.flag "head" = false) (hconvert : givenText settings "convert" = some text)
    (hnamed : readConversions text = .ok named)
    (hrun : runQueryOn kit engine settings source = .ok o) (hexit : o.exit = 0) :
    ∃ t s₀ s names rows cells, source.readTable true = .ok t ∧
      engine.create (createStatement t.header (conversionsOf named)) = .ok s₀ ∧
      loadRows kit engine t.header (conversionsOf named) s₀ t.rows = .ok s ∧
      engine.query s (queryText t.header settings) = .ran names ⟨rows, none⟩ ∧
      fetchRows names rows = .ok cells ∧
      writeResult ((settings.text? "delimiter").getD ",") names cells = .ok o.stdout := by
  simp only [runQueryOn, hhead, hconvert, hnamed, Bool.false_eq_true, if_false] at hrun
  obtain ⟨_, ⟨⟩, hrun⟩ := bind_eq_ok.1 hrun
  obtain ⟨t, ht, hrun⟩ := bind_eq_ok.1 hrun
  by_cases hempty : t.rows.isEmpty = true
  · -- an empty table ends the run with exit code 1
    rw [if_pos hempty] at hrun
    cases hrun
    simp at hexit
  rw [if_neg hempty] at hrun
  obtain ⟨s₀, hcreate, hrun⟩ := bind_eq_ok.1 hrun
  obtain ⟨s, hload, hrun⟩ := bind_eq_ok.1 hrun
  -- only a query that runs to the end without an error writes its result with exit code 0
  split at hrun
  · split at hrun <;> cases hrun
    simp at hexit
  · cases hrun
  · split at hrun <;> cases hrun
    simp at hexit
  · obtain ⟨_, -, hrun⟩ := bind_eq_ok.1 hrun
    cases hrun
  · rename_i names rows hquery
    obtain ⟨cells, hfetch, hrun⟩ := bind_eq_ok.1 hrun
    obtain ⟨out, hwrite, hrun⟩ := bind_eq_ok.1 hrun
    cases hrun
    exact ⟨t, s₀, s, names, rows, cells, ht, mapError_eq_ok.1 hcreate, hload, hquery, hfetch,
      hwrite⟩

end Tabula.Tool
