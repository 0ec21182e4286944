import Tabula.Csv.Table

/-!
# Rows under a header of distinct names

A row pairs header names with cells and keeps each name once, the later cell winning.  Under a
header whose names are pairwise distinct nothing is ever overwritten, so a record's row is just
the header zipped with the record's trimmed cells (`rowOf_of_nodup`).  Every statement about
the rows of a table that the tools write goes through this equation.
-/

namespace Tabula.Csv

open Tabula.Text

/-- A record's cell as its row holds it: trimmed of ASCII blanks at both ends. -/
def trimCell (v : String) : String := String.ofList (trimAsciiBlank v.toList)

/-- Setting a name that a row does not hold adds the pair at the end. -/
theorem Row.set_of_not_mem {α : Type} {r : Row α} {k : String} (hk : k ∉ r.map Prod.fst)
    (v : α) : r.set k v = r ++ [(k, v)] := by
  induction r with
  | nil => rfl
  | cons kv r ih =>
    obtain ⟨k', v'⟩ := kv
    have hne : k' ≠ k := fun h => hk (by simp [h])
    have hrest : k ∉ r.map Prod.fst := fun h => hk (List.mem_cons_of_mem _ h)
    simp [Row.set, hne, ih hrest]

/-- Setting distinct new names one after another appends the pairs in turn. -/
theorem Row.foldl_set_of_nodup {α β : Type} (f : β → α) (ps : List (String × β))
    (acc : Row α) (h : (acc.map Prod.fst ++ ps.map Prod.fst).Nodup) :
    ps.foldl (fun r (k, v) => Row.set r k (f v)) acc = acc ++ ps.map fun (k, v) => (k, f v) := by
  induction ps generalizing acc with
  | nil => simp
  | cons kv ps ih =>
    obtain ⟨k, v⟩ := kv
    have hk : k ∉ acc.map Prod.fst := by
      intro hmem
      have := List.nodup_append.1 h
      exact this.2.2 k hmem k (List.mem_cons_self) rfl
    have hnext : ((acc ++ [(k, f v)]).map Prod.fst ++ ps.map Prod.fst).Nodup := by
      simpa [List.append_assoc] using h
    simp only [List.foldl_cons, Row.set_of_not_mem hk, ih _ hnext, List.map_cons,
      List.append_assoc, List.singleton_append]

/-- The names a zip of a header with cells keeps are among the header's names, in order. -/
theorem map_fst_zip_sublist {β : Type} :
    ∀ (names : List String) (cells : List β), ((names.zip cells).map Prod.fst).Sublist names
  | [], _ => by simp
  | _ :: _, [] => by simp
  | name :: names, _ :: cells => by
    simpa using (map_fst_zip_sublist names cells).cons_cons name

/-- Under a header of distinct names, a record's row pairs the names with the record's trimmed
cells, as far as both go. -/
theorem rowOf_of_nodup {header : List String} (hnodup : header.Nodup) (record : List String) :
    rowOf header record = header.zip (record.map trimCell) := by
  have hkeys : ([] ++ (header.zip record).map Prod.fst).Nodup :=
    hnodup.sublist (map_fst_zip_sublist header record)
  have hfold := Row.foldl_set_of_nodup trimCell (header.zip record) [] hkeys
  rw [List.nil_append] at hfold
  rw [List.zip_map_right]
  exact hfold

/-- A text whose records can be read is a table: the first record is the header and every
later record becomes a row under it.  Trimming the header names changes nothing when none has
a blank at either end. -/
theorem readTable_of_readRecords (trimHeader : Bool) {text : String} {first : List String}
    {records : List (List String)} (h : readRecords ',' '"' (recordLines text) = .ok (first :: records))
    (htrim : trimHeader = true → ∀ n ∈ first, trimBlank n.toList = n.toList) :
    readTable trimHeader text = .ok ⟨first, records.map (rowOf first)⟩ := by
  unfold readTable
  rw [h]
  cases trimHeader with
  | false => rfl
  | true =>
    have hheader : first.map (fun n => String.ofList (trimBlank n.toList)) = first := by
      calc first.map (fun n => String.ofList (trimBlank n.toList)) = first.map id :=
            List.map_congr_left fun n hn => by simp [htrim rfl n hn]
        _ = first := List.map_id first
    simp only [if_true, hheader]

end Tabula.Csv
