import RhydaDB.BindMetadata
import RhydaDB.WellFormedTables

namespace RhydaDB

/-!
# Two ways to resolve a column

INSERT columns and WHERE restrictions are looked up with `identEq`, which
compares an unquoted identifier with every column name regardless of case and
takes the first match.  PREPARE, select lists and UPDATE assignments fold the
identifier with `normId` and look the result up exactly.  The two part at a
column whose quoted name has upper-case letters.
-/

section Searches

variable {α : Type} {coarse fine : α → Bool} {items : List α}

/-- Items that only the coarse search accepts stand behind one that both accept. -/
def FineFirst (coarse fine : α → Bool) (items : List α) : Prop :=
  ∀ before item after,
    items = before ++ item :: after →
    coarse item = true →
    fine item = false →
    ∃ earlier ∈ before, fine earlier = true

/-- The first item that the coarse search accepts is one for the fine search. -/
theorem FineFirst.fine_of_first
    (finer : ∀ item, fine item = true → coarse item = true)
    (fineFirst : FineFirst coarse fine items)
    {index : Nat}
    (inside : index < items.length)
    (accepted : coarse items[index] = true)
    (first : ∀ (earlier : Nat) (before : earlier < index), coarse items[earlier] = false) :
    fine items[index] = true := by
  by_contra rejected
  have split : items = items.take index ++ items[index] :: items.drop (index + 1) := by
    rw [← List.drop_eq_getElem_cons inside, List.take_append_drop]
  obtain ⟨item, member, isFine⟩ :=
    fineFirst _ _ _ split accepted (Bool.eq_false_iff.mpr rejected)
  obtain ⟨earlier, before, rfl⟩ := List.getElem_of_mem member
  have smaller : earlier < index := by
    rw [List.length_take] at before
    omega
  have isCoarse := finer _ isFine
  rw [List.getElem_take, first earlier smaller] at isCoarse
  cases isCoarse

/-- Then both searches stop at the same position. -/
theorem FineFirst.findIdx?_eq
    (finer : ∀ item, fine item = true → coarse item = true)
    (fineFirst : FineFirst coarse fine items) :
    items.findIdx? coarse = items.findIdx? fine := by
  cases found : items.findIdx? coarse with
  | none =>
      rw [List.findIdx?_eq_none_iff] at found
      symm
      rw [List.findIdx?_eq_none_iff]
      intro item member
      by_contra accepted
      have isCoarse := finer item (by simpa using accepted)
      rw [found item member] at isCoarse
      cases isCoarse
  | some index =>
      obtain ⟨inside, accepted, first⟩ := List.findIdx?_eq_some_iff_getElem.mp found
      have notCoarse :
          ∀ (earlier : Nat) (before : earlier < index), coarse items[earlier] = false :=
        fun earlier before => by simpa using first earlier before
      symm
      rw [List.findIdx?_eq_some_iff_getElem]
      refine ⟨inside, fineFirst.fine_of_first finer inside accepted notCoarse, ?_⟩
      intro earlier before isFine
      have isCoarse := finer _ isFine
      rw [notCoarse earlier before] at isCoarse
      cases isCoarse

/-- Searches that find the same item meet it before all other candidates. -/
theorem fineFirst_of_find?_eq
    (same : items.find? coarse = items.find? fine) :
    FineFirst coarse fine items := by
  rintro before item after rfl accepted rejected
  cases found : before.find? coarse with
  | some earlier =>
      rw [List.find?_append, found, Option.some_or] at same
      have isFine := List.find?_some same.symm
      exact ⟨earlier, List.mem_of_find?_eq_some found, isFine⟩
  | none =>
      rw [List.find?_append, found, Option.none_or,
        List.find?_cons_of_pos (by simpa using accepted)] at same
      have isFine := List.find?_some same.symm
      rw [rejected] at isFine
      cases isFine

end Searches

namespace TableDef

/--
An identifier resolves to the same column, at the same index, with `identEq`
and through `normId`, and it does with one exactly when it does with the other.
-/
def ResolvesAlike (table : TableDef) (identifier : Identifier) : Prop :=
  table.resolve identifier = table.column (normId identifier) ∧
    table.resolveIndex identifier = table.columnIndex (normId identifier)

instance (table : TableDef) (identifier : Identifier) :
    Decidable (table.ResolvesAlike identifier) :=
  inferInstanceAs (Decidable (_ ∧ _))

/--
Every column whose name differs from an unquoted identifier in case only, and
is not in lower case itself, stands behind the column of that name in lower
case.
-/
def LowerCaseFirst (table : TableDef) : Identifier → Prop
  | .quoted _ =>
      True
  | .unquoted text =>
      ∀ before column after,
        table.columns = before ++ column :: after →
        toAsciiLowercase column.name = toAsciiLowercase text →
        column.name ≠ toAsciiLowercase text →
        ∃ earlier ∈ before, earlier.name = toAsciiLowercase text

/-- In the terms of the two searches. -/
theorem lowerCaseFirst_iff_fineFirst
    {table : TableDef}
    {identifier : Identifier} :
    table.LowerCaseFirst identifier ↔
      FineFirst
        (fun column : ColumnDef => identEq identifier column.name)
        (fun column => column.name == normId identifier)
        table.columns := by
  cases identifier with
  | quoted text =>
      constructor
      · intro _ before column after _ accepted rejected
        have same : text = column.name := by simpa [identEq] using accepted
        simp [normId, same] at rejected
      · intro _
        trivial
  | unquoted text =>
      simp [LowerCaseFirst, FineFirst, identEq, normId,
        @eq_comm _ (toAsciiLowercase text)]

/--
Both ways find the same column of a table, unless the identifier is unquoted
and a column that it equals only up to case comes before, or stands there
without, the one in lower case.
-/
theorem resolvesAlike_iff (table : TableDef) (identifier : Identifier) :
    table.ResolvesAlike identifier ↔ table.LowerCaseFirst identifier := by
  rw [lowerCaseFirst_iff_fineFirst]
  constructor
  · rintro ⟨sameColumn, _⟩
    exact fineFirst_of_find?_eq sameColumn
  · intro fineFirst
    have finer :
        ∀ column : ColumnDef,
          (column.name == normId identifier) = true →
          identEq identifier column.name = true := by
      intro column named
      rw [beq_iff_eq.mp named]
      exact identEq_normId identifier
    have sameIndex := fineFirst.findIdx?_eq finer
    refine ⟨?_, sameIndex⟩
    rw [resolve, column, List.find?_eq_bind_findIdx?_getElem?, sameIndex,
      ← List.find?_eq_bind_findIdx?_getElem?]

/-- `CREATE TABLE t (k int PRIMARY KEY, "Foo" int)`. -/
def quotedColumnTable : TableDef where
  keyspace := "app"
  name := "t"
  columns := [⟨"k", .int, true, false⟩, ⟨"Foo", .int, false, false⟩]
  partitionKeys := ["k"]
  clusteringKeys := []

/-- INSERT finds the column `"Foo"` under the name `foo`, PREPARE does not. -/
theorem quoted_column_resolves_differently :
    quotedColumnTable.WellFormed ∧
      quotedColumnTable.resolve (.unquoted "foo") =
        some ⟨"Foo", .int, false, false⟩ ∧
      quotedColumnTable.column (normId (.unquoted "foo")) = none ∧
      ¬ quotedColumnTable.ResolvesAlike (.unquoted "foo") := by
  decide +kernel

end TableDef

end RhydaDB
