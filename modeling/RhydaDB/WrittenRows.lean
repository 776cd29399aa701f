import RhydaDB.StoredTables
import RhydaDB.WriteFilters

namespace RhydaDB

open ByteStrings

/-!
# The rows that statements write

What INSERT and UPDATE send to the store is a row of their table: a typed value
for each key column and a storable one for each regular column, provided that
the request fits a frame and its key parts fit their length fields.
-/

variable
  {hexDecode : HexDecode}
  {table : TableDef}

/-- Read at the types of the key columns, the parts of a key are its values. -/
theorem exists_keyValues
    {names : List String}
    {keyParts : List Bytes}
    (read :
      List.Forall₂
        (fun name part =>
          ∃ column ∈ table.columns,
            column.name = name ∧
              ∃ value : Value,
                value.WellTyped column.colType ∧ value.rawBytes = part)
        names keyParts)
    (fits : PartsFit keyParts) :
    ∃ keyValues,
      List.Forall₂ table.KeyHolds names keyValues ∧
        keyValues.map Value.rawBytes = keyParts := by
  induction read with
  | nil =>
      exact ⟨[], .nil, rfl⟩
  | @cons name part names keyParts first rest inductionHypothesis =>
      obtain ⟨column, member, named, value, typed, rfl⟩ := first
      have short : value.rawBytes.length ≤ 65535 :=
        fits _ List.mem_cons_self
      obtain ⟨keyValues, held, parts⟩ :=
        inductionHypothesis fun other later =>
          fits other (List.mem_cons_of_mem _ later)
      refine ⟨value :: keyValues, .cons ⟨column, member, named, typed, short⟩ held,
        ?_⟩
      rw [List.map_cons, parts]

/-- A storable value that does not compare equal to null has the column's type. -/
theorem Storable.wellTyped
    {columnType : ColumnType}
    {value : Value}
    (storable : Storable columnType value)
    (notNull : value.partialEq .null = false) :
    value.WellTyped columnType := by
  rcases storable with rfl | ⟨typed, _⟩
  · cases notNull
  · exact typed

/-- The key part of an INSERT is a placed value of its column. -/
theorem insertKeyPart_typed
    {resolved : List (Option Value)}
    (placed : PlacedStorable table resolved)
    {name : String}
    {part : Bytes}
    (read : insertKeyPart table resolved name = .ok part) :
    ∃ column ∈ table.columns,
      column.name = name ∧
        ∃ value : Value,
          value.WellTyped column.colType ∧ value.rawBytes = part := by
  unfold insertKeyPart at read
  split at read
  · cases read
  · rename_i index found
    split at read
    · cases read
    · rename_i value supplied
      split at read
      · cases read
      · rename_i notNull
        cases read
        obtain ⟨column, here, named⟩ := TableDef.getElem?_of_columnIndex found
        have isPlaced : resolved[index]? = some (some value) := by
          rw [List.getD_eq_getElem?_getD] at supplied
          cases there : resolved[index]? with
          | none =>
              simp [there] at supplied
          | some entry =>
              simpa [there] using supplied
        exact ⟨column, List.mem_of_getElem? here, named, value,
          (placed index column value here isPlaced).wellTyped
            (Bool.eq_false_iff.mpr notNull),
          rfl⟩

/-- The value that a filter fixes for a key column has the column's type. -/
theorem eqValue_typed
    {filters : List Filter}
    (fitTable : ∀ filter ∈ filters, filter.FitsTable table)
    {name : String}
    {value : Value}
    (isFirst : eqValue filters name = some value)
    (notNull : value.partialEq .null = false) :
    ∃ column ∈ table.columns,
      column.name = name ∧ value.WellTyped column.colType := by
  obtain ⟨filter, member, matches_⟩ := List.exists_of_findSome?_eq_some isFirst
  obtain ⟨column, inTable, named, storable⟩ := fitTable filter member
  cases filter with
  | eq other wanted =>
      dsimp only at matches_
      split at matches_
      · rename_i same
        cases matches_
        refine ⟨column, inTable, named.symm.trans same, ?_⟩
        exact (storable value List.mem_cons_self).wellTyped notNull
      · cases matches_
  | isIn other values =>
      cases matches_

/-- The key part that a filter fixes is a value of its column. -/
theorem FixesPart.typed
    {filters : List Filter}
    (fitTable : ∀ filter ∈ filters, filter.FitsTable table)
    {name : String}
    {part : Bytes}
    (fixes : FixesPart filters name part) :
    ∃ column ∈ table.columns,
      column.name = name ∧
        ∃ value : Value,
          value.WellTyped column.colType ∧ value.rawBytes = part := by
  obtain ⟨value, isFirst, notNull, sameBytes⟩ := fixes
  obtain ⟨column, inTable, named, typed⟩ := eqValue_typed fitTable isFirst notNull
  exact ⟨column, inTable, named, value, typed, sameBytes⟩

/-- What an INSERT writes is a row of its table. -/
theorem exists_insertedRow
    (halves : hexDecode.Halves)
    {ins : Insert}
    {binds rest : Binds}
    (fitsFrame : ins.FitsFrame binds)
    {keyParts : List Bytes}
    {cells : List (UInt16 × Value)}
    (planned :
      planInsert hexDecode table ins binds = .ok (keyParts, cells, rest))
    (fits : PartsFit keyParts) :
    ∃ row : TableRow table,
      row.keyParts = keyParts ∧ row.bytes = encodeRowColumns cells := by
  obtain ⟨valueOf, held, sameCells⟩ := planInsert_holds halves fitsFrame planned
  unfold planInsert at planned
  split at planned
  · cases planned
  · rename_i operands isValues
    split at planned
    · cases planned
    · obtain ⟨⟨resolved, next⟩, placed, later⟩ := Fallible.bind_eq_ok.mp planned
      obtain ⟨parts, mapped, same⟩ := Fallible.bind_eq_ok.mp later
      cases same
      have operandsFit :
          ∀ entry ∈ ins.columns.zip operands, entry.2.FitsFrame :=
        fun entry member =>
          fitsFrame.1 operands isValues entry.2 (List.of_mem_zip member).2
      have nothing :
          PlacedStorable table (List.replicate table.columns.length none) := by
        intro index column value _ there
        simp [List.getElem?_replicate] at there
      have stored :=
        resolveValues_storable halves operandsFit nothing fitsFrame.2 placed
      have typed :=
        (Fallible.mapM_eq_ok.mp mapped).imp
          fun _ _ read => insertKeyPart_typed stored read
      obtain ⟨keyValues, keysHeld, sameParts⟩ := exists_keyValues typed fits
      exact ⟨⟨keyValues, valueOf, keysHeld, held⟩, sameParts,
        congrArg encodeRowColumns sameCells.symm⟩

/-- What an UPDATE writes is a row of its table, read and merged or not. -/
theorem exists_updatedRow
    (halves : hexDecode.Halves)
    {upd : Update}
    {binds rest : Binds}
    (fitsFrame : upd.FitsFrame binds)
    {newValues : List (Nat × Value)}
    {keyParts : List Bytes}
    (planned :
      planUpdate hexDecode table upd binds = .ok (newValues, keyParts, rest))
    (fits : PartsFit keyParts)
    {valueOf : Nat → Value}
    (held : table.Holds valueOf) :
    ∃ row : TableRow table,
      row.keyParts = keyParts ∧
        row.bytes = encodeRowColumns (table.cells valueOf) := by
  obtain ⟨⟨assigned, next⟩, read, later⟩ := Fallible.bind_eq_ok.mp planned
  obtain ⟨⟨filters, last⟩, parsed, other⟩ := Fallible.bind_eq_ok.mp later
  obtain ⟨parts, fixed, same⟩ := Fallible.bind_eq_ok.mp other
  cases same
  have nextFit : next.FitFrame := by
    rw [Binds.FitFrame,
      (assignedValues_storable halves fitsFrame.1 fitsFrame.2.2 read).2]
    exact fitsFrame.2.2
  have fitTable := parseFilters_fitTable halves fitsFrame.2.1 nextFit parsed
  have fixes := pointKey_eq_some.mp (keyPartsFromFilters_eq_ok.mp fixed)
  obtain ⟨keyValues, keysHeld, sameParts⟩ :=
    exists_keyValues (fixes.imp fun _ _ fixesPart => fixesPart.typed fitTable)
      fits
  exact ⟨⟨keyValues, valueOf, keysHeld, held⟩, sameParts, rfl⟩

end RhydaDB
