import RhydaDB.TableSemantics
import RhydaDB.WrittenRows

namespace RhydaDB

open ByteStrings Storage

/-!
# The values that statements write

An INSERT stores the last value it supplies for each column, an UPDATE the last
value it assigns over what the row had, and the key of an UPDATE or a DELETE is
what the first `=` of each key column fixes.
-/

/-! ## The last value of a name -/

/-- The first value is the last one of its name unless a later one is. -/
theorem lastNamed_cons
    (first name : String)
    (value : Value)
    (pairs : List (String × Value)) :
    lastNamed ((first, value) :: pairs) name =
      (lastNamed pairs name).or (if name = first then some value else none) := by
  rw [lastNamed, List.reverse_cons, List.lookup_append]
  by_cases same : name = first
  · simp [lastNamed, same]
  · have other : (name == first) = false :=
      beq_false_of_ne same
    simp [lastNamed, same, List.lookup, other]

/-- A name that no value stands beside has no last value. -/
theorem lastNamed_of_unnamed
    {pairs : List (String × Value)}
    {name : String}
    (unnamed : name ∉ pairs.map Prod.fst) :
    lastNamed pairs name = none := by
  rw [lastNamed, List.lookup_eq_none_iff]
  intro entry member
  exact bne_iff_ne.mpr fun same =>
    unnamed (same ▸ List.mem_map_of_mem (List.mem_reverse.mp member))

section Table

variable {table : TableDef}

/-- The last value assigned to a name is the one assigned to its index. -/
theorem lastNamed_eq_lastAssigned
    {names : List String}
    {newValues : List (Nat × Value)}
    (found :
      List.Forall₂ (fun name index => table.columnIndex name = some index)
        names (newValues.map Prod.fst))
    {name : String}
    {index : Nat}
    (here : table.columnIndex name = some index) :
    lastNamed (names.zip (newValues.map Prod.snd)) name =
      lastAssigned newValues index := by
  induction newValues generalizing names with
  | nil =>
      rw [List.map_nil, List.forall₂_nil_right_iff] at found
      rw [found]
      rfl
  | cons entry rest inductionHypothesis =>
      obtain ⟨first, value⟩ := entry
      obtain ⟨firstName, others, isFirst, later, rfl⟩ :=
        List.forall₂_cons_right_iff.mp found
      rw [List.map_cons, List.zip_cons_cons, lastNamed_cons, lastAssigned_cons,
        inductionHypothesis later]
      have sameName : name = firstName ↔ index = first :=
        ⟨fun same => Option.some.inj (here.symm.trans (same ▸ isFirst)),
          fun same => TableDef.columnIndex_inj here (same ▸ isFirst)⟩
      simp only [sameName]

/-- A regular column of a row has the value at its index. -/
theorem TableRow.value_regular
    (wellFormed : table.WellFormed)
    (row : TableRow table)
    {index : Nat}
    (isRegular : index ∈ table.regularIndexes)
    {name : String}
    (here : table.columnIndex name = some index) :
    (table.keyNames.zip row.keyValues).lookup name = none ∧
      row.value name = row.valueOf index := by
  obtain ⟨column, atIndex, rfl⟩ := TableDef.getElem?_of_columnIndex here
  have noKey : (table.keyNames.zip row.keyValues).lookup column.name = none := by
    rw [List.lookup_eq_none_iff]
    intro entry member
    refine bne_iff_ne.mpr fun same => ?_
    refine (wellFormed.not_regular_iff atIndex).mpr ?_ isRegular
    rw [same]
    exact (List.of_mem_zip member).1
  refine ⟨noKey, ?_⟩
  rw [TableRow.value, noKey, here]
  rfl

/-- A row has these values when its key and its regular columns have them. -/
theorem TableRow.value_eq
    (wellFormed : table.WellFormed)
    {row : TableRow table}
    {values : RowValues}
    (keys : row.keyValues = table.keyNames.map values)
    (regular :
      ∀ index ∈ table.regularIndexes,
        ∀ name,
          table.columnIndex name = some index → row.valueOf index = values name)
    (unnamed : ∀ name, name ∉ table.columnNames → values name = .null) :
    row.value = values := by
  funext name
  by_cases isKey : name ∈ table.keyNames
  · have onKeys := row.values_keyNames wellFormed
    rw [keys, List.forall₂_map_right_iff, List.forall₂_same] at onKeys
    exact (onKeys name isKey).2
  · by_cases named : name ∈ table.columnNames
    · obtain ⟨index, here⟩ :=
        Option.isSome_iff_exists.mp (TableDef.isSome_columnIndex.mpr named)
      obtain ⟨column, atIndex, sameName⟩ := TableDef.getElem?_of_columnIndex here
      have isRegular : index ∈ table.regularIndexes := by
        by_contra notRegular
        exact isKey (sameName ▸ (wellFormed.not_regular_iff atIndex).mp notRegular)
      rw [(row.value_regular wellFormed isRegular here).2]
      exact regular index isRegular name here
    · rw [row.value_of_unnamed wellFormed named, unnamed name named]

end Table

/-! ## INSERT -/

section Insert

variable {hexDecode : HexDecode} {table : TableDef}

/-- Values are supplied for columns of the table. -/
theorem suppliedValues_named
    (supplied : List (Identifier × Operand))
    (binds : Binds) :
    ∀ entry ∈ suppliedValues hexDecode table supplied binds,
      entry.1 ∈ table.columnNames := by
  induction supplied generalizing binds with
  | nil =>
      intro entry member
      cases member
  | cons first rest inductionHypothesis =>
      obtain ⟨identifier, operand⟩ := first
      intro entry member
      rw [suppliedValues] at member
      split at member
      · cases member
      · rename_i column found
        obtain ⟨index, _, here⟩ := Option.bind_eq_some_iff.mp found
        split at member
        · cases member
        · rcases List.mem_cons.mp member with rfl | later
          · exact List.mem_map_of_mem (List.mem_of_getElem? here)
          · exact inductionHypothesis _ entry later

/-- Each column holds the last value that was supplied for it. -/
theorem resolveValues_lastNamed
    (wellFormed : table.WellFormed)
    {supplied : List (Identifier × Operand)}
    {resolved final : List (Option Value)}
    {binds rest : Binds}
    (placed :
      resolveValues hexDecode table supplied resolved binds = .ok (final, rest))
    (sameLength : resolved.length = table.columns.length)
    {index : Nat}
    {column : ColumnDef}
    (here : table.columns[index]? = some column) :
    final.getD index none =
      (lastNamed (suppliedValues hexDecode table supplied binds) column.name).or
        (resolved.getD index none) := by
  induction supplied generalizing resolved binds with
  | nil =>
      cases placed
      rfl
  | cons first others inductionHypothesis =>
      obtain ⟨identifier, operand⟩ := first
      rw [resolveValues] at placed
      split at placed
      · cases placed
      · rename_i position resolvedAt
        split at placed
        · cases placed
        · rename_i target there
          obtain ⟨⟨value, next⟩, read, later⟩ := Fallible.bind_eq_ok.mp placed
          have isTarget :
              ((table.resolveIndex identifier).bind fun index =>
                table.columns[index]?) = some target := by
            rw [resolvedAt]
            exact there
          have supplies :
              suppliedValues hexDecode table ((identifier, operand) :: others)
                  binds =
                (target.name, value) ::
                  suppliedValues hexDecode table others next := by
            rw [suppliedValues, isTarget]
            simp only [read]
          have stays := inductionHypothesis later (by rw [List.length_set, sameLength])
          rw [stays, supplies, lastNamed_cons, Option.or_assoc]
          congr 1
          have inside : index < resolved.length := by
            rw [sameLength]
            exact (List.getElem?_eq_some_iff.mp here).1
          by_cases same : position = index
          · subst same
            cases here.symm.trans there
            simp [inside]
          · have otherName : column.name ≠ target.name := by
              intro sameName
              have found := wellFormed.columnIndex_name here
              rw [sameName, wellFormed.columnIndex_name there] at found
              exact same (Option.some.inj found)
            simp [same, otherName, List.getD_eq_getElem?_getD]

/-- The key part of a placed row is the value that the row has for it. -/
theorem insertKeyPart_value
    {resolved : List (Option Value)}
    (placed : PlacedStorable table resolved)
    {values : RowValues}
    (isPlaced :
      ∀ index column,
        table.columns[index]? = some column →
        (resolved.getD index none).getD .null = values column.name)
    {name : String}
    {part : Bytes}
    (read : insertKeyPart table resolved name = .ok part) :
    (∃ column ∈ table.columns,
        column.name = name ∧ (values name).WellTyped column.colType) ∧
      (values name).rawBytes = part := by
  unfold insertKeyPart at read
  split at read
  · cases read
  · rename_i index found
    obtain ⟨column, here, rfl⟩ := TableDef.getElem?_of_columnIndex found
    have isValue := isPlaced index column here
    split at read
    · cases read
    · rename_i value supplied
      rw [supplied, Option.getD_some] at isValue
      split at read
      · cases read
      · rename_i notNull
        cases read
        have there : resolved[index]? = some (some value) := by
          rw [List.getD_eq_getElem?_getD] at supplied
          cases entry : resolved[index]? with
          | none =>
              simp [entry] at supplied
          | some found =>
              simpa [entry] using supplied
        rw [← isValue]
        exact ⟨⟨column, List.mem_of_getElem? here, rfl,
          (placed index column value here there).wellTyped
            (Bool.eq_false_iff.mpr notNull)⟩, rfl⟩

/-- What an INSERT writes is its row. -/
theorem Insert.exists_row
    (halves : hexDecode.Halves)
    (wellFormed : table.WellFormed)
    {ins : Insert}
    {binds rest : Binds}
    (fitsFrame : ins.FitsFrame binds)
    {keyParts : List Bytes}
    {cells : List (UInt16 × Value)}
    (planned :
      planInsert hexDecode table ins binds = .ok (keyParts, cells, rest))
    (fits : PartsFit keyParts) :
    ∃ row : TableRow table,
      row.keyParts = keyParts ∧
        row.bytes = encodeRowColumns cells ∧
        row.keyValues = table.keyNames.map (ins.row hexDecode binds table) ∧
        row.value = ins.row hexDecode binds table := by
  obtain ⟨valueOf, held, sameCells⟩ := planInsert_holds halves fitsFrame planned
  unfold planInsert at planned
  split at planned
  · cases planned
  · rename_i operands isValues
    split at planned
    · cases planned
    · obtain ⟨⟨resolved, next⟩, placed, later⟩ := Fallible.bind_eq_ok.mp planned
      obtain ⟨parts, mapped, same⟩ := Fallible.bind_eq_ok.mp later
      cases same
      have operandsFit :
          ∀ entry ∈ ins.columns.zip operands, entry.2.FitsFrame :=
        fun entry member =>
          fitsFrame.1 operands isValues entry.2 (List.of_mem_zip member).2
      have nothing :
          PlacedStorable table (List.replicate table.columns.length none) := by
        intro index column value _ there
        simp [List.getElem?_replicate] at there
      have storable :=
        resolveValues_storable halves operandsFit nothing fitsFrame.2 placed
      have supplied : ins.supplied = ins.columns.zip operands := by
        rw [Insert.supplied, isValues]
      have isPlaced :
          ∀ index column,
            table.columns[index]? = some column →
            (resolved.getD index none).getD .null =
              ins.row hexDecode binds table column.name := by
        intro index column here
        have last :=
          resolveValues_lastNamed wellFormed placed List.length_replicate here
        have inside := (List.getElem?_eq_some_iff.mp here).1
        have wasNothing :
            (List.replicate table.columns.length (none : Option Value)).getD index
              none = none := by
          simp [inside]
        rw [last, wasNothing, Option.or_none, Insert.row, supplied]
      have each :=
        (Fallible.mapM_eq_ok.mp mapped).imp
          fun _ _ read => insertKeyPart_value storable isPlaced read
      obtain ⟨typed, partsAre⟩ := (List.forall₂_and_left _ _).mp each
      have sameParts :
          (table.keyNames.map (ins.row hexDecode binds table)).map
              Value.rawBytes =
            keyParts := by
        rw [List.map_map, ← List.forall₂_eq_eq_eq, List.forall₂_map_left_iff]
        exact partsAre
      have keysHeld :
          List.Forall₂ table.KeyHolds table.keyNames
            (table.keyNames.map (ins.row hexDecode binds table)) := by
        rw [List.forall₂_map_right_iff, List.forall₂_same]
        intro name isKey
        obtain ⟨column, member, named, hasType⟩ := typed name isKey
        refine ⟨column, member, named, hasType, fits _ ?_⟩
        rw [← sameParts, List.map_map]
        exact List.mem_map_of_mem isKey
      have regular :
          ∀ index ∈ table.regularIndexes,
            valueOf index = (resolved.getD index none).getD .null := by
        intro index isRegular
        have sameCell := List.map_inj_left.mp sameCells index isRegular
        exact (Prod.ext_iff.mp sameCell).2.symm
      refine ⟨⟨_, valueOf, keysHeld, held⟩, sameParts,
        congrArg encodeRowColumns sameCells.symm, rfl, ?_⟩
      refine TableRow.value_eq wellFormed rfl (fun index isRegular name here => ?_)
        fun name unnamed => ?_
      · obtain ⟨column, there, rfl⟩ := TableDef.getElem?_of_columnIndex here
        exact (regular index isRegular).trans (isPlaced index column there)
      · have noneSupplied :
            name ∉
              (suppliedValues hexDecode table ins.supplied binds).map Prod.fst := by
          intro member
          obtain ⟨entry, isSupplied, rfl⟩ := List.mem_map.mp member
          exact unnamed (suppliedValues_named _ _ entry isSupplied)
        rw [Insert.row, lastNamed_of_unnamed noneSupplied]
        rfl

end Insert

/-! ## UPDATE and DELETE -/

section Update

variable {table : TableDef}

/-- The values that `=` fixes are a key of the table, with these parts. -/
theorem fixedKey_held
    {filters : List Filter}
    (fitTable : ∀ filter ∈ filters, filter.FitsTable table)
    {keyParts : List Bytes}
    (fixed : keyPartsFromFilters table filters = .ok keyParts)
    (fits : PartsFit keyParts) :
    List.Forall₂ table.KeyHolds table.keyNames (fixedKey table filters) ∧
      (fixedKey table filters).map Value.rawBytes = keyParts := by
  have fixes := pointKey_eq_some.mp (keyPartsFromFilters_eq_ok.mp fixed)
  unfold fixedKey
  clear fixed
  generalize table.keyNames = names at fixes ⊢
  induction fixes with
  | nil =>
      exact ⟨.nil, rfl⟩
  | @cons name part names parts here _ inductionHypothesis =>
      obtain ⟨value, isFirst, notNull, rfl⟩ := here
      obtain ⟨column, member, named, typed⟩ :=
        eqValue_typed fitTable isFirst notNull
      obtain ⟨held, sameParts⟩ :=
        inductionHypothesis fun part member => fits part (List.mem_cons_of_mem _ member)
      rw [List.filterMap_cons_some isFirst]
      exact ⟨.cons ⟨column, member, named, typed, fits _ List.mem_cons_self⟩ held,
        by rw [List.map_cons, sameParts]⟩

/-- What an UPDATE stores over a row, or over none, is the merged row. -/
theorem exists_mergedRow
    (wellFormed : table.WellFormed)
    (columnsFit : table.columns.length ≤ 2 ^ 16)
    {key : List Value}
    (held : List.Forall₂ table.KeyHolds table.keyNames key)
    {newValues : List (Nat × Value)}
    (assigned : AssignedStorable table newValues)
    {names : List String}
    (found :
      List.Forall₂ (fun name index => table.columnIndex name = some index)
        names (newValues.map Prod.fst))
    (existing : Option (TableRow table)) :
    ∃ row : TableRow table,
      row.keyValues = key ∧
        mergedCells table newValues (existing.map TableRow.bytes) =
          .ok (table.cells row.valueOf) ∧
        row.value =
          mergedRow table.keyNames key (names.zip (newValues.map Prod.snd))
            (existing.map TableRow.value) := by
  obtain ⟨valueOf, holds, previous, earlier⟩ :
      ∃ valueOf,
        table.Holds valueOf ∧
          previousRow table (existing.map TableRow.bytes) =
            .ok (table.regularRow valueOf) ∧
          ∀ index ∈ table.regularIndexes,
            ∀ name,
              table.columnIndex name = some index →
              (existing.map TableRow.value).elim .null (fun row => row name) =
                valueOf index := by
    cases existing with
    | none =>
        refine ⟨fun _ => .null, fun _ _ _ _ => .inl rfl, ?_, fun _ _ _ _ => rfl⟩
        simp [previousRow, TableDef.regularRow]
    | some row =>
        exact ⟨row.valueOf, row.held, decodeRowColumns_cells columnsFit row.held,
          fun index isRegular name here =>
            (row.value_regular wellFormed isRegular here).2⟩
  let row : TableRow table := ⟨key, _, held, holds.assign assigned⟩
  have onKeys := lookup_zip_nodup wellFormed.keysNodup held
  refine ⟨row, rfl, mergedCells_assign newValues previous, ?_⟩
  refine TableRow.value_eq wellFormed ?_ (fun index isRegular name here => ?_)
    fun name unnamed => ?_
  · rw [← List.forall₂_eq_eq_eq, List.forall₂_map_right_iff]
    refine List.Forall₂.flip (onKeys.imp fun name value here => ?_)
    change value = mergedRow _ _ _ _ name
    rw [mergedRow, here]
    rfl
  · rw [mergedRow, (row.value_regular wellFormed isRegular here).1,
      lastNamed_eq_lastAssigned found here, earlier index isRegular name here]
    rfl
  · have noKey : (table.keyNames.zip key).lookup name = none := by
      rw [List.lookup_eq_none_iff]
      intro entry member
      refine bne_iff_ne.mpr fun same => unnamed ?_
      exact wellFormed.keysNamed _ (same ▸ (List.of_mem_zip member).1)
    have notAssigned :
        name ∉ (names.zip (newValues.map Prod.snd)).map Prod.fst := by
      have columns :=
        ((List.forall₂_and_left _ _).mp (found.imp fun other index here =>
          And.intro
            (TableDef.isSome_columnIndex.mp (Option.isSome_of_mem here)) here)).1
      intro member
      obtain ⟨entry, isEntry, rfl⟩ := List.mem_map.mp member
      exact unnamed (columns _ (List.of_mem_zip isEntry).1)
    rw [mergedRow, noKey, lastNamed_of_unnamed notAssigned]
    cases existing with
    | none =>
        rfl
    | some earlierRow =>
        exact earlierRow.value_of_unnamed wellFormed unnamed

end Update

end RhydaDB
