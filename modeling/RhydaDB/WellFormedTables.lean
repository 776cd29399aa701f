import RhydaDB.Fallible
import RhydaDB.SchemaStatements
import RhydaDB.SelectStatement

namespace RhydaDB

open ByteStrings

/-!
# Well-formed tables

What the statements on a table rely on: column names are distinct, the key
lists name distinct columns, and the flags of a column say which list names
it.  Under these facts a name stands for one column index, and the lookups by
name that the source unwraps succeed.
-/

namespace TableDef

/-- The column names in table order. -/
def columnNames (table : TableDef) : List String :=
  table.columns.map fun column => column.name

/--
Key lists, flags and columns of a table agree.

Every key name is the name of exactly one column, no name stands in the key
lists twice, and a column is flagged exactly when its key list names it.
-/
structure WellFormed (table : TableDef) : Prop where
  namesNodup :
    table.columnNames.Nodup
  keysNamed :
    ∀ name ∈ table.keyNames, name ∈ table.columnNames
  keysNodup :
    table.keyNames.Nodup
  partitionFlag :
    ∀ column ∈ table.columns,
      column.isPartitionKey = true ↔ column.name ∈ table.partitionKeys
  clusteringFlag :
    ∀ column ∈ table.columns,
      column.isClustering = true ↔ column.name ∈ table.clusteringKeys

/-- The well-formedness of a concrete table can be evaluated. -/
instance decidableWellFormed (table : TableDef) : Decidable table.WellFormed :=
  decidable_of_iff
    (table.columnNames.Nodup ∧
      (∀ name ∈ table.keyNames, name ∈ table.columnNames) ∧
      table.keyNames.Nodup ∧
      (∀ column ∈ table.columns,
        column.isPartitionKey = true ↔ column.name ∈ table.partitionKeys) ∧
      ∀ column ∈ table.columns,
        column.isClustering = true ↔ column.name ∈ table.clusteringKeys)
    ⟨fun facts =>
      ⟨facts.1, facts.2.1, facts.2.2.1, facts.2.2.2.1, facts.2.2.2.2⟩,
    fun wellFormed =>
      ⟨wellFormed.namesNodup, wellFormed.keysNamed, wellFormed.keysNodup,
        wellFormed.partitionFlag, wellFormed.clusteringFlag⟩⟩

variable {table : TableDef} {name : String} {index : Nat}

/-- A name has an index exactly when it names a column. -/
theorem isSome_columnIndex :
    (table.columnIndex name).isSome = true ↔ name ∈ table.columnNames := by
  simp [columnIndex, columnNames]

/-- The column at the index of a name has that name. -/
theorem getElem?_of_columnIndex (found : table.columnIndex name = some index) :
    ∃ column, table.columns[index]? = some column ∧ column.name = name := by
  obtain ⟨inside, named, _⟩ := List.findIdx?_eq_some_iff_getElem.mp found
  exact ⟨table.columns[index], List.getElem?_eq_getElem inside,
    by simpa using named⟩

/-- An index found by name lies in the table. -/
theorem lt_of_columnIndex (found : table.columnIndex name = some index) :
    index < table.columns.length :=
  (List.findIdx?_eq_some_iff_getElem.mp found).1

/-- Two names with the same index are the same name. -/
theorem columnIndex_inj
    {other : String}
    (found : table.columnIndex name = some index)
    (foundOther : table.columnIndex other = some index) :
    name = other := by
  obtain ⟨column, here, named⟩ := getElem?_of_columnIndex found
  obtain ⟨same, there, namedOther⟩ := getElem?_of_columnIndex foundOther
  rw [here] at there
  cases there
  rw [← named, namedOther]

namespace WellFormed

variable (wellFormed : table.WellFormed)

include wellFormed

/-- A column of a well-formed table is found under its name. -/
theorem columnIndex_name
    {column : ColumnDef}
    (here : table.columns[index]? = some column) :
    table.columnIndex column.name = some index := by
  obtain ⟨inside, same⟩ := List.getElem?_eq_some_iff.mp here
  refine List.findIdx?_eq_some_iff_getElem.mpr ⟨inside, by simp [same], ?_⟩
  intro earlier before isNamed
  have named : table.columns[earlier].name = table.columns[index].name := by
    rw [same]
    simpa using isNamed
  have distinct := List.nodup_iff_injective_get.mp wellFormed.namesNodup
  have indexes :
      (⟨earlier, by simp [columnNames]; omega⟩ : Fin table.columnNames.length) =
        ⟨index, by simpa [columnNames] using inside⟩ :=
    distinct (by simpa [columnNames] using named)
  rw [Fin.mk.injEq] at indexes
  omega

/-- A name stands for one column. -/
theorem column_unique
    {first second : ColumnDef}
    (isFirst : first ∈ table.columns)
    (isSecond : second ∈ table.columns)
    (sameName : first.name = second.name) :
    first = second := by
  obtain ⟨index, here⟩ := List.mem_iff_getElem?.mp isFirst
  obtain ⟨other, there⟩ := List.mem_iff_getElem?.mp isSecond
  have found := wellFormed.columnIndex_name here
  rw [sameName, wellFormed.columnIndex_name there] at found
  cases found
  rw [here] at there
  exact Option.some.inj there

/-- A column of a well-formed table is the one found under its name. -/
theorem column_name
    {column : ColumnDef}
    (member : column ∈ table.columns) :
    table.column column.name = some column := by
  have present : (table.column column.name).isSome = true := by
    rw [TableDef.column, List.find?_isSome]
    exact ⟨column, member, by simp⟩
  obtain ⟨other, found⟩ := Option.isSome_iff_exists.mp present
  have named := List.find?_some found
  rw [beq_iff_eq] at named
  cases wellFormed.column_unique (List.mem_of_find?_eq_some found) member named
  exact found

end WellFormed

end TableDef

/-- Names are distinct when their indices are. -/
theorem nodup_indexes_iff
    {table : TableDef}
    {names : List String}
    {indexes : List Nat}
    (found :
      List.Forall₂ (fun name index => table.columnIndex name = some index)
        names indexes) :
    indexes.Nodup ↔ names.Nodup := by
  have looked : names.map table.columnIndex = indexes.map some := by
    induction found with
    | nil =>
        rfl
    | cons first _ inductionHypothesis =>
        rw [List.map_cons, List.map_cons, first, inductionHypothesis]
  have indexesNodup : (indexes.map some).Nodup ↔ indexes.Nodup :=
    List.nodup_map_iff (Option.some_injective _)
  rw [← indexesNodup, ← looked]
  constructor
  · exact List.Nodup.of_map _
  · intro distinct
    refine distinct.map_on fun name member other _ sameIndex => ?_
    have isFound : table.columnIndex name ∈ indexes.map some := by
      rw [← looked]
      exact List.mem_map_of_mem member
    obtain ⟨index, _, here⟩ := List.mem_map.mp isFound
    exact TableDef.columnIndex_inj here.symm (sameIndex ▸ here.symm)

/-- The column a filter restricts. -/
def Filter.name : Filter → String
  | .eq name _ =>
      name
  | .isIn name _ =>
      name

section ParsedFilters

variable
  {hexDecode : HexDecode}
  {table : TableDef}

/-- A column resolved by comparison is a column of the table. -/
theorem TableDef.resolve_mem
    {identifier : Identifier}
    {column : ColumnDef}
    (resolved : table.resolve identifier = some column) :
    column ∈ table.columns :=
  List.mem_of_find?_eq_some resolved

/-- A parsed filter restricts a column of the table. -/
theorem parseFilter_named
    {relation : RelationElement}
    {binds rest : Binds}
    {filter : Filter}
    (parsed : parseFilter hexDecode table relation binds = .ok (filter, rest)) :
    filter.name ∈ table.columnNames := by
  unfold parseFilter at parsed
  split at parsed
  · split at parsed
    · cases parsed
    · rename_i column resolved
      have named : column.name ∈ table.columnNames :=
        List.mem_map_of_mem (TableDef.resolve_mem resolved)
      split at parsed
      · cases parsed
        exact named
      · obtain ⟨_, _, same⟩ := Fallible.map_eq_ok.mp parsed
        cases same
        exact named
      · obtain ⟨_, _, same⟩ := Fallible.map_eq_ok.mp parsed
        cases same
        exact named
      · cases parsed
  · cases parsed

/-- Parsed filters restrict columns of the table. -/
theorem parseFilters_named
    {relations : List RelationElement}
    {binds rest : Binds}
    {filters : List Filter}
    (parsed :
      parseFilters hexDecode table relations binds = .ok (filters, rest)) :
    ∀ filter ∈ filters, filter.name ∈ table.columnNames := by
  induction relations generalizing binds filters with
  | nil =>
      cases parsed
      simp
  | cons relation relations inductionHypothesis =>
      rw [parseFilters] at parsed
      obtain ⟨⟨first, _⟩, parsedFirst, later⟩ := Fallible.bind_eq_ok.mp parsed
      obtain ⟨⟨others, _⟩, parsedOthers, same⟩ := Fallible.bind_eq_ok.mp later
      cases same
      intro filter member
      rcases List.mem_cons.mp member with rfl | earlier
      · exact parseFilter_named parsedFirst
      · exact inductionHypothesis parsedOthers filter earlier

end ParsedFilters

namespace Projection

variable
  {table : TableDef}
  {selected : List (String × ColumnType)}
  {filters : List Filter}

/-- The lookups that a projection is made of. -/
theorem build_eq_some_iff {projection : Projection} :
    build table selected filters = some projection ↔
      ∃ selectedIdxs eqFilters inFilters keyColIdxs,
        (selected.mapM fun entry => table.columnIndex entry.1) =
            some selectedIdxs ∧
          filters.mapM (eqFilter? table) = some eqFilters ∧
          filters.mapM (inFilter? table) = some inFilters ∧
          table.keyNames.mapM table.columnIndex = some keyColIdxs ∧
          projection =
            { table := table
              selectedIdxs := selectedIdxs
              eqFilters := eqFilters.filterMap id
              inFilters := inFilters.filterMap id
              keyColIdxs := keyColIdxs } := by
  simp only [build, Option.bind_eq_bind, Option.bind_eq_some_iff,
    Option.pure_def, Option.some.injEq]
  constructor
  · rintro ⟨selectedIdxs, foundSelected, eqFilters, foundEq, inFilters, foundIn,
      keyColIdxs, foundKeys, same⟩
    exact ⟨selectedIdxs, eqFilters, inFilters, keyColIdxs, foundSelected,
      foundEq, foundIn, foundKeys, same.symm⟩
  · rintro ⟨selectedIdxs, eqFilters, inFilters, keyColIdxs, foundSelected,
      foundEq, foundIn, foundKeys, same⟩
    exact ⟨selectedIdxs, foundSelected, eqFilters, foundEq, inFilters, foundIn,
      keyColIdxs, foundKeys, same.symm⟩

/-- A projection of columns, filters and key names that the table has. -/
theorem exists_build
    (keysNamed : ∀ name ∈ table.keyNames, name ∈ table.columnNames)
    (filtersNamed : ∀ filter ∈ filters, filter.name ∈ table.columnNames)
    (selectedNamed : ∀ entry ∈ selected, entry.1 ∈ table.columnNames) :
    ∃ projection, build table selected filters = some projection := by
  have foundFilter :
      ∀ filter ∈ filters, (table.columnIndex filter.name).isSome = true :=
    fun filter member =>
      TableDef.isSome_columnIndex.mpr (filtersNamed filter member)
  have foundEntry :
      ∀ entry ∈ selected, (table.columnIndex entry.1).isSome = true :=
    fun entry member =>
      TableDef.isSome_columnIndex.mpr (selectedNamed entry member)
  obtain ⟨selectedIdxs, foundSelected⟩ := Fallible.exists_mapM_eq_some foundEntry
  obtain ⟨keyColIdxs, foundKeys⟩ :=
    Fallible.exists_mapM_eq_some fun name member =>
      TableDef.isSome_columnIndex.mpr (keysNamed name member)
  have foundEq :
      ∀ filter ∈ filters, (eqFilter? table filter).isSome = true := by
    intro filter member
    have found := foundFilter filter member
    cases filter with
    | eq name value =>
        simpa [eqFilter?, Filter.name] using found
    | isIn name values =>
        rfl
  have foundIn :
      ∀ filter ∈ filters, (inFilter? table filter).isSome = true := by
    intro filter member
    have found := foundFilter filter member
    cases filter with
    | eq name value =>
        rfl
    | isIn name values =>
        simpa [inFilter?, Filter.name] using found
  obtain ⟨eqFilters, mappedEq⟩ := Fallible.exists_mapM_eq_some foundEq
  obtain ⟨inFilters, mappedIn⟩ := Fallible.exists_mapM_eq_some foundIn
  exact ⟨_, build_eq_some_iff.mpr ⟨_, _, _, _, foundSelected, mappedEq, mappedIn,
    foundKeys, rfl⟩⟩

end Projection

end RhydaDB
