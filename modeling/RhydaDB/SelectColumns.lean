import RhydaDB.StoredTables
import RhydaDB.UpdateMerge

namespace RhydaDB

open ByteStrings AtomicPrograms Storage

/-!
# The columns a SELECT returns

A select list is resolved twice: by the names it mentions, for the reported
types, and by the names it reports, for the values.  Without aliases these are
the same names.  An alias that is no column name panics at the second lookup,
and one that is another column's name returns that column's values.
-/

/-! ## Select lists -/

/-- The table column that an element mentions. -/
def SelectElement.columnName? : SelectElement → Option String
  | .column name _ =>
      some (normId name)
  | _ =>
      none

/-- The table columns that a select list stands for. -/
def selectedNames (table : TableDef) (elements : List SelectElement) : List String :=
  if SelectElement.star ∈ elements then
    table.columnNames
  else
    elements.filterMap SelectElement.columnName?

/-- Every alias is the name of the column that it stands for. -/
def AliasesAreNames (elements : List SelectElement) : Prop :=
  ∀ name aliased,
    SelectElement.column name (some aliased) ∈ elements →
    normId aliased = normId name

/-- A mentioned column with the name and the type it is reported with. -/
def Reports
    (table : TableDef)
    (element : SelectElement)
    (entry : String × ColumnType) :
    Prop :=
  ∃ name aliased column,
    element = .column name aliased ∧
      table.column (normId name) = some column ∧
      entry = (normId (aliased.getD name), column.colType)

section SelectLists

variable
  {table : TableDef}
  {elements : List SelectElement}
  {selected : List (String × ColumnType)}

/-- Without a star each element of an accepted list reports one column. -/
theorem selectColumns_reports
    (accepted : selectColumns table elements = .ok selected)
    (noStar : SelectElement.star ∉ elements) :
    List.Forall₂ (Reports table) elements selected := by
  obtain ⟨chosen, mapped, same⟩ := Fallible.map_eq_ok.mp accepted
  rw [if_neg noStar] at same
  subst same
  have pairs := Fallible.mapM_eq_ok.mp mapped
  clear mapped accepted
  induction pairs with
  | nil =>
      exact .nil
  | @cons element found elements _ first _ inductionHypothesis =>
      have later := inductionHypothesis fun member => noStar (by simp [member])
      cases element with
      | star =>
          exact absurd List.mem_cons_self noStar
      | function text =>
          cases first
      | column name aliased =>
          simp only [selectColumn] at first
          split at first
          · rename_i column isColumn
            cases first
            exact .cons ⟨name, aliased, column, rfl, isColumn, rfl⟩ later
          · cases first

/-- An accepted list reports as many columns as it stands for, of their types. -/
theorem selectColumns_names
    (accepted : selectColumns table elements = .ok selected)
    (plain : SelectElement.star ∈ elements ∨ AliasesAreNames elements) :
    selectedNames table elements = selected.map Prod.fst ∧
      ∀ entry ∈ selected,
        ∃ column ∈ table.columns,
          column.name = entry.1 ∧ column.colType = entry.2 := by
  by_cases star : SelectElement.star ∈ elements
  · obtain ⟨_, _, same⟩ := Fallible.map_eq_ok.mp accepted
    rw [if_pos star] at same
    subst same
    refine ⟨?_, ?_⟩
    · rw [selectedNames, if_pos star, List.map_map]
      rfl
    · intro entry member
      obtain ⟨column, isColumn, rfl⟩ := List.mem_map.mp member
      exact ⟨column, isColumn, rfl, rfl⟩
  · have aliases := plain.resolve_left star
    have reports := selectColumns_reports accepted star
    rw [selectedNames, if_neg star]
    clear accepted star plain
    induction reports with
    | nil =>
        simp
    | @cons element entry elements selected first _ inductionHypothesis =>
        obtain ⟨name, aliased, column, rfl, isColumn, rfl⟩ := first
        have ownName : normId (aliased.getD name) = normId name := by
          cases aliased with
          | none =>
              rfl
          | some other =>
              exact aliases name other List.mem_cons_self
        obtain ⟨names, columns⟩ :=
          inductionHypothesis fun other otherAlias member =>
            aliases other otherAlias (by simp [member])
        have found := List.find?_some isColumn
        refine ⟨?_, ?_⟩
        · rw [List.filterMap_cons_some (by rfl), names, List.map_cons, ownName]
        · intro entry member
          rcases List.mem_cons.mp member with rfl | later
          · refine ⟨column, List.mem_of_find?_eq_some isColumn, ?_, rfl⟩
            rw [ownName]
            simpa using found
          · exact columns entry later

/-- Equal images of reported and mentioned names agree at each alias. -/
theorem image_alias_eq
    {reported mentioned : String → Value}
    (reports : List.Forall₂ (Reports table) elements selected)
    (same :
      (selected.map Prod.fst).map reported =
        (elements.filterMap SelectElement.columnName?).map mentioned)
    {name aliased : Identifier}
    (isElement : SelectElement.column name (some aliased) ∈ elements) :
    normId aliased ∈ selected.map Prod.fst ∧
      reported (normId aliased) = mentioned (normId name) := by
  induction reports with
  | nil =>
      cases isElement
  | @cons element entry elements selected first _ inductionHypothesis =>
      obtain ⟨first, firstAlias, column, rfl, isColumn, rfl⟩ := first
      rw [List.filterMap_cons_some (by rfl), List.map_cons, List.map_cons,
        List.map_cons, List.cons.injEq] at same
      obtain ⟨sameFirst, sameRest⟩ := same
      rcases List.mem_cons.mp isElement with isFirst | later
      · cases isFirst
        exact ⟨List.mem_cons_self, sameFirst⟩
      · obtain ⟨reportedLater, agree⟩ := inductionHypothesis sameRest later
        exact ⟨List.mem_cons_of_mem _ reportedLater, agree⟩

/-- A mentioned column is a column of the table. -/
theorem exists_mentioned
    (reports : List.Forall₂ (Reports table) elements selected)
    {name : Identifier}
    {aliased : Option Identifier}
    (isElement : SelectElement.column name aliased ∈ elements) :
    ∃ column ∈ table.columns, column.name = normId name := by
  induction reports with
  | nil =>
      cases isElement
  | cons first _ inductionHypothesis =>
      rcases List.mem_cons.mp isElement with rfl | later
      · obtain ⟨_, _, column, same, isColumn, _⟩ := first
        cases same
        have named := List.find?_some isColumn
        exact ⟨column, List.mem_of_find?_eq_some isColumn, by simpa using named⟩
      · exact inductionHypothesis later

end SelectLists

/-! ## Returned columns -/

section Statements

variable {shards : Nat}

/-- Each output row is the named columns of a stored row, one per reported type. -/
def Response.ReturnsColumns
    (store : Storage shards)
    (keyspace : String)
    (table : TableDef)
    (names : List String) :
    Response →
    Prop
  | .rows _ _ cols outputs sources _ =>
      List.Forall₂
        (fun output source =>
          ∃ row : TableRow table,
            store.Stores keyspace row ∧
              row.key keyspace = source ∧
              output = names.map row.value ∧
              List.Forall₂
                (fun value col => value = .null ∨ value.WellTyped col.2)
                output cols)
        outputs sources
  | _ =>
      False

end Statements

/--
Every SELECT with this select list on rows of the table returns the columns
that the list stands for, whatever its filters, limit and paging.
-/
def TableDef.ReturnsSelected
    (table : TableDef)
    (elements : List SelectElement) :
    Prop :=
  ∀ (shards : Nat) [NeZero shards]
    (json : CatalogJson)
    (hexDecode : HexDecode)
    (store middle : Storage shards)
    (sessionKs : Option String)
    (sel : Select)
    (binds rest : Binds)
    (keyspace : String)
    (filters : List Filter)
    (pageSize : Option Int32)
    (pagingState : Option Bytes),
    sel.columns = elements →
    (resolveTable json sessionKs sel.tableName).run answer store =
        (.ok (keyspace, table), middle) →
    parseFilters hexDecode table sel.whereClause binds = .ok (filters, rest) →
    (∀ keyParts, pointKey table filters = some keyParts → PartsFit keyParts) →
    middle.HoldsRows keyspace table →
    ∃ executed final,
      (execSelect json hexDecode sessionKs sel binds pageSize pagingState).run
          answer store =
          (.ok executed, final) ∧
        executed.response.ReturnsColumns middle keyspace table
          (selectedNames table elements)

/-- The selected values of a row are the values of the selected names. -/
theorem project_values
    {table : TableDef}
    {selected : List (String × ColumnType)}
    {filters : List Filter}
    {projection : Projection}
    (built : Projection.build table selected filters = some projection)
    (row : TableRow table) :
    projection.project row.values = (selected.map Prod.fst).map row.value := by
  obtain ⟨selectedIdxs, _, _, _, foundSelected, _, _, _, rfl⟩ :=
    Projection.build_eq_some_iff.mp built
  have found := Fallible.mapM_eq_some.mp foundSelected
  unfold Projection.project
  clear foundSelected built
  induction found with
  | nil =>
      rfl
  | cons first _ inductionHypothesis =>
      obtain ⟨column, here, named⟩ := TableDef.getElem?_of_columnIndex first
      rw [List.map_cons, List.map_cons, List.map_cons, row.getD_values here, named,
        inductionHypothesis]

/-- A projection is built from names of columns only. -/
theorem built_selected
    {table : TableDef}
    {selected : List (String × ColumnType)}
    {filters : List Filter}
    {projection : Projection}
    (built : Projection.build table selected filters = some projection) :
    ∀ entry ∈ selected, entry.1 ∈ table.columnNames := by
  obtain ⟨selectedIdxs, _, _, _, foundSelected, _, _, _, _⟩ :=
    Projection.build_eq_some_iff.mp built
  have found := Fallible.mapM_eq_some.mp foundSelected
  intro entry member
  obtain ⟨position, inside, rfl⟩ := List.mem_iff_getElem.mp member
  have listed : position < selectedIdxs.length := by
    rw [← found.length_eq]
    exact inside
  refine TableDef.isSome_columnIndex.mp ?_
  exact Option.isSome_iff_exists.mpr ⟨_, found.get inside listed⟩

/-- Where aliases are names, a SELECT on rows returns the columns of its list. -/
theorem returnsSelected_of_plain
    {table : TableDef}
    (wellFormed : table.WellFormed)
    (columnsFit : table.columns.length ≤ 2 ^ 16)
    {elements : List SelectElement}
    {selected : List (String × ColumnType)}
    (accepted : selectColumns table elements = .ok selected)
    (plain : SelectElement.star ∈ elements ∨ AliasesAreNames elements) :
    table.ReturnsSelected elements := by
  intro shards _ json hexDecode store middle sessionKs sel binds rest keyspace
    filters pageSize pagingState sameList resolved parsed keyFits holds
  subst sameList
  obtain ⟨names, columns⟩ := selectColumns_names accepted plain
  have selectedNamed : ∀ entry ∈ selected, entry.1 ∈ table.columnNames := by
    intro entry member
    obtain ⟨column, isColumn, named, _⟩ := columns entry member
    rw [← named]
    exact List.mem_map_of_mem isColumn
  obtain ⟨projection, built⟩ :=
    Projection.exists_build wellFormed.keysNamed (parseFilters_named parsed)
      selectedNamed
  obtain ⟨ofTable, resolves⟩ := Projection.resolves_of_build built
  subst ofTable
  obtain ⟨rows, sources, next, final, ran, readFrom⟩ :=
    selectRows_readFrom wellFormed columnsFit resolves holds keyFits pageSize
      sel.limit pagingState
  have selects :
      (internally (selectRows projection keyspace filters pageSize sel.limit
          pagingState)).run answer middle =
        (.ok (rows, sources, next), final) :=
    (Program.run_mapFailure_eq_ok answer).mpr ran
  refine ⟨⟨.rows keyspace projection.table.name selected rows sources next, [],
    rest⟩, final, ?_, ?_⟩
  · rw [execSelect_run resolved, selectFrom, accepted, parsed]
    simp only [Program.run_bind, Program.run_ofExcept, built]
    rw [selects]
    rfl
  · refine readFrom.imp ?_
    rintro output source ⟨row, stores, sameKey, rfl⟩
    rw [project_values built row]
    refine ⟨row, stores, sameKey, by rw [names], ?_⟩
    rw [List.map_map, List.forall₂_map_left_iff]
    refine List.forall₂_same.mpr fun entry member => ?_
    obtain ⟨column, isColumn, named, ofType⟩ := columns entry member
    rw [Function.comp_apply, ← named, ← ofType]
    exact row.value_typed wellFormed isColumn

/-! ## A row that tells columns apart -/

/-- Two values of each type, both with few bytes. -/
def ColumnType.sample : ColumnType → Bool → Value
  | .int, marked =>
      .int (if marked then 1 else 0)
  | .bigInt, marked =>
      .bigInt (if marked then 1 else 0)
  | .smallInt, marked =>
      .smallInt (if marked then 1 else 0)
  | .tinyInt, marked =>
      .tinyInt (if marked then 1 else 0)
  | .float, marked =>
      .float (if marked then 1 else 0)
  | .double, marked =>
      .double (if marked then 1 else 0)
  | .boolean, marked =>
      .boolean marked
  | .text, marked =>
      .text (if marked then "a" else "")
  | .blob, marked =>
      .blob (if marked then [1] else [])
  | .timestamp, marked =>
      .timestamp (if marked then 1 else 0)
  | .uuid, marked =>
      .uuid (List.Vector.replicate 16 (if marked then 1 else 0))
  | .inet, marked =>
      .inet (.v4 (List.Vector.replicate 4 (if marked then 1 else 0)))
  | .set element, marked =>
      .set (if marked then [element.sample false] else [])
  | .list element, marked =>
      .list (if marked then [element.sample false] else [])
  | .map key value, marked =>
      .map (if marked then [(key.sample false, value.sample false)] else [])

namespace ColumnType

/-- Samples are values of their type. -/
theorem sample_wellTyped (columnType : ColumnType) (marked : Bool) :
    (columnType.sample marked).WellTyped columnType := by
  induction columnType generalizing marked with
  | set element inductionHypothesis =>
      cases marked <;> simp [sample, Value.WellTyped, inductionHypothesis]
  | list element inductionHypothesis =>
      cases marked <;> simp [sample, Value.WellTyped, inductionHypothesis]
  | map key value keyHypothesis valueHypothesis =>
      cases marked <;>
        simp [sample, Value.WellTyped, keyHypothesis, valueHypothesis]
  | _ =>
      trivial

/-- Unmarked samples take at most sixteen bytes. -/
theorem length_sample_false (columnType : ColumnType) :
    (columnType.sample false).rawBytes.length ≤ 16 := by
  cases columnType <;> simp [sample, Value.rawBytes, utf8]

/-- Samples take few bytes. -/
theorem length_sample (columnType : ColumnType) (marked : Bool) :
    (columnType.sample marked).rawBytes.length ≤ 44 := by
  cases marked with
  | false =>
      exact (length_sample_false columnType).trans (by decide)
  | true =>
      cases columnType with
      | set element =>
          have short := length_sample_false element
          have typed := sample_wellTyped element false
          have wire := Value.length_toWire typed.isNull_eq_false
          simp [sample, Value.rawBytes]
          omega
      | list element =>
          have short := length_sample_false element
          have typed := sample_wellTyped element false
          have wire := Value.length_toWire typed.isNull_eq_false
          simp [sample, Value.rawBytes]
          omega
      | map key value =>
          have shortKey := length_sample_false key
          have shortValue := length_sample_false value
          have wireKey :=
            Value.length_toWire (sample_wellTyped key false).isNull_eq_false
          have wireValue :=
            Value.length_toWire (sample_wellTyped value false).isNull_eq_false
          simp [sample, Value.rawBytes]
          omega
      | _ =>
          decide

/-- Marked and unmarked samples differ, whatever their types. -/
theorem sample_ne (first second : ColumnType) :
    first.sample true ≠ second.sample false := by
  cases first <;> cases second <;> simp [sample]
  all_goals decide

end ColumnType

/-- The sample of a column, marked for one name. -/
def ColumnDef.sample (marked : String) (column : ColumnDef) : Value :=
  column.colType.sample (column.name == marked)

/-- The row of samples in which one column is marked. -/
def markedRow
    {table : TableDef}
    (wellFormed : table.WellFormed)
    (marked : String) :
    TableRow table where
  keyValues :=
    table.keyNames.map fun name =>
      (table.column name).elim .null (ColumnDef.sample marked)
  valueOf index :=
    table.columns[index]?.elim .null (ColumnDef.sample marked)
  keysHeld := by
    rw [List.forall₂_map_right_iff]
    refine List.forall₂_same.mpr fun name isKey => ?_
    obtain ⟨column, member, rfl⟩ :=
      List.mem_map.mp (wellFormed.keysNamed name isKey)
    rw [wellFormed.column_name member]
    refine ⟨column, member, rfl, column.colType.sample_wellTyped _, ?_⟩
    exact (column.colType.length_sample _).trans (by decide)
  held := by
    intro index column _ here
    dsimp only
    rw [here]
    refine .inr ⟨column.colType.sample_wellTyped _, ?_⟩
    exact (column.colType.length_sample _).trans_lt (by decide)

/-- What is listed for a name among names with their images. -/
theorem lookup_zip_map
    {names : List String}
    {image : String → Value}
    {name : String} :
    (names.zip (names.map image)).lookup name =
      if name ∈ names then some (image name) else none := by
  induction names with
  | nil =>
      rfl
  | cons first rest inductionHypothesis =>
      rw [List.map_cons, List.zip_cons_cons, List.lookup_cons,
        inductionHypothesis]
      by_cases same : name = first
      · simp [same]
      · rw [beq_false_of_ne same]
        simp [same]

/-- Each column of the row of samples holds its sample. -/
theorem markedRow_value
    {table : TableDef}
    (wellFormed : table.WellFormed)
    (marked : String)
    {column : ColumnDef}
    (member : column ∈ table.columns) :
    (markedRow wellFormed marked).value column.name = column.sample marked := by
  obtain ⟨index, here⟩ := List.mem_iff_getElem?.mp member
  rw [TableRow.value, wellFormed.columnIndex_name here]
  simp only [markedRow, lookup_zip_map, wellFormed.column_name member, here,
    Option.elim_some]
  split <;> rfl

/-- The marked column differs from every other one. -/
theorem markedRow_value_ne
    {table : TableDef}
    (wellFormed : table.WellFormed)
    {column other : ColumnDef}
    (member : column ∈ table.columns)
    (isOther : other ∈ table.columns)
    (different : other.name ≠ column.name) :
    (markedRow wellFormed column.name).value other.name ≠
      (markedRow wellFormed column.name).value column.name := by
  have marked : (column.name == column.name) = true :=
    beq_self_eq_true _
  have unmarked : (other.name == column.name) = false :=
    beq_false_of_ne different
  rw [markedRow_value wellFormed _ member, markedRow_value wellFormed _ isOther,
    ColumnDef.sample, ColumnDef.sample, marked, unmarked]
  exact (ColumnType.sample_ne _ _).symm

/-! ## A store of one row -/

section OneRow

variable {table : TableDef} (row : TableRow table)

/-- The one-engine store of one row. -/
def storeOf : Storage 1 :=
  storeHolding table [(row.keyParts, row.bytes)]

/-- The only entry of the store is the row. -/
theorem storeOf_db (engine : Fin 1) (key bytes : Bytes) :
    ((storeOf row).engines engine).db[key]? = some bytes ↔
      key = row.key table.keyspace ∧ bytes = row.bytes := by
  have shape :
      ((storeOf row).engines engine).db =
        (∅ : ByteMap Bytes).insert (row.key table.keyspace) row.bytes :=
    rfl
  rw [shape, ByteMap.getElem?_insert_bytes]
  by_cases same : row.key table.keyspace = key
  · simp [same, eq_comm]
  · have other : ¬ key = row.key table.keyspace := fun reversed => same reversed.symm
    simp [same, other]

/-- The store holds rows of the table only. -/
theorem storeOf_holdsRows : (storeOf row).HoldsRows table.keyspace table := by
  refine ⟨?_, ?_⟩
  · intro engine key bytes _ here
    obtain ⟨rfl, rfl⟩ := (storeOf_db row engine key bytes).mp here
    exact ⟨row, rfl, rfl⟩
  · intro key bytes _ here
    cases here

/-- Every row that the store holds has the same columns. -/
theorem storeOf_values
    (wellFormed : table.WellFormed)
    (columnsFit : table.columns.length ≤ 2 ^ 16)
    {other : TableRow table}
    (stores : (storeOf row).Stores table.keyspace other) :
    other.values = row.values := by
  obtain ⟨engine, here⟩ := stores.resolve_right fun cached => by cases cached
  obtain ⟨sameKey, sameBytes⟩ := (storeOf_db row engine _ _).mp here
  have sameParts : other.keyParts = row.keyParts :=
    encodeKey_injective other.partsFit row.partsFit
      (List.append_cancel_left sameKey)
  exact TableRow.values_unique wellFormed columnsFit sameParts sameBytes

/-- A scan under a prefix of the row's key visits the row and nothing else. -/
theorem storeOf_scanStem
    {engine : Fin 1}
    {leading : Bytes}
    (below : leading <+: row.key table.keyspace) :
    ((storeOf row).engines engine).db.scanStem leading =
      [(row.key table.keyspace, row.bytes)] := by
  have distinct :
      (((storeOf row).engines engine).db.scanStem leading).Nodup :=
    (ByteMap.nodup_keys_scanStem _ _).of_map
  refine List.perm_singleton.mp
    ((List.perm_ext_iff_of_nodup distinct (List.nodup_singleton _)).mpr ?_)
  rintro ⟨key, bytes⟩
  rw [ByteMap.mem_scanStem, storeOf_db, List.mem_singleton, Prod.mk.injEq]
  constructor
  · exact And.right
  · rintro ⟨rfl, rfl⟩
    exact ⟨below, rfl, rfl⟩

/-- A SELECT of every row of the store. -/
def selectAll (table : TableDef) (elements : List SelectElement) : Select where
  tableName := ⟨some (.quoted table.keyspace), .quoted table.name⟩
  columns := elements
  whereClause := []
  limit := none

/-- The store knows its table. -/
theorem resolveTable_storeOf (elements : List SelectElement) :
    (resolveTable cachedJson none (selectAll table elements).tableName).run answer
        (storeOf row) =
      (.ok (table.keyspace, table), storeOf row) := by
  have known : (storeOf row).tables (table.keyspace, table.name) = some table := by
    simp [storeOf, storeHolding, storeWith]
  exact resolveTable_run_cached rfl known

/-- Only a key without parts is fixed without filters. -/
theorem pointKey_nil
    {keyParts : List Bytes}
    (isPoint : pointKey table [] = some keyParts) :
    table.keyNames = [] ∧ keyParts = [] := by
  unfold pointKey at isPoint
  cases names : table.keyNames with
  | nil =>
      rw [names] at isPoint
      cases isPoint
      exact ⟨rfl, rfl⟩
  | cons name rest =>
      rw [names, List.mapM_cons] at isPoint
      cases isPoint

/-- Without filters every plan streams the row. -/
theorem streamPlan_storeOf
    {projection : Projection}
    (wellFormed : projection.table.WellFormed)
    (columnsFit : projection.table.columns.length ≤ 2 ^ 16)
    (resolves : projection.Resolves)
    (noFilters : projection.eqFilters = [] ∧ projection.inFilters = [])
    (row : TableRow projection.table) :
    streamPlan (storeOf row) projection projection.table.keyspace [] =
      ([(projection.project row.values, row.key projection.table.keyspace)],
        none) := by
  have accepted : projection.accepts row.values = true := by
    simp [Projection.accepts, noFilters.1, noFilters.2]
  unfold streamPlan
  cases plan : pointKey projection.table [] with
  | some keyParts =>
      have noKey := pointKey_nil plan
      have rowParts : row.keyParts = keyParts := by
        have length := row.keysHeld.length_eq
        rw [noKey.1] at length
        rw [noKey.2, TableRow.keyParts, List.map_eq_nil_iff]
        exact List.length_eq_zero_iff.mp length.symm
      have missed :
          shouldCache projection.table.keyspace = true →
            ((storeOf row).rowCache.bind fun cache =>
              cache[rowKey projection.table.keyspace projection.table.name
                keyParts]?) = none :=
        fun _ => rfl
      have looked := getRow_run_miss missed
      have here :=
        (storeOf_db row
          (dataEngine projection.table.keyspace projection.table.name
            (firstPart keyParts))
          (rowKey projection.table.keyspace projection.table.name keyParts)
          row.bytes).mpr ⟨by rw [TableRow.key, rowParts], rfl⟩
      dsimp only
      rw [looked, here]
      simp only [Except.toOption, Option.join_some, pointRows]
      rw [← rowParts, projectPoint_row wellFormed columnsFit resolves, accepted]
      simp [TableRow.key]
  | none =>
      have entries :
          planEntries (storeOf row) projection.table projection.table.keyspace [] =
            [(row.key projection.table.keyspace, row.bytes)] := by
        unfold planEntries
        split
        · rename_i restricted
          have noPartition : projection.table.partitionKeys = [] := by
            cases names : projection.table.partitionKeys with
            | nil =>
                rfl
            | cons name rest =>
                rw [names] at restricted
                cases restricted
          rw [noPartition]
          simp only [listedPartitions, List.foldl_nil, List.flatMap_singleton,
            partitionEntries]
          refine storeOf_scanStem row ?_
          simp [TableRow.key, rowKey, encodeKey]
        · have scanned :
              ∀ engine,
                ((storeOf row).engines engine).db.scanStem
                    (dataPrefix projection.table.keyspace projection.table.name) =
                  [(row.key projection.table.keyspace, row.bytes)] :=
            fun engine =>
              storeOf_scanStem row (List.prefix_append _ _)
          simp [tableEntries, scanned, List.finRange_succ]
      have entry :=
        entryRow_row wellFormed columnsFit resolves projection.table.keyspace row
      simp [entries, emitted, entry, accepted]

/-- What a SELECT of every row of the store returns. -/
theorem execSelect_storeOf
    (wellFormed : table.WellFormed)
    (columnsFit : table.columns.length ≤ 2 ^ 16)
    {elements : List SelectElement}
    {selected : List (String × ColumnType)}
    (accepted : selectColumns table elements = .ok selected) :
    ((execSelect cachedJson (fun _ => none) none (selectAll table elements) .none
        none none).run answer (storeOf row)).1 =
      match Projection.build table selected [] with
      | none =>
          .error .panic
      | some projection =>
          .ok ⟨.rows table.keyspace table.name selected
            [projection.project row.values] [row.key table.keyspace] none, [],
            .none⟩ := by
  have resolved := resolveTable_storeOf row elements
  cases built : Projection.build table selected [] with
  | none =>
      rw [execSelect_run resolved, selectFrom]
      simp only [selectAll, accepted, parseFilters, Program.run_bind,
        Program.run_ofExcept, built]
      rfl
  | some projection =>
      obtain ⟨ofTable, resolves⟩ := Projection.resolves_of_build built
      obtain ⟨_, _, _, _, _, noEq, noIn, _, shape⟩ :=
        Projection.build_eq_some_iff.mp built
      cases noEq
      cases noIn
      subst ofTable
      have planned :
          PlannedSelect cachedJson (fun _ => none) (storeOf row) none
            (selectAll projection.table elements) .none (storeOf row)
            projection.table.keyspace selected [] .none projection :=
        ⟨resolved, accepted, rfl, built⟩
      obtain ⟨final, ran⟩ := planned.execSelect_run
      have streamed :=
        streamPlan_storeOf wellFormed columnsFit resolves
          (by rw [shape]; exact ⟨rfl, rfl⟩) row
      have cap : 0 < pageLimit none (selectAll projection.table elements).limit :=
        Nat.succ_pos _
      rw [ran, planRows_of_pos cap, streamed]
      rfl

end OneRow

/--
A SELECT returns the columns that its list stands for, on every table of rows,
exactly when the list is a star or every alias is its column's own name.
-/
theorem returns_selected_iff
    {table : TableDef}
    (wellFormed : table.WellFormed)
    (columnsFit : table.columns.length ≤ 2 ^ 16)
    {elements : List SelectElement}
    {selected : List (String × ColumnType)}
    (accepted : selectColumns table elements = .ok selected) :
    table.ReturnsSelected elements ↔
      SelectElement.star ∈ elements ∨ AliasesAreNames elements := by
  refine ⟨?_, returnsSelected_of_plain wellFormed columnsFit accepted⟩
  intro returns
  by_contra notPlain
  obtain ⟨noStar, renamed⟩ := not_or.mp notPlain
  simp only [AliasesAreNames, not_forall] at renamed
  obtain ⟨name, aliased, isElement, different⟩ := renamed
  have reports := selectColumns_reports accepted noStar
  obtain ⟨column, member, named⟩ := exists_mentioned reports isElement
  have resolved :=
    resolveTable_storeOf (markedRow wellFormed column.name) elements
  have keyFits :
      ∀ keyParts, pointKey table [] = some keyParts → PartsFit keyParts := by
    intro keyParts isPoint
    rw [(pointKey_nil isPoint).2]
    simp [PartsFit]
  obtain ⟨executed, final, ran, returned⟩ :=
    returns 1 cachedJson (fun _ => none) _ _ none (selectAll table elements) .none
      .none table.keyspace [] none none rfl resolved rfl keyFits
      (storeOf_holdsRows _)
  have outcome :=
    execSelect_storeOf (markedRow wellFormed column.name) wellFormed columnsFit
      accepted
  rw [ran] at outcome
  cases built : Projection.build table selected [] with
  | none =>
      -- the alias is no column name
      rw [built] at outcome
      cases outcome
  | some projection =>
      -- the alias is the name of another column, which the row tells apart
      rw [built] at outcome
      cases outcome
      obtain ⟨found, stores, _, sameValues, _⟩ := (List.forall₂_cons.mp returned).1
      rw [project_values built, selectedNames, if_neg noStar] at sameValues
      obtain ⟨reported, sameValue⟩ := image_alias_eq reports sameValues isElement
      obtain ⟨entry, isEntry, sameName⟩ := List.mem_map.mp reported
      obtain ⟨other, isOther, otherNamed⟩ :=
        List.mem_map.mp (built_selected built entry isEntry)
      have ownValue :=
        TableRow.value_eq_of_values (storeOf_values _ wellFormed columnsFit stores)
          member
      rw [← sameName, ← otherNamed, ← named, ownValue] at sameValue
      refine markedRow_value_ne wellFormed member isOther ?_ sameValue
      rw [otherNamed, sameName, named]
      exact different

/-- `SELECT v AS name FROM bench.kv`. -/
def kvSelectAs (name : String) : Select where
  tableName := kvName
  columns := [.column (.unquoted "v") (some (.unquoted name))]
  whereClause := []
  limit := none

/--
An alias that is no column name panics; one that is the key's name returns the
key under the type of the selected column.
-/
theorem alias_is_resolved_as_column :
    kvTable.WellFormed ∧
      selectColumns kvTable (kvSelectAs "zz").columns = .ok [("zz", .text)] ∧
      hasPanicked
          ((execSelect cachedJson (fun _ => none) none (kvSelectAs "zz") .none none
            none).run answer kvPair).1 =
        true ∧
      (((execSelect cachedJson (fun _ => none) none (kvSelectAs "k") .none none
            none).run answer kvPair).1.toOption.map
          fun executed => executed.response.outputs) =
        some [[.int 1], [.int 2]] := by
  decide +kernel

/-- `SELECT v AS v` returns the selected column. -/
theorem returns_selected_iff_kv :
    kvTable.ReturnsSelected (kvSelectAs "v").columns := by
  have wellFormed : kvTable.WellFormed := by
    decide +kernel
  have accepted :
      selectColumns kvTable (kvSelectAs "v").columns = .ok [("v", .text)] := by
    decide +kernel
  refine (returns_selected_iff wellFormed (by decide) accepted).mpr (.inr ?_)
  intro name aliased isElement
  cases List.mem_singleton.mp isElement
  rfl

end RhydaDB
