import RhydaDB.MirrorPrograms

namespace RhydaDB

open ByteStrings AtomicPrograms FiniteRuns Program Storage

/-!
# The schema mirror and the catalog

The rows `system_schema` should have, read off a catalog, and what the
statements that define and drop keyspaces and tables make of them.
-/

/-! ## Rows by name -/

namespace SchemaRows

/-- Rows whose key parts are names. -/
def ofStrings (row : String → List String → Option Bytes) : SchemaRows :=
  fun table parts => (parts.mapM fromUtf8?).bind (row table)

/-- Bytes that decode to a name are the name's bytes. -/
theorem utf8_of_fromUtf8?
    {bytes : Bytes}
    {text : String}
    (decoded : fromUtf8? bytes = some text) :
    utf8 text = bytes := by
  simp only [fromUtf8?, String.fromUTF8?] at decoded
  split at decoded
  · cases decoded
    rfl
  · cases decoded

/-- Names are decoded part by part. -/
theorem mapM_fromUtf8?
    {parts : List Bytes}
    {names : List String} :
    parts.mapM fromUtf8? = some names ↔ parts = names.map utf8 := by
  induction parts generalizing names with
  | nil =>
      cases names <;> simp
  | cons part rest inductionHypothesis =>
      constructor
      · intro decoded
        simp only [List.mapM_cons, Option.bind_eq_bind, Option.pure_def,
          Option.bind_eq_some_iff] at decoded
        obtain ⟨name, first, others, later, shape⟩ := decoded
        cases shape
        rw [List.map_cons, utf8_of_fromUtf8? first,
          ← inductionHypothesis.mp later]
      · intro shape
        cases names with
        | nil =>
            cases shape
        | cons name names =>
            simp only [List.map_cons, List.cons.injEq] at shape
            obtain ⟨rfl, tail⟩ := shape
            simp [List.mapM_cons, fromUtf8?_utf8, inductionHypothesis.mpr tail]

@[simp] theorem ofStrings_map
    (row : String → List String → Option Bytes)
    (table : String)
    (names : List String) :
    ofStrings row table (names.map utf8) = row table names := by
  rw [ofStrings, mapM_fromUtf8?.mpr rfl]
  rfl

/-- A row of names has names for parts. -/
theorem ofStrings_eq_some_iff
    {row : String → List String → Option Bytes}
    {table : String}
    {parts : List Bytes}
    {value : Bytes} :
    ofStrings row table parts = some value ↔
      ∃ names, parts = names.map utf8 ∧ row table names = some value := by
  simp only [ofStrings, Option.bind_eq_some_iff, mapM_fromUtf8?]

/-- Rows that agree on names agree. -/
theorem ofStrings_congr
    {row : String → List String → Option Bytes}
    {rows : SchemaRows}
    (named :
      ∀ table names,
        rows table (names.map utf8) = row table names)
    (unnamed :
      ∀ table parts,
        (∀ names : List String, parts ≠ names.map utf8) →
        rows table parts = none) :
    rows = ofStrings row := by
  funext table parts
  by_cases isNamed : ∃ names : List String, parts = names.map utf8
  · obtain ⟨names, rfl⟩ := isNamed
    rw [named, ofStrings_map]
  · have noNames : ∀ names : List String, parts ≠ names.map utf8 :=
      fun names same => isNamed ⟨names, same⟩
    rw [unnamed table parts noNames]
    refine (Option.eq_none_iff_forall_ne_some.mpr ?_).symm
    intro value present
    obtain ⟨names, same, _⟩ := ofStrings_eq_some_iff.mp present
    exact noNames names same

/-- Outside names there are no rows. -/
theorem ofStrings_unnamed
    {row : String → List String → Option Bytes}
    {table : String}
    {parts : List Bytes}
    (unnamed : ∀ names : List String, parts ≠ names.map utf8) :
    ofStrings row table parts = none := by
  rw [Option.eq_none_iff_forall_ne_some]
  intro value present
  obtain ⟨names, same, _⟩ := ofStrings_eq_some_iff.mp present
  exact unnamed names same

/-- Setting a named row. -/
theorem ofStrings_set
    (row : String → List String → Option Bytes)
    (table : String)
    (names : List String)
    (value : Option Bytes) :
    (ofStrings row).set table (names.map utf8) value =
      ofStrings fun other others =>
        if other = table ∧ others = names then value else row other others := by
  apply ofStrings_congr
  · intro other others
    simp [SchemaRows.set, (List.map_injective_iff.mpr utf8_injective).eq_iff]
  · intro other parts unnamed
    have different : parts ≠ names.map utf8 := unnamed names
    simp [SchemaRows.set, different, ofStrings_unnamed unnamed]

/-- Removing a partition of named rows. -/
theorem ofStrings_removePartition
    (row : String → List String → Option Bytes)
    (table : String)
    (names : List String) :
    (ofStrings row).removePartition table (names.map utf8) =
      ofStrings fun other others =>
        if other = table ∧ names <+: others then none else row other others := by
  apply ofStrings_congr
  · intro other others
    simp [SchemaRows.removePartition,
      List.prefix_map_iff_of_injective utf8_injective]
  · intro other parts unnamed
    simp [SchemaRows.removePartition, ofStrings_unnamed unnamed]

end SchemaRows

/-! ## The rows of a catalog -/

/-- The stored cells of named columns. -/
def schemaCells (table : TableDef) (cells : List (String × Value)) :
    List (UInt16 × Value) :=
  cells.map fun (name, value) =>
    (UInt16.ofNat ((table.columnIndex name).getD 0), value)

/-- Columns the table has are stored under their indices. -/
theorem mapM_systemSchemaCell
    {table : TableDef}
    {cells : List (String × Value)}
    (found : ∀ cell ∈ cells, (table.columnIndex cell.1).isSome = true) :
    cells.mapM (systemSchemaCell table) = .ok (schemaCells table cells) := by
  induction cells with
  | nil =>
      rfl
  | cons cell rest inductionHypothesis =>
      obtain ⟨index, here⟩ :=
        Option.isSome_iff_exists.mp (found cell (by simp))
      have later :=
        inductionHypothesis fun cell member => found cell (by simp [member])
      obtain ⟨name, value⟩ := cell
      simp only at here
      simp [List.mapM_cons, systemSchemaCell, here, later, schemaCells]
      rfl

/-- The kind, the position and the order of a column. -/
def columnKind (table : TableDef) (column : ColumnDef) : String × Int32 × String :=
  if column.isPartitionKey then
    ("partition_key",
      Int32.ofNat (table.partitionKeys.idxOf column.name), "NONE")
  else if column.isClustering then
    ("clustering",
      Int32.ofNat (table.clusteringKeys.idxOf column.name), "ASC")
  else
    ("regular", -1, "NONE")

/-- A column's role is its kind, or the server panics. -/
theorem columnRole_eq (table : TableDef) (column : ColumnDef) :
    columnRole table column = .ok (columnKind table column) ∨
      columnRole table column = .error .panic := by
  have position :
      ∀ names : List String,
        names.idxOf? column.name = some (names.idxOf column.name) ∨
          names.idxOf? column.name = none := by
    intro names
    cases found : names.idxOf? column.name with
    | none =>
        exact .inr rfl
    | some index =>
        rw [List.idxOf_eq_getD_idxOf?, found]
        exact .inl rfl
  unfold columnRole columnKind
  split
  · rcases position table.partitionKeys with here | nowhere
    · simp [here]
    · simp [nowhere]
  · split
    · rcases position table.clusteringKeys with here | nowhere
      · simp [here]
      · simp [nowhere]
    · simp

/-- The bytes of a keyspace's row. -/
def keyspaceRow (keyspace : KeyspaceDef) : Bytes :=
  encodeRowColumns
    (schemaCells schemaKeyspacesTable (mirroredKeyspaceCells keyspace))

/-- The bytes of a table's row. -/
def tableRow : Bytes :=
  encodeRowColumns (schemaCells schemaTablesTable mirroredTableCells)

/-- The bytes of a column's row. -/
def columnRow (table : TableDef) (column : ColumnDef) : Bytes :=
  encodeRowColumns
    (schemaCells schemaColumnsTable
      (mirroredColumnCells column (columnKind table column).1
        (columnKind table column).2.1 (columnKind table column).2.2))

namespace Catalog

/-- A keyspace outside the system. -/
def userKeyspace (catalog : Catalog) (name : String) : Option KeyspaceDef :=
  if name ∈ systemKeyspaces then
    none
  else
    catalog.keyspaces name

/-- A table outside the system. -/
def userTable (catalog : Catalog) (keyspace table : String) : Option TableDef :=
  if named : BangFree keyspace ∧ BangFree table then
    if keyspace ∈ systemKeyspaces then
      none
    else
      catalog.tables ⟨keyspace, table, named.1, named.2⟩
  else
    none

/-- The rows a catalog should have in the mirror. -/
def schemaRow (catalog : Catalog) (table : String) : List String → Option Bytes
  | [name] =>
      if table = "keyspaces" then
        (catalog.userKeyspace name).map keyspaceRow
      else
        none
  | [keyspace, name] =>
      if table = "tables" then
        (catalog.userTable keyspace name).map fun _ => tableRow
      else
        none
  | [keyspace, name, column] =>
      if table = "columns" then
        (catalog.userTable keyspace name).bind fun definition =>
          (definition.columns.find? fun candidate =>
            candidate.name == column).map (columnRow definition)
      else
        none
  | _ =>
      none

variable {catalog : Catalog}

/-- What a lookup of a user table finds. -/
theorem userTable_name
    (catalog : Catalog)
    {name : TableName}
    (isUser : name.keyspace ∉ systemKeyspaces) :
    catalog.userTable name.keyspace name.table = catalog.tables name := by
  simp [userTable, name.keyspaceFree, name.tableFree, isUser]

/-- A lookup that finds a table has names without `!`. -/
theorem userTable_eq_some
    {keyspace table : String}
    {definition : TableDef}
    (found : catalog.userTable keyspace table = some definition) :
    ∃ name : TableName,
      name.keyspace = keyspace ∧
        name.table = table ∧
        keyspace ∉ systemKeyspaces ∧
        catalog.tables name = some definition := by
  unfold userTable at found
  split at found
  · rename_i named
    split at found
    · cases found
    · rename_i isUser
      exact ⟨⟨keyspace, table, named.1, named.2⟩, rfl, rfl, isUser, found⟩
  · cases found

/-- Defining a keyspace changes no table. -/
@[simp] theorem userTable_putKeyspace
    (catalog : Catalog)
    (name : String)
    (keyspace : KeyspaceDef)
    (tableKeyspace table : String) :
    (catalog.putKeyspace name keyspace).userTable tableKeyspace table =
      catalog.userTable tableKeyspace table :=
  rfl

/-- Defining a user keyspace adds its row. -/
theorem schemaRow_putKeyspace
    (catalog : Catalog)
    {name : String}
    (isUser : name ∉ systemKeyspaces)
    (keyspace : KeyspaceDef) :
    (catalog.putKeyspace name keyspace).schemaRow =
      fun table names =>
        if table = "keyspaces" ∧ names = [name] then
          some (keyspaceRow keyspace)
        else
          catalog.schemaRow table names := by
  funext table names
  rcases names with _ | ⟨first, _ | ⟨second, _ | ⟨third, _ | _⟩⟩⟩
  · simp [schemaRow]
  · by_cases here : first = name
    · subst here
      by_cases inTable : table = "keyspaces"
      · simp [schemaRow, inTable, userKeyspace, isUser, putKeyspace]
      · simp [schemaRow, inTable]
    · simp [schemaRow, here, userKeyspace, putKeyspace]
  · simp [schemaRow]
  · simp [schemaRow]
  · simp [schemaRow]

/-- Defining a table changes lookups of its name only. -/
theorem userTable_putTable
    (catalog : Catalog)
    {name : TableName}
    (isUser : name.keyspace ∉ systemKeyspaces)
    (definition : TableDef)
    (keyspace table : String) :
    (catalog.putTable name definition).userTable keyspace table =
      if keyspace = name.keyspace ∧ table = name.table then
        some definition
      else
        catalog.userTable keyspace table := by
  split
  · rename_i here
    obtain ⟨rfl, rfl⟩ := here
    rw [userTable_name _ isUser]
    simp [putTable]
  · rename_i elsewhere
    unfold userTable
    split
    · rename_i named
      split
      · rfl
      · have different : TableName.mk keyspace table named.1 named.2 ≠ name := by
          rintro rfl
          exact elsewhere ⟨rfl, rfl⟩
        exact Function.update_of_ne different _ _
    · rfl

/-- Forgetting a table changes lookups of its name only. -/
theorem userTable_deleteTable
    (catalog : Catalog)
    (name : TableName)
    (keyspace table : String) :
    (catalog.deleteTable name).userTable keyspace table =
      if keyspace = name.keyspace ∧ table = name.table then
        none
      else
        catalog.userTable keyspace table := by
  unfold userTable
  split
  · rename_i named
    split
    · simp
    · split
      · rename_i here
        have same : TableName.mk keyspace table named.1 named.2 = name :=
          TableName.ext_names here.1 here.2
        simp [deleteTable, same]
      · rename_i elsewhere
        have different : TableName.mk keyspace table named.1 named.2 ≠ name := by
          rintro rfl
          exact elsewhere ⟨rfl, rfl⟩
        exact Function.update_of_ne different _ _
  · simp

/-- Forgetting a keyspace changes lookups of its tables only. -/
theorem userTable_deleteKeyspace
    (catalog : Catalog)
    (name keyspace table : String) :
    (catalog.deleteKeyspace name).userTable keyspace table =
      if keyspace = name then none else catalog.userTable keyspace table := by
  unfold userTable
  split
  · split
    · simp
    · simp [deleteKeyspace, forgetTables, forgetKeyspace]
  · simp

/-- Forgetting a table removes its row and its columns' rows. -/
theorem schemaRow_deleteTable
    (catalog : Catalog)
    (name : TableName) :
    (catalog.deleteTable name).schemaRow =
      fun table names =>
        if table = "columns" ∧ [name.keyspace, name.table] <+: names then
          none
        else if table = "tables" ∧ names = [name.keyspace, name.table] then
          none
        else
          catalog.schemaRow table names := by
  funext table names
  rcases names with _ | ⟨first, _ | ⟨second, _ | ⟨third, _ | _⟩⟩⟩
  · simp [schemaRow]
  · simp [schemaRow]
    rfl
  · by_cases inTable : table = "tables"
    · by_cases here : first = name.keyspace ∧ second = name.table
      · simp [schemaRow, inTable, userTable_deleteTable, here]
      · simp [schemaRow, inTable, userTable_deleteTable, here]
    · simp [schemaRow, inTable]
  · by_cases inTable : table = "columns"
    · by_cases here : first = name.keyspace ∧ second = name.table
      · simp [schemaRow, inTable, userTable_deleteTable, here]
      · have reversed : ¬ (name.keyspace = first ∧ name.table = second) :=
          fun ⟨keyspaces, tables⟩ => here ⟨keyspaces.symm, tables.symm⟩
        simp [schemaRow, inTable, userTable_deleteTable, here, reversed]
    · simp [schemaRow, inTable]
  · simp [schemaRow]

/-- Forgetting a keyspace removes its partitions. -/
theorem schemaRow_deleteKeyspace
    (catalog : Catalog)
    (name : String) :
    (catalog.deleteKeyspace name).schemaRow =
      fun table names =>
        if table = "columns" ∧ [name] <+: names then
          none
        else if table = "tables" ∧ [name] <+: names then
          none
        else if table = "keyspaces" ∧ [name] <+: names then
          none
        else
          catalog.schemaRow table names := by
  funext table names
  rcases names with _ | ⟨first, _ | ⟨second, _ | ⟨third, _ | _⟩⟩⟩
  · simp [schemaRow]
  · by_cases inTable : table = "keyspaces"
    · by_cases here : first = name
      · simp [schemaRow, inTable, here, userKeyspace, deleteKeyspace,
          forgetTables, forgetKeyspace]
      · simp [schemaRow, inTable, here, Ne.symm here, userKeyspace,
          deleteKeyspace, forgetTables, forgetKeyspace]
    · simp [schemaRow, inTable]
  · by_cases inTable : table = "tables"
    · by_cases here : first = name
      · simp [schemaRow, inTable, here, userTable_deleteKeyspace]
      · simp [schemaRow, inTable, here, Ne.symm here,
          userTable_deleteKeyspace]
    · simp [schemaRow, inTable]
  · by_cases inTable : table = "columns"
    · by_cases here : first = name
      · simp [schemaRow, inTable, here, userTable_deleteKeyspace]
      · simp [schemaRow, inTable, here, Ne.symm here,
          userTable_deleteKeyspace]
    · simp [schemaRow, inTable]
  · simp [schemaRow]

/-- The rows after mirroring the listed columns of a table one by one. -/
def mirroredColumns
    (row : String → List String → Option Bytes)
    (definition : TableDef)
    (columns : List ColumnDef) :
    String → List String → Option Bytes :=
  columns.foldl
    (fun row column table names =>
      if table = "columns" ∧
          names = [definition.keyspace, definition.name, column.name] then
        some (columnRow definition column)
      else
        row table names)
    row

/-- Mirroring columns changes no other row. -/
theorem mirroredColumns_other
    (row : String → List String → Option Bytes)
    (definition : TableDef)
    (columns : List ColumnDef)
    {table : String}
    {names : List String}
    (other :
      ¬ (table = "columns" ∧
        ∃ column, names = [definition.keyspace, definition.name, column])) :
    mirroredColumns row definition columns table names = row table names := by
  induction columns generalizing row with
  | nil =>
      rfl
  | cons column rest inductionHypothesis =>
      have elsewhere :
          ¬ (table = "columns" ∧
            names = [definition.keyspace, definition.name, column.name]) :=
        fun ⟨inTable, here⟩ => other ⟨inTable, column.name, here⟩
      refine (inductionHypothesis _).trans ?_
      exact if_neg elsewhere

/-- Each mirrored column has its row. -/
theorem mirroredColumns_column
    (row : String → List String → Option Bytes)
    (definition : TableDef)
    {columns : List ColumnDef}
    (distinct : (columns.map (·.name)).Nodup)
    (column : String) :
    mirroredColumns row definition columns "columns"
        [definition.keyspace, definition.name, column] =
      ((columns.find? fun candidate => candidate.name == column).map
        (columnRow definition)).or
          (row "columns" [definition.keyspace, definition.name, column]) := by
  induction columns generalizing row with
  | nil =>
      simp [mirroredColumns]
  | cons first rest inductionHypothesis =>
      simp only [List.map_cons, List.nodup_cons] at distinct
      refine (inductionHypothesis _ distinct.2).trans ?_
      by_cases here : first.name = column
      · have absent :
            (rest.find? fun candidate => candidate.name == column) = none := by
          rw [List.find?_eq_none]
          intro candidate member same
          refine distinct.1 ?_
          rw [here, ← beq_iff_eq.mp same]
          exact List.mem_map_of_mem member
        simp [absent, here]
      · simp [here, Ne.symm here]

/-- Defining a new user table adds its row and its columns' rows. -/
theorem schemaRow_putTable
    (catalog : Catalog)
    {name : TableName}
    (isUser : name.keyspace ∉ systemKeyspaces)
    (new : catalog.tables name = none)
    {definition : TableDef}
    (sameKeyspace : definition.keyspace = name.keyspace)
    (sameTable : definition.name = name.table)
    (distinct : (definition.columns.map (·.name)).Nodup) :
    (catalog.putTable name definition).schemaRow =
      mirroredColumns
        (fun table names =>
          if table = "tables" ∧ names = [name.keyspace, name.table] then
            some tableRow
          else
            catalog.schemaRow table names)
        definition definition.columns := by
  have absent : catalog.userTable name.keyspace name.table = none := by
    rw [userTable_name _ isUser, new]
  funext table names
  by_cases column :
      table = "columns" ∧
        ∃ column, names = [definition.keyspace, definition.name, column]
  · obtain ⟨rfl, column, rfl⟩ := column
    rw [mirroredColumns_column _ _ distinct]
    simp [schemaRow, userTable_putTable _ isUser, sameKeyspace, sameTable,
      absent]
  · rw [mirroredColumns_other _ _ _ column]
    rcases names with _ | ⟨first, _ | ⟨second, _ | ⟨third, _ | _⟩⟩⟩
    · simp [schemaRow]
    · simp [schemaRow]
      rfl
    · by_cases inTable : table = "tables"
      · by_cases here : first = name.keyspace ∧ second = name.table
        · simp [schemaRow, inTable, userTable_putTable _ isUser, here]
        · simp [schemaRow, inTable, userTable_putTable _ isUser, here]
      · simp [schemaRow, inTable]
    · by_cases inTable : table = "columns"
      · have elsewhere :
            ¬ (first = name.keyspace ∧ second = name.table) := by
          rintro ⟨rfl, rfl⟩
          exact column ⟨inTable, third, by rw [sameKeyspace, sameTable]⟩
        simp [schemaRow, inTable, userTable_putTable _ isUser, elsewhere]
      · simp [schemaRow, inTable]
    · simp [schemaRow]

end Catalog

end RhydaDB
