import RhydaDB.StatementVerdicts
import RhydaDB.WhereMeaning

namespace RhydaDB

open ByteStrings AtomicPrograms Storage

/-!
# Tables

What the statements of a session are about: for each table the values of its
columns, by the values of its key columns.  A statement that leaves the catalog
alone comes down to one command on these tables.
-/

/-! ## Tables and commands -/

/-- The values of a row, by column name. -/
abbrev RowValues := String → Value

/-- The rows of every table, by keyspace, table and the values of the key columns. -/
abbrev Tables := String → String → List Value → Option RowValues

/-- What a statement does to the tables. -/
inductive TableCommand where
  | nothing
  | put (keyspace table : String) (key : List Value) (row : RowValues)
  /-- Assign values over the row under a key, which stands in these columns. -/
  | merge
      (keyspace table : String)
      (keyNames : List String)
      (key : List Value)
      (assigned : List (String × Value))
  | remove (keyspace table : String) (key : List Value)
  | clear (keyspace table : String)

/-- The value that stands last beside a name. -/
def lastNamed (pairs : List (String × Value)) (name : String) : Option Value :=
  pairs.reverse.lookup name

/-- A row under a key after assigning values; columns that have none are null. -/
def mergedRow
    (keyNames : List String)
    (key : List Value)
    (assigned : List (String × Value))
    (earlier : Option RowValues) :
    RowValues :=
  fun name =>
    ((keyNames.zip key).lookup name).getD
      ((lastNamed assigned name).getD (earlier.elim .null fun row => row name))

namespace Tables

open Classical in
/-- Replace what stands under a key. -/
noncomputable def set
    (tables : Tables)
    (keyspace table : String)
    (key : List Value)
    (row : Option RowValues) :
    Tables :=
  fun otherKeyspace otherTable otherKey =>
    if otherKeyspace = keyspace ∧ otherTable = table ∧ otherKey = key then
      row
    else
      tables otherKeyspace otherTable otherKey

open Classical in
/-- Remove all rows of a table. -/
noncomputable def clear (tables : Tables) (keyspace table : String) : Tables :=
  fun otherKeyspace otherTable key =>
    if otherKeyspace = keyspace ∧ otherTable = table then
      none
    else
      tables otherKeyspace otherTable key

end Tables

/-- The tables after a command. -/
noncomputable def TableCommand.apply (tables : Tables) : TableCommand → Tables
  | .nothing =>
      tables
  | .put keyspace table key row =>
      tables.set keyspace table key (some row)
  | .merge keyspace table keyNames key assigned =>
      tables.set keyspace table key
        (some (mergedRow keyNames key assigned (tables keyspace table key)))
  | .remove keyspace table key =>
      tables.set keyspace table key none
  | .clear keyspace table =>
      tables.clear keyspace table

/-! ## The commands of statements -/

section Commands

variable
  (catalog : Catalog)
  (hexDecode : HexDecode)
  (sessionKs : Option String)
  (binds : Binds)

/-- The values an INSERT supplies, in order, each with the name of its column. -/
def suppliedValues
    (table : TableDef) :
    List (Identifier × Operand) →
    Binds →
    List (String × Value)
  | [], _ =>
      []
  | (identifier, operand) :: rest, binds =>
      match
        (table.resolveIndex identifier).bind fun index =>
          table.columns[index]? with
      | none =>
          []
      | some column =>
          match operandToValue hexDecode operand column binds with
          | .error _ =>
              []
          | .ok (value, binds) =>
              (column.name, value) :: suppliedValues table rest binds

/-- The operands of an INSERT, each with the column it is for. -/
def Insert.supplied (ins : Insert) : List (Identifier × Operand) :=
  match ins.values with
  | .values operands =>
      ins.columns.zip operands
  | .json _ =>
      []

/-- The row of an INSERT: the last value supplied for a column, or null. -/
def Insert.row (table : TableDef) (ins : Insert) : RowValues :=
  fun name =>
    (lastNamed (suppliedValues hexDecode table ins.supplied binds) name).getD
      .null

/-- An INSERT puts its row. -/
def Insert.command (ins : Insert) : QueryOutcome TableCommand := do
  let (keyspace, table) ← catalog.resolve sessionKs ins.tableName
  checkWritable keyspace
  let _ ← planInsert hexDecode table ins binds
  let row := ins.row hexDecode binds table
  return .put keyspace table.name (table.keyNames.map row) row

/-- The values that the first `=` of each key column fixes. -/
def fixedKey (table : TableDef) (filters : List Filter) : List Value :=
  table.keyNames.filterMap (eqValue filters)

/-- An UPDATE merges its values into the row under its key. -/
def Update.command (upd : Update) : QueryOutcome TableCommand := do
  let (keyspace, table) ← catalog.resolve sessionKs upd.tableName
  checkWritable keyspace
  let (newValues, binds) ← assignedValues hexDecode table upd.assignments binds
  let (filters, _) ← parseFilters hexDecode table upd.whereClause binds
  let _ ← keyPartsFromFilters table filters
  if upd.CountsKeyAsRegular table then
    .error .panic
  else
    return .merge keyspace table.name table.keyNames (fixedKey table filters)
      (upd.assignedNames.zip (newValues.map Prod.snd))

/-- A DELETE removes the row under its key. -/
def Delete.command (del : Delete) : QueryOutcome TableCommand := do
  let (keyspace, table) ← catalog.resolve sessionKs del.tableName
  checkWritable keyspace
  let _ ← planDelete hexDecode table del binds
  let (filters, _) ← parseFilters hexDecode table del.whereClause binds
  return .remove keyspace table.name (fixedKey table filters)

/-- A TRUNCATE removes all rows of its table. -/
def truncateCommand (name : FQName) : QueryOutcome TableCommand := do
  let (keyspace, table) ← catalog.resolve sessionKs name
  checkWritable keyspace
  return .clear keyspace table.name

/-- What a statement does to the tables, if it succeeds. -/
def Statement.command : Statement → QueryOutcome TableCommand
  | .use identifier =>
      (useVerdict catalog identifier).map fun _ => .nothing
  | .insert ins =>
      ins.command catalog hexDecode sessionKs binds
  | .select sel =>
      (sel.verdict catalog hexDecode sessionKs binds).map fun _ => .nothing
  | .delete del =>
      del.command catalog hexDecode sessionKs binds
  | .update upd =>
      upd.command catalog hexDecode sessionKs binds
  | .truncate name =>
      truncateCommand catalog sessionKs name
  | .other shortName =>
      .error (invalidErr s!"Statement not supported: {shortName}")
  | _ =>
      .ok .nothing

end Commands

/-! ## Stored rows as tables -/

/--
The tables that the catalog finds in a row map: a key stands beside the values
of the row that is stored under it.
-/
def Depicts (catalog : Catalog) (rows : RowMap) (tables : Tables) : Prop :=
  ∀ (name : TableName) (table : TableDef),
    catalog.tables name = some table →
    ∀ key values,
      tables name.keyspace name.table key = some values ↔
        ∃ row : TableRow table,
          rows.Stores name.keyspace row ∧
            row.keyValues = key ∧ row.value = values

namespace TableRow

variable {table : TableDef} (wellFormed : table.WellFormed)

include wellFormed

/-- A row has null under a name that is no column's. -/
theorem value_of_unnamed
    (row : TableRow table)
    {name : String}
    (unnamed : name ∉ table.columnNames) :
    row.value name = .null := by
  have noKey : (table.keyNames.zip row.keyValues).lookup name = none := by
    rw [List.lookup_eq_none_iff]
    intro entry member
    have isKey := (List.of_mem_zip member).1
    exact bne_iff_ne.mpr fun same => unnamed (wellFormed.keysNamed _ (same ▸ isKey))
  have noIndex : table.columnIndex name = none := by
    rw [← Option.not_isSome_iff_eq_none, TableDef.isSome_columnIndex]
    exact unnamed
  rw [value, noKey, noIndex]
  rfl

/-- Rows that are stored alike have the same values. -/
theorem value_unique
    (columnsFit : table.columns.length ≤ 2 ^ 16)
    {first second : TableRow table}
    (sameParts : first.keyParts = second.keyParts)
    (sameBytes : first.bytes = second.bytes) :
    first.value = second.value := by
  funext name
  by_cases named : name ∈ table.columnNames
  · obtain ⟨column, member, rfl⟩ := List.mem_map.mp named
    exact value_eq_of_values
      (values_unique wellFormed columnsFit sameParts sameBytes) member
  · rw [value_of_unnamed wellFormed first named,
      value_of_unnamed wellFormed second named]

end TableRow

namespace Depicts

variable
  {catalog : Catalog}
  (sound : catalog.Sound)
  {rows : RowMap}
  {tables : Tables}
  (depicts : Depicts catalog rows tables)
  {name : TableName}
  {table : TableDef}
  (exists_ : catalog.tables name = some table)

include sound depicts exists_

/-- What is written under an address replaces the row under its key. -/
theorem set
    {address : RowAddress}
    (ofName : address.toTableName = name)
    {key : List Value}
    (held : List.Forall₂ table.KeyHolds table.keyNames key)
    (keyParts : key.map Value.rawBytes = address.keyParts)
    {written : Option (TableRow table)}
    (underKey : ∀ row, written = some row → row.keyValues = key) :
    Depicts catalog
      (Function.update rows address (written.map TableRow.bytes))
      (tables.set name.keyspace name.table key (written.map TableRow.value)) := by
  have isTable := sound.named name table exists_
  have wellFormed := sound.wellFormed name table exists_
  have columnsFit := sound.columnsFit name table exists_
  intro other otherTable otherExists otherKey values
  by_cases same : other = name ∧ otherKey = key
  · obtain ⟨rfl, rfl⟩ := same
    cases exists_.symm.trans otherExists
    have replaced :
        tables.set other.keyspace other.table otherKey
            (written.map TableRow.value) other.keyspace other.table otherKey =
          written.map TableRow.value :=
      if_pos ⟨rfl, rfl, rfl⟩
    rw [replaced]
    constructor
    · intro isRow
      obtain ⟨row, isWritten, rfl⟩ := Option.map_eq_some_iff.mp isRow
      have sameKey := underKey row isWritten
      refine ⟨row, ⟨address, by rw [ofName], by rw [ofName, isTable], ?_, ?_⟩,
        sameKey, rfl⟩
      · rw [← keyParts, ← sameKey]
        rfl
      · rw [Function.update_self, isWritten]
        rfl
    · rintro ⟨row, stored, rfl, rfl⟩
      obtain ⟨there, sameName, sameParts, _, here⟩ :=
        stored.exists_address isTable.symm
      have isAddress : there = address :=
        RowAddress.ext_parts (sameName.trans ofName.symm)
          (sameParts.trans keyParts)
      rw [isAddress, Function.update_self] at here
      obtain ⟨kept, isWritten, sameBytes⟩ := Option.map_eq_some_iff.mp here
      rw [isWritten, Option.map_some]
      have keptParts : kept.keyParts = row.keyParts := by
        rw [TableRow.keyParts, TableRow.keyParts, underKey kept isWritten]
      rw [TableRow.value_unique wellFormed columnsFit keptParts sameBytes]
  · have kept :
        tables.set name.keyspace name.table key (written.map TableRow.value)
            other.keyspace other.table otherKey =
          tables other.keyspace other.table otherKey :=
      if_neg fun equal =>
        same ⟨TableName.ext_names equal.1 equal.2.1, equal.2.2⟩
    rw [kept, depicts other otherTable otherExists otherKey values]
    refine exists_congr fun row => and_congr_left fun keyAndValues => ?_
    have rowKey := keyAndValues.1
    refine exists_congr fun there => ?_
    have apart :
        there.keyspace = other.keyspace →
        there.table = otherTable.name →
        there.keyParts = row.keyParts →
        there ≠ address := by
      rintro sameKeyspace sameTable sameParts rfl
      have isName : there.toTableName = other :=
        TableName.ext_names sameKeyspace
          (sameTable.trans (sound.named other otherTable otherExists))
      have sameTables : other = name :=
        isName.symm.trans ofName
      subst sameTables
      cases exists_.symm.trans otherExists
      have sameKey :=
        keyHolds_unique wellFormed row.keysHeld held
          (sameParts.symm.trans keyParts.symm)
      exact same ⟨rfl, rowKey.symm.trans sameKey⟩
    refine and_congr_right fun sameKeyspace => and_congr_right fun sameTable =>
      and_congr_right fun sameParts => ?_
    rw [Function.update_of_ne (apart sameKeyspace sameTable sameParts)]

/-- Removing a table's rows clears it. -/
theorem clear :
    Depicts catalog
      (fun address => if address.toTableName = name then none else rows address)
      (tables.clear name.keyspace name.table) := by
  intro other otherTable otherExists key values
  by_cases same : other = name
  · subst same
    cases exists_.symm.trans otherExists
    have cleared :
        tables.clear other.keyspace other.table other.keyspace other.table key =
          none :=
      if_pos ⟨rfl, rfl⟩
    rw [cleared]
    refine ⟨fun isSome => (Option.some_ne_none _ isSome.symm).elim, ?_⟩
    rintro ⟨row, ⟨there, sameKeyspace, sameTable, _, here⟩, _⟩
    have isName : there.toTableName = other :=
      TableName.ext_names sameKeyspace
        (sameTable.trans (sound.named other table exists_))
    dsimp only at here
    rw [if_pos isName] at here
    cases here
  · have kept :
        tables.clear name.keyspace name.table other.keyspace other.table key =
          tables other.keyspace other.table key :=
      if_neg fun equal => same (TableName.ext_names equal.1 equal.2)
    rw [kept, depicts other otherTable otherExists key values]
    refine exists_congr fun row => and_congr_left fun _ =>
      exists_congr fun there => and_congr_right fun sameKeyspace =>
        and_congr_right fun sameTable => and_congr_right fun _ => ?_
    have isName : there.toTableName = other :=
      TableName.ext_names sameKeyspace
        (sameTable.trans (sound.named other otherTable otherExists))
    dsimp only
    rw [if_neg fun equal => same (isName.symm.trans equal)]

end Depicts

end RhydaDB
