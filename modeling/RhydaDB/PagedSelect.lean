import RhydaDB.WhereMeaning

namespace RhydaDB

open ByteStrings AtomicPrograms Storage

/-!
# Pages

The callback of a scan stops at the row that fills the page, before it would
note the key to go on from.  A response therefore carries no paging state, and a
client that asks for page after page ends after the first one.
-/

/-! ## Scans behind a paging state -/

section Scans

variable
  {shards : Nat} [NeZero shards]
  (store : Storage shards)
  (projection : Projection)
  (keyspace : String)
  {limit : Nat}

end Scans

section Clients

variable
  {shards : Nat} [NeZero shards]
  (json : CatalogJson)
  (hexDecode : HexDecode)
  (sessionKs : Option String)
  (sel : Select)
  (binds : Binds)
  (pageSize : Option Int32)

end Clients

section Statements

variable
  {shards : Nat} [NeZero shards]
  {json : CatalogJson}
  {hexDecode : HexDecode}
  {store middle : Storage shards}
  {sessionKs : Option String}
  {sel : Select}
  {binds rest : Binds}
  {selected : List (String × ColumnType)}
  {filters : List Filter}
  {projection : Projection}

variable
  {name : TableName}
  {rows : RowMap}
  (planned :
    PlannedSelect json hexDecode store sessionKs sel binds middle name.keyspace
      selected filters rest projection)
  (ofTable : name.table = projection.table.name)
  (wellFormed : projection.table.WellFormed)
  (columnsFit : projection.table.columns.length ≤ 2 ^ 16)
  (represents : Represents middle rows)
  (holds : rows.HoldsTable name.keyspace projection.table)
  (isScan : pointKey projection.table filters = none)
  {pageSize : Option Int32}
  (positive : 0 < pageLimit pageSize sel.limit)

include planned ofTable wellFormed columnsFit represents holds isScan positive

omit planned ofTable wellFormed columnsFit represents holds isScan positive

include planned ofTable wellFormed columnsFit represents holds isScan positive

end Statements

end RhydaDB
