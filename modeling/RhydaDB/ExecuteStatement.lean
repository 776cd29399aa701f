import RhydaDB.SchemaStatements
import RhydaDB.SelectStatement

namespace RhydaDB

open ByteStrings AtomicPrograms

/-!
# Executing and preparing statements

The two entry points of the query layer: `execute_statement` dispatches a
parsed statement, and `prepared_info` computes the metadata a PREPARE response
announces from the same statement by a traversal of its own.
-/

/-- What a PREPARE response announces. -/
structure PreparedInfo where
  keyspace : String
  table : String
  /-- The column and type of each bind variable. -/
  bindSpecs : List (String × ColumnType)
  pkIndexes : List UInt16
  resultCols : List (String × ColumnType)
  deriving Repr, DecidableEq

/-- The bind variable announced for a column. -/
def columnSpec (table : TableDef) (identifier : Identifier) :
    QueryOutcome (String × ColumnType) :=
  match table.column (normId identifier) with
  | some column =>
      .ok (normId identifier, column.colType)
  | none =>
      .error (invalidErr s!"Undefined column name {normId identifier}")

/-- Whether an operand is a bind marker. -/
def Operand.isParam : Operand → Bool
  | .param _ =>
      true
  | _ =>
      false

/-- How many bind variables a restriction's value announces. -/
def Operand.markers : Operand → Nat
  | .param _ =>
      1
  | .tuple items =>
      items.countP Operand.isParam
  | _ =>
      0

/-- The bind variables announced for one restriction. -/
def relationBinds (table : TableDef) (relation : RelationElement) :
    QueryOutcome (List (String × ColumnType)) :=
  match relation.obj with
  | .column identifier =>
      (columnSpec table identifier).map
        (List.replicate relation.value.markers)
  | _ =>
      .error (invalidErr "Only column restrictions are supported in WHERE")

/-- The bind variables announced for a WHERE clause. -/
def collectWhereBinds (table : TableDef) :
    List RelationElement → QueryOutcome (List (String × ColumnType))
  | [] =>
      .ok []
  | relation :: rest => do
      let first ← relationBinds table relation
      let others ← collectWhereBinds table rest
      return first ++ others

/-- The positions of the primary key columns in an INSERT's column list. -/
def primaryKeyPositions (table : TableDef) (columns : List Identifier) : List UInt16 :=
  (table.keyNames.filterMap fun name =>
    columns.findIdx? fun identifier => normId identifier == name).map UInt16.ofNat

section Programs

variable
  {shards : Nat} [NeZero shards]
  (json : CatalogJson)
  (hexDecode : HexDecode)

/--
The metadata of a statement to prepare.  The statements that cannot be prepared
are reported with the short names of the parser.
-/
def preparedInfo (shortNames : Statement → String) (sessionKs : Option String) :
    Statement → StorageProgram shards QueryFault PreparedInfo
  | .insert ins => do
      let (keyspace, table) ← resolveTable json sessionKs ins.tableName
      let bindSpecs ← .ofExcept (ins.columns.mapM (columnSpec table))
      return ⟨keyspace, table.name, bindSpecs,
        primaryKeyPositions table ins.columns, []⟩
  | .update upd => do
      let (keyspace, table) ← resolveTable json sessionKs upd.tableName
      let assigned ←
        .ofExcept (upd.assignments.mapM fun assignment =>
          columnSpec table assignment.column)
      let restricted ← .ofExcept (collectWhereBinds table upd.whereClause)
      return ⟨keyspace, table.name, assigned ++ restricted, [], []⟩
  | .select sel => do
      let (keyspace, table) ← resolveTable json sessionKs sel.tableName
      let bindSpecs ← .ofExcept (collectWhereBinds table sel.whereClause)
      let resultCols ← .ofExcept (selectColumns table sel.columns)
      return ⟨keyspace, table.name, bindSpecs, [], resultCols⟩
  | .delete del => do
      let (keyspace, table) ← resolveTable json sessionKs del.tableName
      let bindSpecs ← .ofExcept (collectWhereBinds table del.whereClause)
      return ⟨keyspace, table.name, bindSpecs, [], []⟩
  | .other shortName =>
      .fail (invalidErr s!"Statement cannot be prepared: {shortName}")
  | statement =>
      .fail (invalidErr s!"Statement cannot be prepared: {shortNames statement}")

/-- Execute a parsed statement. -/
def executeStatement
    (sessionKs : Option String)
    (binds : Binds)
    (pageSize : Option Int32)
    (pagingState : Option Bytes) :
    Statement → StorageProgram shards QueryFault (Executed shards)
  | .use keyspace =>
      execUse json keyspace binds
  | .createKeyspace create =>
      execCreateKeyspace json create binds
  | .createTable create =>
      execCreateTable json sessionKs create binds
  | .insert ins =>
      execInsert json hexDecode sessionKs ins binds
  | .select sel =>
      execSelect json hexDecode sessionKs sel binds pageSize pagingState
  | .delete del =>
      execDelete json hexDecode sessionKs del binds
  | .update upd =>
      execUpdate json hexDecode sessionKs upd binds
  | .truncate name =>
      execTruncate json sessionKs name binds
  | .dropTable drop =>
      execDropTable json sessionKs drop binds
  | .dropKeyspace drop =>
      execDropKeyspace json drop binds
  | .other shortName =>
      .fail (invalidErr s!"Statement not supported: {shortName}")

end Programs

end RhydaDB
