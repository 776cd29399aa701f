import RhydaDB.CqlLiteral
import RhydaDB.Schema

namespace RhydaDB

open ByteStrings

/-!
# Statements, operands and filters

The parsed statements as far as the query layer reads them, and the part of
`query.rs` that needs no storage: turning operands into values, consuming bind
values, and turning a WHERE clause into filters.

A bind marker takes the next value of the request.  `Binds` therefore records,
besides the source's position, the columns a value was taken for; the record
is history and no computation reads it.
-/

/-- An operand of the parsed statement. -/
inductive Operand where
  | const (text : String)
  | map (entries : List (String × String))
  | set (items : List String)
  | list (items : List String)
  | tuple (items : List Operand)
  | column (identifier : Identifier)
  | func (text : String)
  /-- A bind marker. -/
  | param (text : String)
  | null

/-- The operators a WHERE clause can hold. -/
inductive RelationOperator where
  | lessThan
  | lessThanOrEqual
  | equal
  | notEqual
  | greaterThanOrEqual
  | greaterThan
  | isIn
  | contains
  | containsKey
  | isNot
  deriving Repr, DecidableEq

/-- One restriction of a WHERE clause. -/
structure RelationElement where
  obj : Operand
  oper : RelationOperator
  value : Operand

/-- The values of an INSERT. -/
inductive InsertValues where
  | values (operands : List Operand)
  | json (text : String)

/-- A parsed INSERT. -/
structure Insert where
  tableName : FQName
  columns : List Identifier
  values : InsertValues

/-- One assignment of an UPDATE; an operator makes it an increment. -/
structure AssignmentElement where
  column : Identifier
  value : Operand
  operator : Option Operand

/-- A parsed UPDATE. -/
structure Update where
  tableName : FQName
  assignments : List AssignmentElement
  whereClause : List RelationElement

/-- A parsed DELETE. -/
structure Delete where
  columns : List Identifier
  tableName : FQName
  whereClause : List RelationElement

/-- One element of a select list. -/
inductive SelectElement where
  | star
  | column (name : Identifier) (aliased : Option Identifier)
  | function (text : String)
  deriving Repr, DecidableEq

/-- A parsed SELECT. -/
structure Select where
  tableName : FQName
  columns : List SelectElement
  whereClause : List RelationElement
  limit : Option Int32

/-- A parsed DROP TABLE or DROP KEYSPACE. -/
structure CommonDrop where
  name : FQName
  ifExists : Bool
  deriving Repr, DecidableEq

/-- The type names of the grammar. -/
inductive DataTypeName where
  | ascii
  | bigInt
  | blob
  | boolean
  | counter
  | date
  | decimal
  | double
  | float
  | frozen
  | inet
  | int
  | list
  | map
  | set
  | smallInt
  | text
  | time
  | timestamp
  | timeUuid
  | tinyInt
  | tuple
  | uuid
  | varChar
  | varInt
  | custom (text : String)
  deriving Repr, DecidableEq

/-- A type name with the names between its angle brackets. -/
structure DataType where
  name : DataTypeName
  definition : List DataTypeName
  deriving Repr, DecidableEq

/-- One column of a CREATE TABLE, with or without an inline PRIMARY KEY. -/
structure ColumnDefinition where
  name : Identifier
  dataType : DataType
  primaryKey : Bool
  deriving Repr, DecidableEq

/-- The PRIMARY KEY clause of a CREATE TABLE. -/
structure PrimaryKey where
  partition : List Identifier
  clustering : List Identifier
  deriving Repr, DecidableEq

/-- A parsed CREATE TABLE. -/
structure CreateTable where
  ifNotExists : Bool
  name : FQName
  columns : List ColumnDefinition
  key : Option PrimaryKey
  deriving Repr, DecidableEq

/-- A parsed CREATE KEYSPACE. -/
structure CreateKeyspace where
  ifNotExists : Bool
  name : Identifier
  replication : List (String × String)
  deriving Repr, DecidableEq

/-- A parsed statement; those the server does not know keep only their name. -/
inductive Statement where
  | use (keyspace : Identifier)
  | createKeyspace (create : CreateKeyspace)
  | createTable (create : CreateTable)
  | insert (ins : Insert)
  | select (sel : Select)
  | delete (del : Delete)
  | update (upd : Update)
  | truncate (name : FQName)
  | dropTable (drop : CommonDrop)
  | dropKeyspace (drop : CommonDrop)
  | other (shortName : String)

/-- How executing a statement can go wrong. -/
inductive QueryFault where
  | error (code : Nat) (message : String)
  | panic
  /-- The execution never returns. -/
  | hang
  deriving Repr, DecidableEq

/-- The outcome of a part of a statement's execution. -/
abbrev QueryOutcome (α : Type) := Except QueryFault α

/-- The statement does not parse. -/
def syntaxErr (message : String) : QueryFault :=
  .error 0x2000 message

/-- The statement is not valid here. -/
def invalidErr (message : String) : QueryFault :=
  .error 0x2200 message

namespace QueryFault

/-- Report a fault of a callee, turning its message into an error. -/
def ofFault (report : String → QueryFault) : Fault → QueryFault
  | .error message =>
      report message
  | .panic =>
      .panic
  | .hang =>
      .hang

end QueryFault

/-- A storage failure is reported as an internal error. -/
def internalErr : Fault → QueryFault :=
  .ofFault fun message => .error 0x0000 s!"internal error: {message}"

/-- The bind values of a request and how many of them are used up. -/
structure Binds where
  /-- Raw values; a null or unset one carries no bytes. -/
  values : List (Option Bytes)
  next : Nat
  /-- History: the column and the type each value was taken for. -/
  taken : List (String × ColumnType)
  deriving Repr, DecidableEq

namespace Binds

/-- The bind values of a request, none of them used. -/
def new (values : List (Option Bytes)) : Binds where
  values := values
  next := 0
  taken := []

/-- A request without bind values. -/
def none : Binds :=
  new []

/-- Use up the next value on behalf of a column. -/
def advance (binds : Binds) (column : ColumnDef) : Binds :=
  { binds with
    next := binds.next + 1
    taken := binds.taken ++ [(column.name, column.colType)] }

/-- Decode the next value at a column's type. -/
def take (binds : Binds) (column : ColumnDef) : QueryOutcome (Value × Binds) :=
  match binds.values[binds.next]? with
  | .none =>
      .error (invalidErr "Invalid amount of bind variables")
  | some .none =>
      .ok (.null, binds.advance column)
  | some (some raw) =>
      ((Value.fromRawBytes raw column.colType).mapError
        (.ofFault fun message =>
          invalidErr s!"Invalid bind value: {message}")).map
        fun value => (value, binds.advance column)

end Binds

section Operands

variable (hexDecode : HexDecode)

/-- Read a literal at a type. -/
def constToValue (text : String) (columnType : ColumnType) : QueryOutcome Value :=
  (Value.parseLiteral hexDecode text columnType).mapError (.ofFault invalidErr)

/-- Read the entries of a map literal. -/
def constsToEntries
    (keyType valueType : ColumnType) :
    List (String × String) →
    QueryOutcome (List (Value × Value))
  | [] =>
      .ok []
  | (key, value) :: rest => do
      let first ← constToValue hexDecode key keyType
      let second ← constToValue hexDecode value valueType
      let others ← constsToEntries keyType valueType rest
      return (first, second) :: others

/-- The value of an operand that is not a bind marker. -/
def literalToValue
    (operand : Operand)
    (columnType : ColumnType) :
    QueryOutcome Value :=
  match operand, columnType with
  | .null, _ =>
      .ok .null
  | .const text, columnType =>
      constToValue hexDecode text columnType
  | .set items, .set elementType =>
      (items.mapM fun item => constToValue hexDecode item elementType).map .set
  | .list items, .list elementType =>
      (items.mapM fun item => constToValue hexDecode item elementType).map .list
  | .map entries, .map keyType valueType =>
      (constsToEntries hexDecode keyType valueType entries).map .map
  | .set _, _ =>
      .error (invalidErr "Collection type mismatch in values")
  | .list _, _ =>
      .error (invalidErr "Collection type mismatch in values")
  | .map _, _ =>
      .error (invalidErr "Collection type mismatch in values")
  | _, _ =>
      .error (invalidErr "Only literal values are supported (no bind markers)")

/-- The value of an operand at a column's type. -/
def operandToValue
    (operand : Operand)
    (column : ColumnDef)
    (binds : Binds) :
    QueryOutcome (Value × Binds) :=
  match operand with
  | .param _ =>
      binds.take column
  | operand =>
      (literalToValue hexDecode operand column.colType).map (·, binds)

/-- A restriction on one column. -/
inductive Filter where
  | eq (column : String) (value : Value)
  | isIn (column : String) (values : List Value)

/-- The value of a literal or a bind marker in a WHERE clause. -/
def filterValue
    (operand : Operand)
    (column : ColumnDef)
    (binds : Binds) :
    QueryOutcome (Value × Binds) :=
  match operand with
  | .const text =>
      (constToValue hexDecode text column.colType).map (·, binds)
  | .param _ =>
      binds.take column
  | _ =>
      .error (invalidErr "Only literal values are supported in WHERE")

/-- The values of the items of an IN list. -/
def filterValues
    (column : ColumnDef) :
    List Operand →
    Binds →
    QueryOutcome (List Value × Binds)
  | [], binds =>
      .ok ([], binds)
  | item :: rest, binds => do
      let (value, binds) ← filterValue hexDecode item column binds
      let (values, binds) ← filterValues column rest binds
      return (value :: values, binds)

/-- The values an IN restriction lists. -/
def inValues
    (operand : Operand)
    (column : ColumnDef)
    (binds : Binds) :
    QueryOutcome (List Value × Binds) :=
  match operand with
  | .tuple items =>
      filterValues hexDecode column items binds
  | operand =>
      (filterValue hexDecode operand column binds).map
        fun (value, binds) => ([value], binds)

/-- The column a WHERE restriction or an INSERT column list refers to. -/
def TableDef.resolve (table : TableDef) (identifier : Identifier) : Option ColumnDef :=
  table.columns.find? fun column => identEq identifier column.name

/-- The filter of one restriction. -/
def parseFilter
    (table : TableDef)
    (relation : RelationElement)
    (binds : Binds) :
    QueryOutcome (Filter × Binds) :=
  match relation.obj with
  | .column identifier =>
      match table.resolve identifier with
      | none =>
          .error (invalidErr s!"Undefined column name {normId identifier}")
      | some column =>
          match relation.oper, relation.value with
          | .equal, .null =>
              .ok (.eq column.name .null, binds)
          | .equal, operand =>
              (filterValue hexDecode operand column binds).map
                fun (value, binds) => (.eq column.name value, binds)
          | .isIn, operand =>
              (inValues hexDecode operand column binds).map
                fun (values, binds) => (.isIn column.name values, binds)
          | _, _ =>
              .error (invalidErr
                "Only '=' and 'IN' restrictions are supported in WHERE")
  | _ =>
      .error (invalidErr "Only column restrictions are supported in WHERE")

/-- The filters of a WHERE clause, in order. -/
def parseFilters
    (table : TableDef) :
    List RelationElement →
    Binds →
    QueryOutcome (List Filter × Binds)
  | [], binds =>
      .ok ([], binds)
  | relation :: rest, binds => do
      let (filter, binds) ← parseFilter hexDecode table relation binds
      let (filters, binds) ← parseFilters table rest binds
      return (filter :: filters, binds)

end Operands

/-- The value of the first `=` filter on a column. -/
def eqValue (filters : List Filter) (name : String) : Option Value :=
  filters.findSome? fun filter =>
    match filter with
    | .eq column value =>
        if column = name then some value else none
    | .isIn _ _ =>
        none

/-- The raw bytes of a key column fixed by an `=` filter. -/
def keyPartFromFilters (filters : List Filter) (name : String) : QueryOutcome Bytes :=
  match eqValue filters name with
  | none =>
      .error (invalidErr s!"Restrictions are incomplete for key part {name}")
  | some value =>
      if value.partialEq .null then
        .error (invalidErr s!"Invalid null value for key part {name}")
      else
        .ok value.rawBytes

/-- The raw key of the row a WHERE clause fixes. -/
def keyPartsFromFilters
    (table : TableDef)
    (filters : List Filter) :
    QueryOutcome (List Bytes) :=
  table.keyNames.mapM (keyPartFromFilters filters)

/-- One column of a select list, reported under its alias if it has one. -/
def selectColumn (table : TableDef) :
    SelectElement → QueryOutcome (Option (String × ColumnType))
  | .star =>
      .ok none
  | .column name aliased =>
      match table.column (normId name) with
      | some column =>
          .ok (some (normId (aliased.getD name), column.colType))
      | none =>
          .error (invalidErr s!"Undefined column name {normId name}")
  | .function _ =>
      .error (invalidErr "Functions in SELECT are not supported")

/-- The columns a select list reports; a star stands for all of them. -/
def selectColumns
    (table : TableDef)
    (elements : List SelectElement) :
    QueryOutcome (List (String × ColumnType)) :=
  (elements.mapM (selectColumn table)).map fun selected =>
    if SelectElement.star ∈ elements then
      table.columns.map fun column => (column.name, column.colType)
    else
      selected.filterMap id

end RhydaDB
