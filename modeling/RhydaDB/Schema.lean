import RhydaDB.CqlValue

namespace RhydaDB

/-!
# Table definitions and identifier resolution

The catalog records of `schema.rs` and the two ways the query layer compares a
parsed identifier with a stored name: `normId` folds the identifier and then
looks the result up exactly, `identEq` compares case-insensitively in place.
Identifiers are ASCII, so ASCII case folding is all that either one does.
-/

/-- A parsed identifier, with or without double quotes. -/
inductive Identifier where
  | quoted (text : String)
  | unquoted (text : String)
  deriving Repr, DecidableEq

/-- A table name as written, with an optional keyspace. -/
structure FQName where
  keyspace : Option Identifier
  name : Identifier
  deriving Repr, DecidableEq

/-- One column of a table. -/
structure ColumnDef where
  name : String
  colType : ColumnType
  isPartitionKey : Bool
  isClustering : Bool
  deriving Repr, DecidableEq

/-- A table: its columns and which of them form the primary key. -/
structure TableDef where
  keyspace : String
  name : String
  columns : List ColumnDef
  partitionKeys : List String
  clusteringKeys : List String
  deriving Repr, DecidableEq

/-- A keyspace and its replication options. -/
structure KeyspaceDef where
  name : String
  replication : List (String × String)
  deriving Repr, DecidableEq

namespace TableDef

/-- The first column with exactly this name. -/
def column (table : TableDef) (name : String) : Option ColumnDef :=
  table.columns.find? fun column => column.name == name

/-- The index of the first column with exactly this name. -/
def columnIndex (table : TableDef) (name : String) : Option Nat :=
  table.columns.findIdx? fun column => column.name == name

/-- Partition key names followed by clustering key names. -/
def keyNames (table : TableDef) : List String :=
  table.partitionKeys ++ table.clusteringKeys

end TableDef

/-- ASCII lower case, character by character. -/
def toAsciiLowercase (text : String) : String :=
  String.ofList (text.toList.map Char.toLower)

/-- The stored spelling of an identifier: unquoted ones fold to lower case. -/
def normId : Identifier → String
  | .quoted text =>
      text
  | .unquoted text =>
      toAsciiLowercase text

/-- Compare an identifier with a stored name without folding the name first. -/
def identEq (identifier : Identifier) (name : String) : Bool :=
  match identifier with
  | .quoted text =>
      text == name
  | .unquoted text =>
      toAsciiLowercase text == toAsciiLowercase name

end RhydaDB
