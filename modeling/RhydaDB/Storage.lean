import RhydaDB.AtomicPrograms
import RhydaDB.KeyCodec
import RhydaDB.PipelineFifo
import RhydaDB.Schema

namespace RhydaDB

open ByteStrings AtomicPrograms

/-!
# The sharded store

The store is a fixed number of engines behind their write pipelines, the
catalog caches and the optional row cache.  Its functions are programs over
the store's atomic actions: one access to a shared map, one engine read or
write, or one channel send.  An engine iterator reads the snapshot taken when
it is opened, so a scan is one action whose entries the callback then visits.
-/

/-- A receipt for one operation of one engine's pipeline. -/
structure WriteTicket (shards : Nat) where
  engine : Fin shards
  ticket : Nat
  deriving Repr, DecidableEq

/-- The storage state shared by all requests. -/
structure Storage (shards : Nat) where
  engines : Fin shards → Pipeline
  keyspaces : String → Option KeyspaceDef
  tables : String × String → Option TableDef
  /-- Raw values by full row key; absent when caching is disabled. -/
  rowCache : Option (ByteMap Bytes)

/-- One atomic access to the shared state. -/
inductive StorageAction (shards : Nat) where
  | cacheGet (key : Bytes)
  | cacheInsert (key value : Bytes)
  | cacheRemove (key : Bytes)
  | cacheClear
  | dbGet (engine : Fin shards) (key : Bytes)
  /-- A write that bypasses the engine's pipeline. -/
  | dbWrite (engine : Fin shards) (op : WriteOp)
  | dbScan (engine : Fin shards) (leading : Bytes)
  | send (engine : Fin shards) (op : WriteOp)
  | keyspacesGet (name : String)
  | keyspacesInsert (name : String) (keyspace : KeyspaceDef)
  | keyspacesRemove (name : String)
  | tablesGet (name : String × String)
  | tablesInsert (name : String × String) (table : TableDef)
  | tablesRemove (name : String × String)
  /-- Drop every cached table of a keyspace. -/
  | tablesRetainOther (keyspace : String)
  deriving Repr, DecidableEq

/-- What each action answers. -/
@[reducible]
def StorageResponse {shards : Nat} : StorageAction shards → Type
  | .cacheGet _ =>
      Option Bytes
  | .dbGet _ _ =>
      Option Bytes
  | .dbScan _ _ =>
      List (Bytes × Bytes)
  | .send _ _ =>
      Option (WriteTicket shards)
  | .keyspacesGet _ =>
      Option KeyspaceDef
  | .tablesGet _ =>
      Option TableDef
  | _ =>
      Unit

/-- A program of the store with the given kind of failure. -/
abbrev StorageProgram (shards : Nat) (Failure α : Type) :=
  Program (@StorageResponse shards) Failure α

/-- Perform one atomic action. -/
def atomically
    {shards : Nat}
    {Failure : Type}
    (action : StorageAction shards) :
    StorageProgram shards Failure (StorageResponse action) :=
  .perform action

namespace Storage

variable {shards : Nat}

/-- Replace one engine's pipeline. -/
def setEngine
    (store : Storage shards)
    (engine : Fin shards)
    (pipeline : Pipeline) :
    Storage shards :=
  { store with engines := Function.update store.engines engine pipeline }

/-- Replace the row cache contents, if there is a row cache. -/
def mapCache
    (store : Storage shards)
    (change : ByteMap Bytes → ByteMap Bytes) :
    Storage shards :=
  { store with rowCache := store.rowCache.map change }

/-- Put an operation on an engine's channel. -/
def send
    (store : Storage shards)
    (engine : Fin shards)
    (op : WriteOp) :
    Storage shards × Option (WriteTicket shards) :=
  match (store.engines engine).step? (.send op) with
  | some pipeline =>
      (store.setEngine engine pipeline,
        some ⟨engine, (store.engines engine).nextTicket⟩)
  | none =>
      (store, none)

/-- Perform one action on the shared state. -/
def answer
    (store : Storage shards) :
    (action : StorageAction shards) →
    Storage shards × StorageResponse action
  | .cacheGet key =>
      (store, store.rowCache.bind fun cache => cache[key]?)
  | .cacheInsert key value =>
      (store.mapCache fun cache => cache.insert key value, ())
  | .cacheRemove key =>
      (store.mapCache fun cache => cache.erase key, ())
  | .cacheClear =>
      (store.mapCache fun _ => ∅, ())
  | .dbGet engine key =>
      (store, (store.engines engine).db[key]?)
  | .dbWrite engine op =>
      (store.setEngine engine ((store.engines engine).directWrite op), ())
  | .dbScan engine leading =>
      (store, (store.engines engine).db.scanStem leading)
  | .send engine op =>
      store.send engine op
  | .keyspacesGet name =>
      (store, store.keyspaces name)
  | .keyspacesInsert name keyspace =>
      ({ store with
        keyspaces := Function.update store.keyspaces name (some keyspace) },
        ())
  | .keyspacesRemove name =>
      ({ store with
        keyspaces := Function.update store.keyspaces name none }, ())
  | .tablesGet name =>
      (store, store.tables name)
  | .tablesInsert name table =>
      ({ store with
        tables := Function.update store.tables name (some table) }, ())
  | .tablesRemove name =>
      ({ store with tables := Function.update store.tables name none }, ())
  | .tablesRetainOther keyspace =>
      ({ store with
        tables := fun name =>
          if name.1 ≠ keyspace then store.tables name else none }, ())

/-- One step of an engine's pipeline. -/
def engineStep?
    (store : Storage shards)
    (engine : Fin shards)
    (label : PipelineLabel) :
    Option (Storage shards) :=
  ((store.engines engine).step? label).map (store.setEngine engine)

/-- Whether a ticket's sender has been dropped. -/
def isComplete
    (store : Storage shards)
    (ticket : WriteTicket shards) :
    Bool :=
  (store.engines ticket.engine).completed.contains ticket.ticket

/-- A store over empty engines, before the system tables are seeded. -/
def fresh
    (shards : Nat)
    (writeSync caching : Bool) :
    Storage shards where
  engines := fun _ => Pipeline.start writeSync ∅
  keyspaces := fun _ => none
  tables := fun _ => none
  rowCache := if caching then some ∅ else none

end Storage

/-- A store of one engine has an engine. -/
instance oneEngine : NeZero 1 :=
  ⟨Nat.one_ne_zero⟩

/-- The 64-bit FNV-1a hash. -/
def fnv1a (bytes : Bytes) : UInt64 :=
  bytes.foldl (fun hash byte => (hash ^^^ byte.toUInt64) * 0x100000001b3)
    0xcbf29ce484222325

section Programs

variable {shards : Nat} [NeZero shards]

/-- The engine a routing key hashes to. -/
def engineOf (routingKey : Bytes) : Fin shards :=
  if shards ≤ 1 then
    0
  else
    Fin.ofNat shards (fnv1a routingKey).toNat

/-- The engine of a row, chosen by its table and its first key part. -/
def dataEngine (keyspace table : String) (firstPart : Bytes) : Fin shards :=
  engineOf (dataPrefix keyspace table ++ firstPart)

/-- The first key part, or nothing for an empty key. -/
def firstPart (keyParts : List Bytes) : Bytes :=
  keyParts.headD []

/-- Row values of the system keyspaces are never cached. -/
def shouldCache (keyspace : String) : Bool :=
  keyspace != "system" && keyspace != "system_schema" &&
    keyspace != "system_virtual_schema"

/-- Metadata write: always engine 0, past the pipeline. -/
def put (key value : Bytes) : StorageProgram shards Fault Unit :=
  atomically (.dbWrite 0 (.put key value))

/-- Metadata read: engine 0. -/
def get (key : Bytes) : StorageProgram shards Fault (Option Bytes) :=
  atomically (.dbGet 0 key)

/-- Metadata delete: engine 0, past the pipeline. -/
def delete (key : Bytes) : StorageProgram shards Fault Unit :=
  atomically (.dbWrite 0 (.delete key))

/-- Feed entries to a callback until it declines to go on. -/
def visitEntries
    {σ : Type}
    (visit : σ → Bytes → Bytes → σ × Bool) :
    σ → List (Bytes × Bytes) → σ × Bool
  | state, [] =>
      (state, true)
  | state, (key, value) :: rest =>
      if (visit state key value).2 then
        visitEntries visit (visit state key value).1 rest
      else
        visit state key value

/-- Stream one engine's entries under a prefix through a callback. -/
def forEachOnEngine
    {σ : Type}
    (engine : Fin shards)
    (leading : Bytes)
    (visit : σ → Bytes → Bytes → σ × Bool)
    (state : σ) :
    StorageProgram shards Fault (σ × Bool) := do
  let entries ← atomically (.dbScan engine leading)
  return visitEntries visit state entries

/-- Stream several engines in turn, stopping when the callback stops. -/
def forEachOnEngines
    {σ : Type}
    (leading : Bytes)
    (visit : σ → Bytes → Bytes → σ × Bool) :
    List (Fin shards) →
    σ →
    StorageProgram shards Fault σ
  | [], state =>
      return state
  | engine :: rest, state => do
      let (next, goOn) ← forEachOnEngine engine leading visit state
      if goOn then
        forEachOnEngines leading visit rest next
      else
        return next

/-- Stream every row of a table, engine by engine. -/
def forEachInTable
    {σ : Type}
    (keyspace table : String)
    (visit : σ → Bytes → Bytes → σ × Bool)
    (state : σ) :
    StorageProgram shards Fault σ :=
  forEachOnEngines (dataPrefix keyspace table) visit (List.finRange shards)
    state

/-- Stream the rows of one partition from the engine that holds it. -/
def forEachInPartition
    {σ : Type}
    (keyspace table : String)
    (partition : List Bytes)
    (visit : σ → Bytes → Bytes → σ × Bool)
    (state : σ) :
    StorageProgram shards Fault σ := do
  let leading := dataPrefix keyspace table ++ encodeKey partition
  let engine := dataEngine keyspace table (firstPart partition)
  let (final, _) ← forEachOnEngine engine leading visit state
  return final

/-- The callback that keeps every entry. -/
def collect
    (out : List (Bytes × Bytes))
    (key value : Bytes) :
    List (Bytes × Bytes) × Bool :=
  (out ++ [(key, value)], true)

/-- All rows of a table. -/
def scanRows
    (keyspace table : String) :
    StorageProgram shards Fault (List (Bytes × Bytes)) :=
  forEachInTable keyspace table collect []

/-- All rows of a partition. -/
def scanPartition
    (keyspace table : String)
    (partitionKey : List Bytes) :
    StorageProgram shards Fault (List (Bytes × Bytes)) :=
  forEachInPartition keyspace table partitionKey collect []

/-- Metadata scan: engine 0 only. -/
def scanPrefix
    (leading : Bytes) :
    StorageProgram shards Fault (List (Bytes × Bytes)) := do
  let (entries, _) ← forEachOnEngine 0 leading collect []
  return entries

/-- Delete the given metadata keys one by one. -/
def deleteEach : List (Bytes × Bytes) → StorageProgram shards Fault Unit
  | [] =>
      return ()
  | (key, _) :: rest => do
      delete key
      deleteEach rest

/-- Remove a metadata prefix from engine 0. -/
def deletePrefix (leading : Bytes) : StorageProgram shards Fault Unit :=
  match prefixUpperBound leading with
  | some stop =>
      atomically (.dbWrite 0 (.deleteRange leading stop))
  | none => do
      let entries ← scanPrefix leading
      deleteEach entries

/-- Send an operation through an engine's pipeline. -/
def sendOp
    (engine : Fin shards)
    (op : WriteOp) :
    StorageProgram shards Fault (WriteTicket shards) := do
  match ← atomically (.send engine op) with
  | some ticket =>
      return ticket
  | none =>
      .fail (.error "storage writer is gone")

/-- Send one operation to each listed engine. -/
def sendToEach
    (op : WriteOp) :
    List (Fin shards) →
    StorageProgram shards Fault (List (WriteTicket shards))
  | [] =>
      return []
  | engine :: rest => do
      let ticket ← sendOp engine op
      let tickets ← sendToEach op rest
      return ticket :: tickets

/-- Send a delete for each listed key; a failed send has nothing to await. -/
def sendDeletes
    (engine : Fin shards) :
    List (Bytes × Bytes) →
    StorageProgram shards Fault (List (WriteTicket shards))
  | [] =>
      return []
  | (key, _) :: rest => do
      let ticket ← atomically (.send engine (.delete key))
      let tickets ← sendDeletes engine rest
      return ticket.toList ++ tickets

/-- Send a delete for every key under a prefix, engine by engine. -/
def sendDeletesUnder
    (leading : Bytes) :
    List (Fin shards) →
    StorageProgram shards Fault (List (WriteTicket shards))
  | [] =>
      return []
  | engine :: rest => do
      let entries ← atomically (.dbScan engine leading)
      let tickets ← sendDeletes engine entries
      let later ← sendDeletesUnder leading rest
      return tickets ++ later

/-- Remove a data range from every engine through the pipelines. -/
def deleteDataPrefix
    (leading : Bytes) :
    StorageProgram shards Fault (List (WriteTicket shards)) := do
  let tickets ←
    match prefixUpperBound leading with
    | some stop =>
        sendToEach (.deleteRange leading stop) (List.finRange shards)
    | none =>
        sendDeletesUnder leading (List.finRange shards)
  if dtPrefix.isPrefixOf leading then
    atomically .cacheClear
  return tickets

/-- The key of a keyspace's catalog record. -/
def keyspaceKey (name : String) : Bytes :=
  ksPrefix ++ utf8 name

/-- The key of a table's catalog record. -/
def tableKey (keyspace table : String) : Bytes :=
  tbPrefix ++ utf8 keyspace ++ [bang] ++ utf8 table

/-- The JSON serialisation of catalog records. -/
structure CatalogJson where
  keyspaceToVec : KeyspaceDef → Bytes
  keyspaceFromSlice : Bytes → Outcome KeyspaceDef
  tableToVec : TableDef → Bytes
  tableFromSlice : Bytes → Outcome TableDef

variable (json : CatalogJson)

/-- Persist and cache a keyspace. -/
def putKeyspace
    (keyspace : KeyspaceDef) :
    StorageProgram shards Fault Unit := do
  put (keyspaceKey keyspace.name) (json.keyspaceToVec keyspace)
  atomically (.keyspacesInsert keyspace.name keyspace)

/-- Look a keyspace up in the cache, then in engine 0. -/
def getKeyspace
    (name : String) :
    StorageProgram shards Fault (Option KeyspaceDef) := do
  match ← atomically (.keyspacesGet name) with
  | some keyspace =>
      return some keyspace
  | none =>
      match ← get (keyspaceKey name) with
      | some bytes => do
          let keyspace ← Program.ofExcept (json.keyspaceFromSlice bytes)
          atomically (.keyspacesInsert name keyspace)
          return some keyspace
      | none =>
          return none

/-- Remove a keyspace, its tables' definitions and all of its rows. -/
def deleteKeyspace
    (name : String) :
    StorageProgram shards Fault (List (WriteTicket shards)) := do
  delete (keyspaceKey name)
  deletePrefix (tbPrefix ++ utf8 name ++ [bang])
  let tickets ← deleteDataPrefix (keyspaceDataPrefix name)
  atomically (.keyspacesRemove name)
  atomically (.tablesRetainOther name)
  return tickets

/-- Persist and cache a table definition. -/
def putTable (table : TableDef) : StorageProgram shards Fault Unit := do
  put (tableKey table.keyspace table.name) (json.tableToVec table)
  atomically (.tablesInsert (table.keyspace, table.name) table)

/-- Look a table up in the cache, then in engine 0. -/
def getTable
    (keyspace table : String) :
    StorageProgram shards Fault (Option TableDef) := do
  match ← atomically (.tablesGet (keyspace, table)) with
  | some definition =>
      return some definition
  | none =>
      match ← get (tableKey keyspace table) with
      | some bytes => do
          let definition ← Program.ofExcept (json.tableFromSlice bytes)
          atomically (.tablesInsert (keyspace, table) definition)
          return some definition
      | none =>
          return none

omit json

/-- Remove a table's definition and all of its rows. -/
def deleteTable
    (keyspace table : String) :
    StorageProgram shards Fault (List (WriteTicket shards)) := do
  delete (tableKey keyspace table)
  let tickets ← deleteDataPrefix (dataPrefix keyspace table)
  atomically (.tablesRemove (keyspace, table))
  return tickets

/-- Remove all rows of a table. -/
def truncateTable
    (keyspace table : String) :
    StorageProgram shards Fault (List (WriteTicket shards)) :=
  deleteDataPrefix (dataPrefix keyspace table)

/-- The cached value of a row key. -/
def cachedRow
    (keyspace : String)
    (key : Bytes) :
    StorageProgram shards Fault (Option Bytes) :=
  if shouldCache keyspace then
    atomically (.cacheGet key)
  else
    return none

/-- Remember a value just read from an engine. -/
def refillCache
    (keyspace : String)
    (key : Bytes) :
    Option Bytes →
    StorageProgram shards Fault Unit
  | some value =>
      if shouldCache keyspace then
        atomically (.cacheInsert key value)
      else
        return ()
  | none =>
      return ()

/-- Read one row, through the cache where the keyspace is cached. -/
def getRow
    (keyspace table : String)
    (keyParts : List Bytes) :
    StorageProgram shards Fault (Option Bytes) := do
  let key := rowKey keyspace table keyParts
  match ← cachedRow keyspace key with
  | some value =>
      return some value
  | none => do
      let engine := dataEngine keyspace table (firstPart keyParts)
      let found ← atomically (.dbGet engine key)
      refillCache keyspace key found
      return found

/-- Write one row past its pipeline. -/
def putRowSync
    (keyspace table : String)
    (keyParts : List Bytes)
    (value : Bytes) :
    StorageProgram shards Fault Unit := do
  let key := rowKey keyspace table keyParts
  let engine := dataEngine keyspace table (firstPart keyParts)
  atomically (.dbWrite engine (.put key value))
  if shouldCache keyspace then
    atomically (.cacheInsert key value)

/-- Delete one row past its pipeline. -/
def deleteRowSync
    (keyspace table : String)
    (keyParts : List Bytes) :
    StorageProgram shards Fault Unit := do
  let key := rowKey keyspace table keyParts
  let engine := dataEngine keyspace table (firstPart keyParts)
  atomically (.dbWrite engine (.delete key))
  if shouldCache keyspace then
    atomically (.cacheRemove key)

/-- Send a row operation to the engine of its first key part. -/
def writeDataOp
    (keyspace table : String)
    (keyParts : List Bytes)
    (op : WriteOp) :
    StorageProgram shards Fault (WriteTicket shards) :=
  sendOp (dataEngine keyspace table (firstPart keyParts)) op

/-- Write one row: cache first, then the pipeline. -/
def putRow
    (keyspace table : String)
    (keyParts : List Bytes)
    (value : Bytes) :
    StorageProgram shards Fault (WriteTicket shards) := do
  let key := rowKey keyspace table keyParts
  if shouldCache keyspace then
    atomically (.cacheInsert key value)
  writeDataOp keyspace table keyParts (.put key value)

/-- Delete one row: cache first, then the pipeline. -/
def deleteRow
    (keyspace table : String)
    (keyParts : List Bytes) :
    StorageProgram shards Fault (WriteTicket shards) := do
  let key := rowKey keyspace table keyParts
  if shouldCache keyspace then
    atomically (.cacheRemove key)
  writeDataOp keyspace table keyParts (.delete key)

end Programs

end RhydaDB
