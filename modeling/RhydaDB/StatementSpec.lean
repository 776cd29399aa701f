import RhydaDB.ExecuteStatement
import RhydaDB.Fallible

namespace RhydaDB

open ByteStrings AtomicPrograms Fallible Storage

/-!
# What a successful statement did

One lemma per statement: when its program succeeds, what it computed from its
text and which storage program it then ran.  Everything about statements is
derived from these.
-/

variable
  {shards : Nat} [NeZero shards]
  {json : CatalogJson}
  {hexDecode : HexDecode}

/-- A table that was found is in the catalog cache afterwards. -/
theorem tables_of_getTable
    {keyspace name : String}
    {table : TableDef}
    {store next : Storage shards}
    (found :
      (getTable json keyspace name).run answer store =
        (.ok (some table), next)) :
    next.tables (keyspace, name) = some table := by
  cases cached : store.tables (keyspace, name) with
  | some definition =>
      simp [getTable, atomically, answer, cached] at found
      obtain ⟨rfl, rfl⟩ := found
      exact cached
  | none =>
      simp only [getTable, atomically, Program.perform_bind, Program.run_act,
        answer, cached, get] at found
      split at found
      · rename_i bytes _
        obtain ⟨definition, _, decoded, inserted⟩ :=
          (Program.run_bind_eq_ok answer).mp found
        simp [answer] at decoded inserted
        obtain ⟨rfl, rfl⟩ := inserted
        simp
      · simp at found

/-- A cached table is found without changing the store. -/
theorem getTable_run_cached
    {keyspace name : String}
    {table : TableDef}
    {store : Storage shards}
    (cached : store.tables (keyspace, name) = some table) :
    (getTable json keyspace name).run answer store =
      (.ok (some table), store) := by
  simp [getTable, atomically, answer, cached]

/-- What a successful table resolution did. -/
theorem resolveTable_eq_ok
    {sessionKs : Option String}
    {name : FQName}
    {keyspace : String}
    {table : TableDef}
    {store next : Storage shards}
    (resolved :
      (resolveTable json sessionKs name).run answer store =
        (.ok (keyspace, table), next)) :
    nameKeyspace sessionKs name = .ok keyspace ∧
      (getTable json keyspace (normId name.name)).run answer store =
        (.ok (some table), next) := by
  simp only [resolveTable, Program.run_bind_eq_ok, Program.run_ofExcept,
    Prod.mk.injEq] at resolved
  obtain ⟨_, _, ⟨named, rfl⟩, found, middle, looked, rest⟩ := resolved
  cases found with
  | none =>
      cases rest
  | some definition =>
      cases rest
      exact ⟨named, (Program.run_mapFailure_eq_ok answer).mp looked⟩

/-- A successful INSERT resolved its table, planned one row and queued it. -/
theorem execInsert_eq_ok
    {sessionKs : Option String}
    {ins : Insert}
    {binds : Binds}
    {executed : Executed shards}
    {store final : Storage shards}
    (succeeds :
      (execInsert json hexDecode sessionKs ins binds).run answer store =
        (.ok executed, final)) :
    ∃ keyspace table middle keyParts cells next ticket,
      (resolveTable json sessionKs ins.tableName).run answer store =
          (.ok (keyspace, table), middle) ∧
        checkWritable keyspace = .ok () ∧
        planInsert hexDecode table ins binds = .ok (keyParts, cells, next) ∧
        (putRow keyspace table.name keyParts (encodeRowColumns cells)).run
            answer middle =
          (.ok ticket, final) ∧
        executed = ⟨.void, [ticket], next⟩ := by
  simp only [execInsert, internally, Program.run_bind_eq_ok,
    Program.run_ofExcept, Program.run_mapFailure_eq_ok, Program.run_return,
    Prod.mk.injEq, Except.ok.injEq, Prod.exists] at succeeds
  obtain ⟨keyspace, table, middle, resolved, _, _, ⟨writable, rfl⟩,
    keyParts, cells, next, _, ⟨planned, rfl⟩, ticket, _, written, rfl, rfl⟩ :=
      succeeds
  exact ⟨keyspace, table, middle, keyParts, cells, next, ticket, resolved,
    writable, planned, written, rfl⟩

/-- A successful DELETE resolved its table and queued one deletion. -/
theorem execDelete_eq_ok
    {sessionKs : Option String}
    {del : Delete}
    {binds : Binds}
    {executed : Executed shards}
    {store final : Storage shards}
    (succeeds :
      (execDelete json hexDecode sessionKs del binds).run answer store =
        (.ok executed, final)) :
    ∃ keyspace table middle keyParts next ticket,
      (resolveTable json sessionKs del.tableName).run answer store =
          (.ok (keyspace, table), middle) ∧
        checkWritable keyspace = .ok () ∧
        planDelete hexDecode table del binds = .ok (keyParts, next) ∧
        (deleteRow keyspace table.name keyParts).run answer middle =
          (.ok ticket, final) ∧
        executed = ⟨.void, [ticket], next⟩ := by
  simp only [execDelete, internally, Program.run_bind_eq_ok,
    Program.run_ofExcept, Program.run_mapFailure_eq_ok, Program.run_return,
    Prod.mk.injEq, Except.ok.injEq, Prod.exists] at succeeds
  obtain ⟨keyspace, table, middle, resolved, _, _, ⟨writable, rfl⟩,
    keyParts, next, _, ⟨planned, rfl⟩, ticket, _, written, rfl, rfl⟩ :=
      succeeds
  exact ⟨keyspace, table, middle, keyParts, next, ticket, resolved, writable,
    planned, written, rfl⟩

/-- A successful UPDATE resolved its table, determined one row and queued it. -/
theorem execUpdate_eq_ok
    {sessionKs : Option String}
    {upd : Update}
    {binds : Binds}
    {executed : Executed shards}
    {store final : Storage shards}
    (succeeds :
      (execUpdate json hexDecode sessionKs upd binds).run answer store =
        (.ok executed, final)) :
    ∃ keyspace table middle newValues keyParts next cells read ticket,
      (resolveTable json sessionKs upd.tableName).run answer store =
          (.ok (keyspace, table), middle) ∧
        checkWritable keyspace = .ok () ∧
        planUpdate hexDecode table upd binds =
          .ok (newValues, keyParts, next) ∧
        (updatedCells keyspace table newValues keyParts).run answer middle =
          (.ok cells, read) ∧
        (putRow keyspace table.name keyParts (encodeRowColumns cells)).run
            answer read =
          (.ok ticket, final) ∧
        executed = ⟨.void, [ticket], next⟩ := by
  simp only [execUpdate, internally, Program.run_bind_eq_ok,
    Program.run_ofExcept, Program.run_mapFailure_eq_ok, Program.run_return,
    Prod.mk.injEq, Except.ok.injEq, Prod.exists] at succeeds
  obtain ⟨keyspace, table, middle, resolved, _, _, ⟨writable, rfl⟩,
    newValues, keyParts, next, _, ⟨planned, rfl⟩, cells, read, determined,
    ticket, _, written, rfl, rfl⟩ :=
      succeeds
  exact ⟨keyspace, table, middle, newValues, keyParts, next, cells, read,
    ticket, resolved, writable, planned, determined, written, rfl⟩

/-- A successful SELECT on a table resolved its columns and filters. -/
theorem selectFrom_eq_ok
    {keyspace : String}
    {table : TableDef}
    {sel : Select}
    {binds : Binds}
    {pageSize : Option Int32}
    {pagingState : Option Bytes}
    {executed : Executed shards}
    {store final : Storage shards}
    (succeeds :
      (selectFrom hexDecode keyspace table sel binds pageSize pagingState).run
          answer store =
        (.ok executed, final)) :
    ∃ selected filters next projection rows sources state,
      selectColumns table sel.columns = .ok selected ∧
        parseFilters hexDecode table sel.whereClause binds =
          .ok (filters, next) ∧
        Projection.build table selected filters = some projection ∧
        (selectRows projection keyspace filters pageSize sel.limit
            pagingState).run answer store =
          (.ok (rows, sources, state), final) ∧
        executed =
          ⟨.rows keyspace table.name selected rows sources state, [],
            next⟩ := by
  simp only [selectFrom, Program.run_bind_eq_ok, Program.run_ofExcept,
    Prod.mk.injEq, Prod.exists] at succeeds
  obtain ⟨selected, _, ⟨columns, rfl⟩, filters, next, _, ⟨parsed, rfl⟩,
    rest⟩ := succeeds
  split at rest
  · cases rest
  · rename_i projection built
    simp only [internally, Program.run_bind_eq_ok,
      Program.run_mapFailure_eq_ok, Program.run_return, Prod.mk.injEq,
      Except.ok.injEq, Prod.exists] at rest
    obtain ⟨rows, sources, state, _, selectedRows, rfl, rfl⟩ := rest
    exact ⟨selected, filters, next, projection, rows, sources, state, columns,
      parsed, built, selectedRows, rfl⟩

/-- A cached table resolves without changing the store. -/
theorem resolveTable_run_cached
    {sessionKs : Option String}
    {name : FQName}
    {keyspace : String}
    {table : TableDef}
    {store : Storage shards}
    (named : nameKeyspace sessionKs name = .ok keyspace)
    (cached : store.tables (keyspace, normId name.name) = some table) :
    (resolveTable json sessionKs name).run answer store =
      (.ok (keyspace, table), store) := by
  have looked :
      (internally (getTable json keyspace (normId name.name))).run answer
          store =
        (.ok (some table), store) :=
    (Program.run_mapFailure_eq_ok answer).mpr (getTable_run_cached cached)
  simp [resolveTable, named, Program.ofExcept,
    Program.run_bind_of_ok answer looked]

/-- A table that resolves once resolves again without changing the store. -/
theorem resolveTable_run_again
    {sessionKs : Option String}
    {name : FQName}
    {keyspace : String}
    {table : TableDef}
    {store next : Storage shards}
    (resolved :
      (resolveTable json sessionKs name).run answer store =
        (.ok (keyspace, table), next)) :
    (resolveTable json sessionKs name).run answer next =
      (.ok (keyspace, table), next) := by
  obtain ⟨named, found⟩ := resolveTable_eq_ok resolved
  exact resolveTable_run_cached named (tables_of_getTable found)

/-- A SELECT whose table exists does not miss it, and resolves it afterwards. -/
theorem missesVirtualTable_run
    {sessionKs : Option String}
    {name : FQName}
    {keyspace : String}
    {table : TableDef}
    {store next : Storage shards}
    (resolved :
      (resolveTable json sessionKs name).run answer store =
        (.ok (keyspace, table), next)) :
    ∃ middle,
      (missesVirtualTable json sessionKs name).run answer store =
          (.ok false, middle) ∧
        (resolveTable json sessionKs name).run answer middle =
          (.ok (keyspace, table), next) := by
  obtain ⟨named, found⟩ := resolveTable_eq_ok resolved
  by_cases isVirtual : keyspace = "system_virtual_schema"
  · subst isVirtual
    have looked :
        (internally (getTable json "system_virtual_schema"
            (normId name.name))).run answer store =
          (.ok (some table), next) :=
      (Program.run_mapFailure_eq_ok answer).mpr found
    refine ⟨next, ?_, resolveTable_run_again resolved⟩
    simp [missesVirtualTable, named, Except.toOption,
      Program.run_bind_of_ok answer looked]
  · refine ⟨store, ?_, resolved⟩
    simp [missesVirtualTable, named, Except.toOption, isVirtual]

/-- Where its table exists, a SELECT reads that table. -/
theorem execSelect_run
    {sessionKs : Option String}
    {sel : Select}
    {keyspace : String}
    {table : TableDef}
    {store next : Storage shards}
    (resolved :
      (resolveTable json sessionKs sel.tableName).run answer store =
        (.ok (keyspace, table), next))
    (binds : Binds)
    (pageSize : Option Int32)
    (pagingState : Option Bytes) :
    (execSelect json hexDecode sessionKs sel binds pageSize pagingState).run
        answer store =
      (selectFrom hexDecode keyspace table sel binds pageSize pagingState).run
        answer next := by
  obtain ⟨middle, present, again⟩ := missesVirtualTable_run resolved
  rw [execSelect, Program.run_bind_of_ok answer present]
  simp [Program.run_bind_of_ok answer again]

/-- A table with one key column and one regular column. -/
def kvTable : TableDef where
  keyspace := "bench"
  name := "kv"
  columns := [⟨"k", .int, true, false⟩, ⟨"v", .text, false, false⟩]
  partitionKeys := ["k"]
  clusteringKeys := []

/-- The name of `kvTable` in a statement. -/
def kvName : FQName where
  keyspace := some (.unquoted "bench")
  name := .unquoted "kv"

/-- `INSERT INTO bench.kv (k, v)` with the given values. -/
def kvInsert (operands : List Operand) : Statement :=
  .insert
    { tableName := kvName
      columns := [.unquoted "k", .unquoted "v"]
      values := .values operands }

/-- A serialisation for stores whose catalog is cached throughout. -/
def cachedJson : CatalogJson where
  keyspaceToVec := fun _ => []
  keyspaceFromSlice := fun _ => fail "EOF while parsing a value"
  tableToVec := fun _ => []
  tableFromSlice := fun _ => fail "EOF while parsing a value"

/-- An empty one-engine store that knows one table. -/
def storeWith (caching : Bool) (table : TableDef) : Storage 1 :=
  { Storage.fresh 1 false caching with
    tables := Function.update (fun _ => none) (table.keyspace, table.name)
      (some table) }

/-- Where `kvTable` is known, its name resolves to it. -/
theorem resolveTable_kvName (caching : Bool) :
    (resolveTable cachedJson none kvName).run answer
        (storeWith caching kvTable) =
      (.ok ("bench", kvTable), storeWith caching kvTable) := by
  have known :
      (storeWith caching kvTable).tables ("bench", "kv") = some kvTable := by
    simp [storeWith, kvTable]
  exact resolveTable_run_cached (by decide) known

end RhydaDB
