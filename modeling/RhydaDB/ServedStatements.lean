import RhydaDB.ReadableRows
import RhydaDB.WrittenRows

namespace RhydaDB

open ByteStrings AtomicPrograms Program Storage

/-!
# Statements on stores that serve a catalog

Each statement that leaves the catalog alone is judged by its own text, its
values and the catalog: `Statement.verdict` computes, without any access to a
store, whether the statement is refused and with which error.  Whatever else
happens to the store between its accesses, the statement keeps the rows of the
store readable and ends as its verdict says.
-/

variable
  {shards : Nat} [NeZero shards]
  {json : CatalogJson}
  {catalog : Catalog}
  {α : Type}

/-- The program keeps a store that serves the catalog, beside any other that does. -/
abbrev Serving
    {Failure : Type}
    (json : CatalogJson)
    (catalog : Catalog)
    (program : StorageProgram shards Failure α)
    (post : α → Prop)
    (abort : Failure → Prop) :
    Prop :=
  program.Guarantees answer (Serves json catalog) post abort

/-- A store that serves the catalog may answer the action like this. -/
abbrev MayRespond
    (json : CatalogJson)
    (catalog : Catalog)
    (action : StorageAction shards)
    (response : StorageResponse action) :
    Prop :=
  Guarantees.Possible answer (Serves json catalog) action response

/-! ## Single accesses -/

/-- A value found in the row cache is readable. -/
theorem MayRespond.cacheGet
    {key bytes : Bytes}
    (responds :
      MayRespond json catalog (.cacheGet key : StorageAction shards)
        (some bytes)) :
    catalog.Reads key bytes := by
  obtain ⟨store, serves, found⟩ := responds
  exact serves.cached key bytes found

/-- A value found in an engine is readable. -/
theorem MayRespond.dbGet
    {engine : Fin shards}
    {key bytes : Bytes}
    (responds : MayRespond json catalog (.dbGet engine key) (some bytes)) :
    catalog.Reads key bytes := by
  obtain ⟨store, serves, found⟩ := responds
  exact serves.stored engine key bytes found

/-- The entries found under a prefix are readable. -/
theorem MayRespond.dbScan
    {engine : Fin shards}
    {leading : Bytes}
    {entries : List (Bytes × Bytes)}
    (responds : MayRespond json catalog (.dbScan engine leading) entries) :
    ∀ entry ∈ entries, leading <+: entry.1 ∧ catalog.Reads entry.1 entry.2 := by
  obtain ⟨store, serves, rfl⟩ := responds
  intro entry member
  obtain ⟨under, here⟩ := ByteMap.mem_scanStem.mp member
  exact ⟨under, serves.stored engine entry.1 entry.2 here⟩

/-- A send is accepted. -/
theorem MayRespond.send
    {engine : Fin shards}
    {op : WriteOp}
    {response : Option (WriteTicket shards)}
    (responds : MayRespond json catalog (.send engine op) response) :
    response.isSome = true := by
  obtain ⟨store, serves, rfl⟩ := responds
  simp [Storage.answer, serves.catalogued.isOpen.send engine op]

/-- An access without harm, followed by what each response leads to. -/
theorem serving_act
    {Failure : Type}
    {post : α → Prop}
    {abort : Failure → Prop}
    {action : StorageAction shards}
    {next : StorageResponse action → StorageProgram shards Failure α}
    (harmless : ¬ action.Harms catalog)
    (later :
      ∀ response,
        MayRespond json catalog action response →
        Serving json catalog (next response) post abort) :
    Serving json catalog (.act action next) post abort :=
  .act (fun _ serves => serves.answer harmless) later

/-- A storage program that cannot fail ends a statement in no error either. -/
theorem serving_internally
    {program : StorageProgram shards Fault α}
    {post : α → Prop}
    {abort : QueryFault → Prop}
    (serving : Serving json catalog program post fun _ => False) :
    Serving json catalog (internally program) post abort :=
  .mapFailure (serving.mono (fun _ => id) fun _ => False.elim)

/-! ## Looking definitions up -/

/-- Looking a table up finds the catalog's. -/
theorem getTable_serving
    (roundTrips : json.RoundTrips)
    (keyspace table : String) :
    Serving json catalog
      (getTable json keyspace table : StorageProgram shards Fault _)
      (fun found => found = catalog.find keyspace table)
      (fun _ => False) := by
  simp only [getTable, RhydaDB.get, atomically, perform_bind]
  by_cases named : BangFree keyspace ∧ BangFree table
  · let name : TableName := ⟨keyspace, table, named.1, named.2⟩
    have isFound : catalog.find keyspace table = catalog.tables name :=
      catalog.find_name name
    refine serving_act id fun response responds => ?_
    obtain ⟨store, serves, looked⟩ := responds
    cases response with
    | some definition =>
        exact (isFound.trans (serves.catalogued.tableCached name _ looked)).symm
    | none =>
        refine serving_act id fun bytes recorded => ?_
        obtain ⟨later, servesLater, read⟩ := recorded
        have record : bytes = (catalog.tables name).map json.tableToVec :=
          read.symm.trans (servesLater.catalogued.tableRecord name)
        subst record
        cases exists_ : catalog.tables name with
        | none =>
            exact (isFound.trans exists_).symm
        | some definition =>
            have unchanged : catalog.putTable name definition = catalog := by
              simp [Catalog.putTable, ← exists_]
            simp only [Option.map_some, roundTrips.table, Program.ofExcept,
              return_bind]
            refine .act (fun last servesLast => ?_)
              fun _ _ => (isFound.trans exists_).symm
            have inserted :=
              servesLast.catalogued.insertTable name definition
            rw [unchanged] at inserted
            exact ⟨inserted, servesLast.stored, servesLast.queued,
              servesLast.cached⟩
  · have isFound : catalog.find keyspace table = none :=
      Catalog.find_unnamed named
    refine serving_act id fun response responds => ?_
    obtain ⟨store, serves, looked⟩ := responds
    have missed : response = none :=
      looked.symm.trans
        (serves.catalogued.unnamedCached keyspace table named)
    subst missed
    refine serving_act id fun bytes recorded => ?_
    obtain ⟨later, servesLater, read⟩ := recorded
    have noRecord : bytes = none :=
      read.symm.trans
        (servesLater.catalogued.unnamedRecord keyspace table named)
    subst noRecord
    exact isFound.symm

/-- Looking a keyspace up finds the catalog's. -/
theorem getKeyspace_serving
    (roundTrips : json.RoundTrips)
    (name : String) :
    Serving json catalog
      (getKeyspace json name : StorageProgram shards Fault _)
      (fun found => found = catalog.keyspaces name)
      (fun _ => False) := by
  simp only [getKeyspace, RhydaDB.get, atomically, perform_bind]
  refine serving_act id fun response responds => ?_
  obtain ⟨store, serves, looked⟩ := responds
  cases response with
  | some keyspace =>
      exact (serves.catalogued.keyspaceCached name _ looked).symm
  | none =>
      refine serving_act id fun bytes recorded => ?_
      obtain ⟨later, servesLater, read⟩ := recorded
      have record : bytes = (catalog.keyspaces name).map json.keyspaceToVec :=
        read.symm.trans (servesLater.catalogued.keyspaceRecord name)
      subst record
      cases exists_ : catalog.keyspaces name with
      | none =>
          exact rfl
      | some keyspace =>
          have unchanged : catalog.putKeyspace name keyspace = catalog := by
            simp [Catalog.putKeyspace, ← exists_]
          simp only [Option.map_some, roundTrips.keyspace, Program.ofExcept,
            return_bind]
          refine .act (fun last servesLast => ?_) fun _ _ => rfl
          have inserted :=
            servesLast.catalogued.insertKeyspace name keyspace
          rw [unchanged] at inserted
          exact ⟨inserted, servesLast.stored, servesLast.queued,
            servesLast.cached⟩

/-! ## Reading and writing rows -/

/-- Sending an operation on readable rows succeeds. -/
theorem sendOp_serving
    (engine : Fin shards)
    {op : WriteOp}
    (onRows : op.OnRows)
    (readable : op.Readable catalog) :
    Serving json catalog (sendOp engine op) (fun _ => True) (fun _ => False) := by
  refine serving_act (not_not.mpr ⟨onRows, readable⟩) fun response responds => ?_
  cases response with
  | none =>
      cases responds.send
  | some ticket =>
      trivial

/-- So does sending it to several engines. -/
theorem sendToEach_serving
    {op : WriteOp}
    (onRows : op.OnRows)
    (readable : op.Readable catalog)
    (engines : List (Fin shards)) :
    Serving json catalog (sendToEach op engines) (fun _ => True)
      (fun _ => False) := by
  induction engines with
  | nil =>
      trivial
  | cons engine rest inductionHypothesis =>
      refine .bind (sendOp_serving engine onRows readable) fun _ _ => ?_
      exact .bind inductionHypothesis fun _ _ => trivial

/-- A row key is a key of rows. -/
theorem dtPrefix_prefix_rowKey (keyspace table : String) (keyParts : List Bytes) :
    dtPrefix <+: rowKey keyspace table keyParts :=
  (List.prefix_append _ _).trans
    (List.prefix_append (dataPrefix keyspace table) (encodeKey keyParts))

/-- Writing a readable row succeeds. -/
theorem putRow_serving
    {keyspace table : String}
    {keyParts : List Bytes}
    {value : Bytes}
    (readable : catalog.Reads (rowKey keyspace table keyParts) value) :
    Serving json catalog
      (putRow keyspace table keyParts value : StorageProgram shards Fault _)
      (fun _ => True) (fun _ => False) := by
  have sends :
      Serving json catalog
        (writeDataOp keyspace table keyParts
          (.put (rowKey keyspace table keyParts) value) :
          StorageProgram shards Fault _)
        (fun _ => True) (fun _ => False) :=
    sendOp_serving _
      (WriteOp.onRows_put (dtPrefix_prefix_rowKey keyspace table keyParts) value)
      readable
  unfold putRow
  dsimp only
  split
  · exact serving_act (not_not.mpr readable) fun _ _ => sends
  · exact sends

/-- Deleting a row succeeds. -/
theorem deleteRow_serving
    (keyspace table : String)
    (keyParts : List Bytes) :
    Serving json catalog
      (deleteRow keyspace table keyParts : StorageProgram shards Fault _)
      (fun _ => True) (fun _ => False) := by
  have sends :
      Serving json catalog
        (writeDataOp keyspace table keyParts
          (.delete (rowKey keyspace table keyParts)) :
          StorageProgram shards Fault _)
        (fun _ => True) (fun _ => False) :=
    sendOp_serving _
      (WriteOp.onRows_delete (dtPrefix_prefix_rowKey keyspace table keyParts))
      trivial
  unfold deleteRow
  dsimp only
  split
  · exact serving_act id fun _ _ => sends
  · exact sends

/-- Truncating a table succeeds. -/
theorem truncateTable_serving (keyspace table : String) :
    Serving json catalog
      (truncateTable keyspace table : StorageProgram shards Fault _)
      (fun _ => True) (fun _ => False) := by
  have stem :
      dataPrefix keyspace table =
        (dtPrefix ++ utf8 keyspace ++ [bang] ++ utf8 table) ++ [bang] := by
    simp [dataPrefix]
  have isRow :
      dtPrefix <+: (dtPrefix ++ utf8 keyspace ++ [bang] ++ utf8 table) ++ [bang] := by
    simp only [List.append_assoc]
    exact List.prefix_append _ _
  have bound :=
    prefixUpperBound_append (dtPrefix ++ utf8 keyspace ++ [bang] ++ utf8 table)
      (by decide : bang < 0xFF)
  rw [truncateTable, deleteDataPrefix, stem, bound,
    List.isPrefixOf_iff_prefix.mpr isRow]
  refine .bind
    (sendToEach_serving (WriteOp.onRows_deleteRange isRow) trivial _)
    fun _ _ => ?_
  exact serving_act id fun _ _ => trivial

/-- A looked up row is readable. -/
theorem getRow_serving
    (keyspace table : String)
    (keyParts : List Bytes) :
    Serving json catalog
      (getRow keyspace table keyParts : StorageProgram shards Fault _)
      (fun found =>
        ∀ bytes,
          found = some bytes →
          catalog.Reads (rowKey keyspace table keyParts) bytes)
      (fun _ => False) := by
  have fromEngine :
      Serving json catalog
        (do
          let found ←
            atomically
              (.dbGet (dataEngine keyspace table (firstPart keyParts))
                (rowKey keyspace table keyParts))
          refillCache keyspace (rowKey keyspace table keyParts) found
          return found : StorageProgram shards Fault _)
        (fun found =>
          ∀ bytes,
            found = some bytes →
            catalog.Reads (rowKey keyspace table keyParts) bytes)
        (fun _ => False) := by
    refine serving_act id fun found responds => ?_
    cases found with
    | none =>
        exact nofun
    | some bytes =>
        have readable := responds.dbGet
        have isReadable :
            ∀ other,
              some bytes = some other →
              catalog.Reads (rowKey keyspace table keyParts) other := by
          rintro other ⟨⟩
          exact readable
        dsimp only [Program.pure_bind, refillCache]
        split
        · exact serving_act (not_not.mpr readable) fun _ _ => isReadable
        · exact isReadable
  unfold getRow cachedRow
  dsimp only
  split
  · refine serving_act id fun hit responds => ?_
    cases hit with
    | none =>
        exact fromEngine
    | some bytes =>
        rintro other ⟨⟩
        exact responds.cacheGet
  · exact fromEngine

end RhydaDB
