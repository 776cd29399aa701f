import RhydaDB.Catalog
import RhydaDB.StatementTexts

namespace RhydaDB

open ByteStrings AtomicPrograms Fallible Storage

/-!
# The texts of storage errors

The storage layer fails with fixed texts, with the texts of decoders, and with
those of the library that reads catalog records.  Only the last can be long, so
what a statement is told depends on the records it looks up: `lookupTable` and
`lookupKeyspace` are what the catalog answers in a state.
-/

namespace Storage

variable {shards : Nat} [NeZero shards]

/-- The table the catalog holds under a name. -/
def lookupTable
    (json : CatalogJson)
    (store : Storage shards)
    (keyspace table : String) :
    Outcome (Option TableDef) :=
  match store.tables (keyspace, table) with
  | some definition =>
      .ok (some definition)
  | none =>
      match (store.engines 0).db[tableKey keyspace table]? with
      | some bytes =>
          (json.tableFromSlice bytes).map some
      | none =>
          .ok none

/-- The keyspace the catalog holds under a name. -/
def lookupKeyspace
    (json : CatalogJson)
    (store : Storage shards)
    (name : String) :
    Outcome (Option KeyspaceDef) :=
  match store.keyspaces name with
  | some keyspace =>
      .ok (some keyspace)
  | none =>
      match (store.engines 0).db[keyspaceKey name]? with
      | some bytes =>
          (json.keyspaceFromSlice bytes).map some
      | none =>
          .ok none

/-- A later store in which every table is found as before. -/
def SameTables (json : CatalogJson) (store next : Storage shards) : Prop :=
  ∀ keyspace table,
    next.lookupTable json keyspace table = store.lookupTable json keyspace table

variable {json : CatalogJson}

/-- A keyspace is looked up in the catalog. -/
theorem getKeyspace_run (store : Storage shards) (name : String) :
    ((getKeyspace json name).run answer store).1 =
      store.lookupKeyspace json name := by
  unfold getKeyspace lookupKeyspace
  cases cached : store.keyspaces name with
  | some definition =>
      simp [atomically, answer, cached]
  | none =>
      cases found : (store.engines 0).db[keyspaceKey name]? with
      | none =>
          simp [atomically, RhydaDB.get, answer, cached, found]
      | some bytes =>
          cases decoded : json.keyspaceFromSlice bytes <;>
            simp [atomically, RhydaDB.get, answer, cached, found,
              Program.run_bind, decoded, Except.map]

/-- A table is looked up in the catalog. -/
theorem getTable_run (store : Storage shards) (keyspace table : String) :
    ((getTable json keyspace table).run answer store).1 =
      store.lookupTable json keyspace table := by
  unfold getTable lookupTable
  cases cached : store.tables (keyspace, table) with
  | some definition =>
      simp [atomically, answer, cached]
  | none =>
      cases found : (store.engines 0).db[tableKey keyspace table]? with
      | none =>
          simp [atomically, RhydaDB.get, answer, cached, found]
      | some bytes =>
          cases decoded : json.tableFromSlice bytes <;>
            simp [atomically, RhydaDB.get, answer, cached, found,
              Program.run_bind, decoded, Except.map]

/-- Looking a table up changes no lookup. -/
theorem getTable_sameTables (store : Storage shards) (keyspace table : String) :
    store.SameTables json ((getTable json keyspace table).run answer store).2 := by
  intro otherKeyspace otherTable
  unfold getTable
  cases cached : store.tables (keyspace, table) with
  | some definition =>
      simp [atomically, answer, cached]
  | none =>
      cases found : (store.engines 0).db[tableKey keyspace table]? with
      | none =>
          simp [atomically, RhydaDB.get, answer, cached, found]
      | some bytes =>
          cases decoded : json.tableFromSlice bytes with
          | error fault =>
              simp [atomically, RhydaDB.get, answer, cached, found,
                Program.run_bind, decoded]
          | ok definition =>
              simp only [atomically, RhydaDB.get, Program.perform_bind,
                Program.run_act, answer, cached, found, Program.run_bind,
                Program.run_ofExcept, decoded, Program.run_return]
              unfold lookupTable
              by_cases same : (otherKeyspace, otherTable) = (keyspace, table)
              · obtain ⟨rfl, rfl⟩ := Prod.mk.inj same
                simp [cached, found, decoded, Except.map]
              · simp only [Function.update_of_ne same]

theorem SameTables.trans
    {first second third : Storage shards}
    (before : first.SameTables json second)
    (after : second.SameTables json third) :
    first.SameTables json third :=
  fun keyspace table => (after keyspace table).trans (before keyspace table)

/-- A lookup reads one entry of the cache and one record. -/
theorem lookupTable_congr
    {store next : Storage shards}
    {keyspace table : String}
    (cached : next.tables (keyspace, table) = store.tables (keyspace, table))
    (recorded :
      (next.engines 0).db[tableKey keyspace table]? =
        (store.engines 0).db[tableKey keyspace table]?) :
    next.lookupTable json keyspace table =
      store.lookupTable json keyspace table := by
  unfold lookupTable
  rw [cached, recorded]

/-- A write to rows changes no lookup of a table. -/
theorem dbWrite_sameTables
    (store : Storage shards)
    (engine : Fin shards)
    {op : WriteOp}
    (onRows : op.OnRows) :
    store.SameTables json (store.answer (.dbWrite engine op)).1 := by
  intro keyspace table
  refine lookupTable_congr rfl ?_
  simp only [answer, setEngine_engines]
  split
  · rename_i same
    rw [← same]
    exact onRows _ _ (not_dtPrefix_prefix_tableKey keyspace table)
  · rfl

/-- A row written past its pipeline changes no lookup of a table. -/
theorem putRowSync_sameTables
    (store : Storage shards)
    (keyspace table : String)
    (keyParts : List Bytes)
    (value : Bytes) :
    store.SameTables json
      ((putRowSync keyspace table keyParts value :
        StorageProgram shards Fault Unit).run answer store).2 := by
  have isRow : dtPrefix <+: rowKey keyspace table keyParts := by
    simp [rowKey, dataPrefix]
  have written : store.SameTables json _ :=
    dbWrite_sameTables store
      (dataEngine keyspace table (firstPart keyParts))
      (WriteOp.onRows_put isRow value)
  unfold putRowSync
  simp only [atomically, Program.perform_bind, Program.run_act]
  split
  · exact written
  · exact written

end Storage

/-! ## Storage programs -/

section StoragePrograms

variable {shards : Nat}

/-- A storage program that fails with short texts only, whatever it is answered. -/
abbrev EndsShort {α : Type} (program : StorageProgram shards Fault α) : Prop :=
  program.Ends (fun _ => True) Fault.Short

/-- A finished computation with short texts. -/
theorem endsShort_ofExcept
    {α : Type}
    {outcome : Outcome α}
    (failsShort : FailsShort outcome) :
    EndsShort (.ofExcept outcome : StorageProgram shards Fault α) :=
  .ofExcept failsShort

/-- Queueing an operation fails with a fixed text. -/
theorem sendOp_endsShort (engine : Fin shards) (op : WriteOp) :
    EndsShort (sendOp engine op) := by
  rintro (_ | ticket)
  · show Fault.Short _
    decide
  · trivial

/-- Queueing an operation on several engines fails with a fixed text. -/
theorem sendToEach_endsShort (op : WriteOp) (engines : List (Fin shards)) :
    EndsShort (sendToEach op engines) := by
  induction engines with
  | nil =>
      trivial
  | cons engine rest inductionHypothesis =>
      refine (sendOp_endsShort engine op).bind fun ticket _ => ?_
      exact inductionHypothesis.bind fun tickets _ => trivial

/-- Queueing deletes does not fail. -/
theorem sendDeletes_endsShort
    (engine : Fin shards)
    (entries : List (Bytes × Bytes)) :
    EndsShort (sendDeletes engine entries) := by
  induction entries with
  | nil =>
      trivial
  | cons entry rest inductionHypothesis =>
      exact fun response => inductionHypothesis.bind fun tickets _ => trivial

/-- Queueing deletes under a prefix does not fail. -/
theorem sendDeletesUnder_endsShort
    (leading : Bytes)
    (engines : List (Fin shards)) :
    EndsShort (sendDeletesUnder leading engines) := by
  induction engines with
  | nil =>
      trivial
  | cons engine rest inductionHypothesis =>
      intro entries
      refine (sendDeletes_endsShort engine entries).bind fun tickets _ => ?_
      exact inductionHypothesis.bind fun later _ => trivial

variable [NeZero shards]

omit [NeZero shards] in
/-- Removing a range of rows fails with a fixed text. -/
theorem deleteDataPrefix_endsShort (leading : Bytes) :
    EndsShort (deleteDataPrefix leading :
      StorageProgram shards Fault (List (WriteTicket shards))) := by
  have cleared :
      ∀ tickets : List (WriteTicket shards),
        EndsShort (do
          if dtPrefix.isPrefixOf leading then
            atomically .cacheClear
          return tickets : StorageProgram shards Fault _) := by
    intro tickets
    split
    · exact fun _ => trivial
    · trivial
  unfold deleteDataPrefix
  cases prefixUpperBound leading with
  | some stop =>
      exact (sendToEach_endsShort _ _).bind fun tickets _ => cleared tickets
  | none =>
      exact (sendDeletesUnder_endsShort _ _).bind
        fun tickets _ => cleared tickets

/-- Deleting catalog records does not fail. -/
theorem deleteEach_endsShort (entries : List (Bytes × Bytes)) :
    EndsShort (deleteEach entries : StorageProgram shards Fault Unit) := by
  induction entries with
  | nil =>
      trivial
  | cons entry rest inductionHypothesis =>
      exact fun _ => inductionHypothesis

/-- Deleting catalog records under a prefix does not fail. -/
theorem deletePrefix_endsShort (leading : Bytes) :
    EndsShort (deletePrefix leading : StorageProgram shards Fault Unit) := by
  unfold deletePrefix
  split
  · exact fun _ => trivial
  · exact fun entries => deleteEach_endsShort _

/-- Removing a keyspace fails with a fixed text. -/
theorem deleteKeyspace_endsShort (name : String) :
    EndsShort (deleteKeyspace name :
      StorageProgram shards Fault (List (WriteTicket shards))) := by
  intro _
  refine (deletePrefix_endsShort _).bind fun _ _ => ?_
  exact (deleteDataPrefix_endsShort _).bind fun tickets _ =>
    fun _ _ => trivial

/-- Removing a table fails with a fixed text. -/
theorem deleteTable_endsShort (keyspace table : String) :
    EndsShort (deleteTable keyspace table :
      StorageProgram shards Fault (List (WriteTicket shards))) := by
  intro _
  exact (deleteDataPrefix_endsShort _).bind fun tickets _ => fun _ => trivial

/-- Writing a row fails with a fixed text. -/
theorem putRow_endsShort
    (keyspace table : String)
    (keyParts : List Bytes)
    (value : Bytes) :
    EndsShort (putRow keyspace table keyParts value :
      StorageProgram shards Fault (WriteTicket shards)) := by
  unfold putRow
  split
  · exact fun _ => sendOp_endsShort _ _
  · exact sendOp_endsShort _ _

/-- Deleting a row fails with a fixed text. -/
theorem deleteRow_endsShort
    (keyspace table : String)
    (keyParts : List Bytes) :
    EndsShort (deleteRow keyspace table keyParts :
      StorageProgram shards Fault (WriteTicket shards)) := by
  unfold deleteRow
  split
  · exact fun _ => sendOp_endsShort _ _
  · exact sendOp_endsShort _ _

/-- Reading a row does not fail. -/
theorem getRow_endsShort
    (keyspace table : String)
    (keyParts : List Bytes) :
    EndsShort (getRow keyspace table keyParts :
      StorageProgram shards Fault (Option Bytes)) := by
  have read :
      ∀ found,
        EndsShort (refillCache keyspace (rowKey keyspace table keyParts) found :
          StorageProgram shards Fault Unit) := by
    rintro (_ | value)
    · trivial
    · rw [refillCache]
      split
      · exact fun _ => trivial
      · trivial
  have missed :
      EndsShort (do
        let found ←
          atomically (.dbGet (dataEngine keyspace table (firstPart keyParts))
            (rowKey keyspace table keyParts))
        refillCache keyspace (rowKey keyspace table keyParts) found
        return found : StorageProgram shards Fault (Option Bytes)) :=
    fun found => (read found).bind fun _ _ => trivial
  unfold getRow cachedRow
  split
  · rintro (_ | value)
    · exact missed
    · trivial
  · exact missed

/-- Writing a row past its pipeline does not fail. -/
theorem putRowSync_endsShort
    (keyspace table : String)
    (keyParts : List Bytes)
    (value : Bytes) :
    EndsShort (putRowSync keyspace table keyParts value :
      StorageProgram shards Fault Unit) := by
  intro _
  split
  · exact fun _ => trivial
  · trivial

/-- Deleting a row past its pipeline does not fail. -/
theorem deleteRowSync_endsShort
    (keyspace table : String)
    (keyParts : List Bytes) :
    EndsShort (deleteRowSync keyspace table keyParts :
      StorageProgram shards Fault Unit) := by
  intro _
  split
  · exact fun _ => trivial
  · trivial

/-- Deleting mirror rows fails with a short text. -/
theorem deleteSystemSchemaRows_endsShort
    (table : String)
    (entries : List (Bytes × Bytes)) :
    EndsShort (deleteSystemSchemaRows table entries :
      StorageProgram shards Fault Unit) := by
  induction entries with
  | nil =>
      trivial
  | cons entry rest inductionHypothesis =>
      obtain ⟨key, value⟩ := entry
      refine (endsShort_ofExcept (decodeKey_failsShort _ table key)).bind
        fun parts _ => ?_
      exact (deleteRowSync_endsShort _ table parts).bind
        fun _ _ => inductionHypothesis

/-- Deleting a partition of the mirror fails with a short text. -/
theorem deleteSystemSchemaPartition_endsShort
    (table : String)
    (partitionKey : List Bytes) :
    EndsShort (deleteSystemSchemaPartition table partitionKey :
      StorageProgram shards Fault Unit) :=
  fun _ => deleteSystemSchemaRows_endsShort table _

/-- Deleting partitions of the mirror fails with a short text. -/
theorem deleteSystemSchemaPartitions_endsShort
    (partitionKey : List Bytes)
    (tables : List String) :
    EndsShort (deleteSystemSchemaPartitions partitionKey tables :
      StorageProgram shards Fault Unit) := by
  induction tables with
  | nil =>
      trivial
  | cons table rest inductionHypothesis =>
      exact (deleteSystemSchemaPartition_endsShort table partitionKey).bind
        fun _ _ => inductionHypothesis

/-- Removing a table from the mirror fails with a short text. -/
theorem unmirrorTableMetadata_endsShort (keyspace table : String) :
    EndsShort (unmirrorTableMetadata keyspace table :
      StorageProgram shards Fault Unit) :=
  (deleteRow_endsShort _ _ _).bind fun _ _ =>
    deleteSystemSchemaPartition_endsShort _ _

/-! ### Reading rows -/

/-- What a scan has gathered holds a short text, if it holds a fault. -/
def ScanState.Short (state : ScanState) : Prop :=
  ∀ fault, state.errorSlot = some fault → fault.Short

/-- Visiting an entry leaves a short text, if it leaves a fault. -/
theorem ScanState.Short.visit
    {state : ScanState}
    (short : state.Short)
    (projection : Projection)
    (keyspace : String)
    (pagingState : Option Bytes)
    (limit : Nat)
    (key value : Bytes) :
    (state.visit projection keyspace pagingState limit key value).1.Short := by
  have handled : (state.handleEntry projection keyspace limit key value).1.Short := by
    have decodes :
        FailsShort
          ((decodeKey keyspace projection.table.name key).bind fun keyParts =>
            projection.projectDecoded keyParts value) :=
      (decodeKey_failsShort _ _ key).bind fun keyParts _ =>
        projection.projectDecoded_failsShort keyParts value
    unfold handleEntry
    split
    · exact short
    · exact short
    · rename_i fault failed
      intro other found
      cases present : state.errorSlot with
      | some earlier =>
          simp only [present, Option.some_or, Option.some.injEq] at found
          exact found ▸ short earlier present
      | none =>
          simp only [present, Option.none_or, Option.some.injEq] at found
          exact found ▸ decodes fault failed
  unfold ScanState.visit
  split
  · exact short
  · split
    · exact short
    · simp only
      split
      · split
        · exact handled
        · exact handled
      · exact handled

/-- Visiting entries leaves a short text, if it leaves a fault. -/
theorem ScanState.Short.visitEntries
    {state : ScanState}
    (short : state.Short)
    (projection : Projection)
    (keyspace : String)
    (pagingState : Option Bytes)
    (limit : Nat)
    (entries : List (Bytes × Bytes)) :
    (RhydaDB.visitEntries (ScanState.visit projection keyspace pagingState limit)
      state entries).1.Short := by
  induction entries generalizing state with
  | nil =>
      exact short
  | cons entry rest inductionHypothesis =>
      obtain ⟨key, value⟩ := entry
      have next := short.visit projection keyspace pagingState limit key value
      rw [RhydaDB.visitEntries]
      split
      · exact inductionHypothesis next
      · exact next

section Scans

variable
  (projection : Projection)
  (keyspace : String)
  (pagingState : Option Bytes)
  (limit : Nat)

/-- Scanning partitions gathers a short text, if it gathers a fault. -/
theorem scanPartitions_ends
    (table : String)
    (partitions : List (List Bytes))
    {state : ScanState}
    (short : state.Short) :
    (scanPartitions keyspace table limit
      (ScanState.visit projection keyspace pagingState limit) partitions state :
        StorageProgram shards Fault ScanState).Ends ScanState.Short Fault.Short := by
  induction partitions generalizing state with
  | nil =>
      exact short
  | cons partition rest inductionHypothesis =>
      intro entries
      have restarted : ScanState.Short { state with done := false } :=
        short
      have next :=
        restarted.visitEntries projection keyspace pagingState limit entries
      show Program.Ends ScanState.Short Fault.Short (ite _ _ _)
      split
      · exact next
      · exact inductionHypothesis next

omit [NeZero shards] in
/-- Scanning engines gathers a short text, if it gathers a fault. -/
theorem forEachOnEngines_ends
    (leading : Bytes)
    (engines : List (Fin shards))
    {state : ScanState}
    (short : state.Short) :
    (forEachOnEngines leading
      (ScanState.visit projection keyspace pagingState limit) engines state).Ends
        ScanState.Short Fault.Short := by
  induction engines generalizing state with
  | nil =>
      exact short
  | cons engine rest inductionHypothesis =>
      intro entries
      have next :=
        short.visitEntries projection keyspace pagingState limit entries
      show Program.Ends ScanState.Short Fault.Short (ite _ _ _)
      split
      · exact inductionHypothesis next
      · exact next

/-- Reading the rows of a SELECT fails with a short text. -/
theorem selectRows_endsShort
    (filters : List Filter)
    (pageSize limit : Option Int32) :
    EndsShort (selectRows projection keyspace filters pageSize limit pagingState :
      StorageProgram shards Fault
        (List (List Value) × List Bytes × Option Bytes)) := by
  have start : ScanState.start.Short := by
    intro fault found
    cases found
  unfold selectRows
  split
  · rename_i keyParts _
    have found :
        EndsShort (selectPoint projection keyspace keyParts :
          StorageProgram shards Fault (List (List Value) × List Bytes)) := by
      refine (getRow_endsShort keyspace _ keyParts).bind fun stored _ => ?_
      cases stored with
      | none =>
          trivial
      | some bytes =>
          refine (endsShort_ofExcept
            (projection.projectPoint_failsShort keyParts bytes)).bind
              fun row _ => ?_
          cases row with
          | none =>
              trivial
          | some row =>
              trivial
    exact found.bind fun rows _ => trivial
  · have scanned :
        (scanRowsMatching projection keyspace filters pagingState
          (pageLimit pageSize limit) : StorageProgram shards Fault ScanState).Ends
            ScanState.Short Fault.Short := by
      unfold scanRowsMatching
      simp only
      split
      · exact scanPartitions_ends projection keyspace pagingState _ _ _ start
      · exact forEachOnEngines_ends projection keyspace pagingState _ _ _ start
    refine scanned.bind fun state short => ?_
    cases slot : state.errorSlot with
    | some fault =>
        exact short fault slot
    | none =>
        trivial

end Scans

end StoragePrograms

/-! ## Internal errors -/

/-- A fault that can be reported as an internal error. -/
def Fault.Internal (fault : Fault) : Prop :=
  (internalErr fault).Reportable

/-- A lookup that can be reported if the record cannot be read. -/
def LookupFits {α : Type} (found : Outcome α) : Prop :=
  FailsWith Fault.Internal found

section Internal

variable {shards : Nat} [NeZero shards] {json : CatalogJson}

omit [NeZero shards] in
/-- Short texts can be reported as internal errors. -/
theorem internal_of_endsShort
    {α : Type}
    {program : StorageProgram shards Fault α}
    (short : EndsShort program)
    (store : Storage shards) :
    FailsWith Fault.Internal (program.run answer store).1 :=
  fun fault failed => (short.run answer store fault failed).internalErr

omit [NeZero shards] in
/-- An internal error can be reported just if the fault can. -/
theorem internally_reportable
    {α : Type}
    {program : StorageProgram shards Fault α}
    {store : Storage shards} :
    FailsWith QueryFault.Reportable ((internally program).run answer store).1 ↔
      FailsWith Fault.Internal (program.run answer store).1 := by
  rw [internally, Program.run_mapFailure]
  exact FailsWith.mapError_iff

/-- A mirror row's missing column is named by a fixed text. -/
theorem systemSchemaCells_failsShort
    (definition : TableDef)
    {columns : List (String × Value)}
    (named :
      ∀ name ∈ columns.map Prod.fst,
        Fault.Short (.error s!"column {name} missing")) :
    FailsShort (columns.mapM (systemSchemaCell definition)) := by
  refine .mapM fun column member => ?_
  rw [systemSchemaCell]
  split
  · exact .ok _
  · exact .error (named column.1 (List.mem_map_of_mem member))

section Row

variable
  (store : Storage shards)
  (table : String)
  (primaryKey : List String)
  {columns : List (String × Value)}

/-- Writing a mirror row can be reported just if its table's record can. -/
theorem putSystemSchemaRow_internal
    (missing : Fault.Short (.error s!"system_schema.{table} missing"))
    (named :
      ∀ name ∈ columns.map Prod.fst,
        Fault.Short (.error s!"column {name} missing")) :
    FailsWith Fault.Internal
        ((putSystemSchemaRow json table primaryKey columns).run answer store).1 ↔
      LookupFits (store.lookupTable json "system_schema" table) := by
  unfold putSystemSchemaRow
  rw [Program.failsWith_run_bind, getTable_run]
  refine and_iff_left fun found next _ => ?_
  cases found with
  | none =>
      exact .error missing.internalErr
  | some definition =>
      refine internal_of_endsShort (.bind (endsShort_ofExcept
        (systemSchemaCells_failsShort definition named)) fun row _ => ?_) next
      exact putRowSync_endsShort _ _ _ _

/-- Writing a mirror row changes no lookup. -/
theorem putSystemSchemaRow_sameTables
    {outcome : Outcome Unit}
    {final : Storage shards}
    (ran :
      (putSystemSchemaRow json table primaryKey columns).run answer store =
        (outcome, final)) :
    store.SameTables json final := by
  have looked : store.SameTables json _ :=
    getTable_sameTables store "system_schema" table
  have moved :
      ((putSystemSchemaRow json table primaryKey columns).run answer store).2 =
        final :=
    congrArg Prod.snd ran
  rw [← moved, putSystemSchemaRow, Program.run_bind]
  rcases found : (getTable json "system_schema" table).run answer store with
    ⟨_ | _ | definition, next⟩
  · rw [found] at looked
    exact looked
  · rw [found] at looked
    exact looked
  · rw [found] at looked
    simp only [Program.run_bind, Program.run_ofExcept]
    cases columns.mapM (systemSchemaCell definition) with
    | error fault =>
        exact looked
    | ok row =>
        exact looked.trans (putRowSync_sameTables next _ _ _ _)

/-- A mirror row is written just if its table has all of its columns. -/
theorem putSystemSchemaRow_succeeds :
    (∃ next,
        (putSystemSchemaRow json table primaryKey columns).run answer store =
          (.ok (), next)) ↔
      ∃ definition row,
        store.lookupTable json "system_schema" table = .ok (some definition) ∧
          columns.mapM (systemSchemaCell definition) = .ok row := by
  rw [← getTable_run]
  unfold putSystemSchemaRow
  rw [Program.run_bind]
  rcases (getTable json "system_schema" table).run answer store with
    ⟨_ | _ | definition, next⟩
  · simp
  · simp
  · simp only [Program.run_bind, Program.run_ofExcept, Except.ok.injEq,
      Option.some.injEq, exists_and_left, exists_eq_left']
    cases columns.mapM (systemSchemaCell definition) with
    | error fault =>
        simp
    | ok row =>
        simp [putRowSync, atomically, shouldCache]

end Row

end Internal

end RhydaDB
