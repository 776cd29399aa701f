import RhydaDB.SequentialStore

namespace RhydaDB

open ByteStrings AtomicPrograms FiniteRuns Storage

/-!
# The contract of the sharded store

Over any number of engines, with or without the row cache, and under every
schedule of the background threads, a sequence of settled calls leaves a store
that reads exactly as the abstract row map does.
-/

variable {shards : Nat} [NeZero shards]

namespace Represents

variable
  {store : Storage shards}
  {rows : RowMap}

/-- Removing a catalog key first changes nothing about what follows. -/
theorem performs_after_delete
    (represents : Represents store rows)
    {key : Bytes}
    (catalog : ¬ dtPrefix <+: key)
    {program : StorageProgram shards Fault (List (WriteTicket shards))}
    {after : RowMap}
    (performs :
      ∀ next : Storage shards,
        Represents next rows →
        Performs program next after) :
    Performs (delete key >>= fun _ => program) store after :=
  performs _ (represents.metadata 0 (metadata_delete catalog))

/-- Range-deleting a table's prefix removes the rows of the table. -/
theorem performs_removeTable
    (represents : Represents store rows)
    (name : TableName) :
    Performs (truncateTable name.keyspace name.table) store
      (fun address =>
        if address.toTableName = name then none else rows address) := by
  have removed :
      Performs (truncateTable name.keyspace name.table) store
        (fun address =>
          if name.dataPrefix <+: address.key then none else rows address) :=
    represents.performs_removeUnder (by simp [dtPrefix])
  simpa only [dataPrefix_prefix_key_iff, eq_comm] using removed

/-- Range-deleting a keyspace's prefix removes the rows of the keyspace. -/
theorem performs_removeKeyspace
    (represents : Represents store rows)
    {keyspace : String}
    (free : BangFree keyspace) :
    Performs (deleteDataPrefix (keyspaceDataPrefix keyspace)) store
      (fun address =>
        if address.keyspace = keyspace then none else rows address) := by
  have removed :
      Performs (deleteDataPrefix (keyspaceDataPrefix keyspace)) store
        (fun address =>
          if keyspaceDataPrefix keyspace <+: address.key then
            none
          else
            rows address) :=
    represents.performs_removeUnder (by simp [dtPrefix])
  simpa only [keyspaceDataPrefix_prefix_key_iff free, eq_comm] using removed

/-- Every call runs to completion and has its abstract effect. -/
theorem performs
    (represents : Represents store rows)
    (json : CatalogJson)
    (call : StorageCall) :
    Performs (call.program json) store (call.apply rows) := by
  cases call with
  | putRow address value =>
      apply represents.performs_queueRow (setsRow_put address value)
        (fun entries key => setsRow_put address value entries key)
      exact Program.run_bind_of_ok answer
        (putRow_run represents.isOpen address value)
  | deleteRow address =>
      apply represents.performs_queueRow (setsRow_delete address)
        (fun entries key => setsRow_delete address entries key)
      exact Program.run_bind_of_ok answer
        (deleteRow_run represents.isOpen address)
  | putRowSync address value =>
      have written :=
        represents.writeRow (setsRow_put address value)
          (fun entries key => setsRow_put address value entries key)
      apply written.performs_of_quiet
      cases caches : shouldCache address.keyspace <;>
        simp [StorageCall.program, putRowSync, atomically, caches, changeCache]
          <;> rfl
  | deleteRowSync address =>
      have written :=
        represents.writeRow (setsRow_delete address)
          (fun entries key => setsRow_delete address entries key)
      apply written.performs_of_quiet
      cases caches : shouldCache address.keyspace <;>
        simp [StorageCall.program, deleteRowSync, atomically, caches,
          changeCache]
          <;> rfl
  | getRow address =>
      obtain ⟨next, ran, read⟩ := represents.getRow address
      apply read.performs_of_quiet
      exact Program.run_bind_of_ok answer ran
  | truncateTable name =>
      exact represents.performs_removeTable name
  | deleteTable name =>
      apply represents.performs_after_delete
        (not_dtPrefix_prefix_of_head (by decide))
      intro next nextRepresents
      apply (nextRepresents.performs_removeTable name).bind
      intro tickets sent
      exact ⟨_, rfl, rfl, rfl⟩
  | deleteKeyspace keyspace free =>
      apply represents.performs_after_delete
        (not_dtPrefix_prefix_of_head (by decide))
      intro next nextRepresents
      have bound :
          prefixUpperBound (tbPrefix ++ utf8 keyspace ++ [bang]) =
            some (tbPrefix ++ utf8 keyspace ++ [bang + 1]) :=
        prefixUpperBound_append _ (by decide)
      have emptied :=
        nextRepresents.metadata 0 (metadata_deleteRange (utf8 keyspace))
      simp only [deletePrefix, bound]
      apply (emptied.performs_removeKeyspace free).bind
      intro tickets sent
      exact ⟨_, rfl, rfl, rfl⟩
  | putKeyspace keyspace =>
      have written :=
        represents.metadata 0
          (metadata_put
            (not_dtPrefix_prefix_of_head (by decide) :
              ¬ dtPrefix <+: keyspaceKey keyspace.name)
            (json.keyspaceToVec keyspace))
      refine ⟨[], _, rfl, ?_, ?_⟩
      · exact ⟨written.isOpen, written.stores, written.cached⟩
      · refine ⟨fun engine => .inl (written.quiet engine), ?_⟩
        intro ticket member
        cases member
  | putTable table =>
      have written :=
        represents.metadata 0
          (metadata_put
            (not_dtPrefix_prefix_of_head (by decide) :
              ¬ dtPrefix <+: tableKey table.keyspace table.name)
            (json.tableToVec table))
      refine ⟨[], _, rfl, ?_, ?_⟩
      · exact ⟨written.isOpen, written.stores, written.cached⟩
      · refine ⟨fun engine => .inl (written.quiet engine), ?_⟩
        intro ticket member
        cases member

/-- A settled call has its abstract effect. -/
theorem settledStep
    (represents : Represents store rows)
    {json : CatalogJson}
    {step : SettledCall shards}
    {next : Storage shards}
    (taken : settledStep? json store step = some next) :
    Represents next (step.call.apply rows) := by
  obtain ⟨tickets, sent, ran, refines, awaits⟩ :=
    represents.performs json step.call
  simp only [settledStep?, ran, Option.bind_eq_some_iff] at taken
  obtain ⟨settled, background, done⟩ := taken
  split at done
  · rename_i complete
    cases done
    exact refines.settle awaits (refines.isOpen.settles background) complete
  · cases done

/-- Every call can be settled. -/
theorem exists_settledStep
    (represents : Represents store rows)
    (json : CatalogJson)
    (call : StorageCall) :
    ∃ schedule next,
      settledStep? json store ⟨call, schedule⟩ = some next := by
  obtain ⟨tickets, sent, ran, refines, awaits⟩ :=
    represents.performs json call
  obtain ⟨schedule, final, background, complete⟩ :=
    refines.isOpen.exists_completion awaits.accepted
  refine ⟨schedule, final, ?_⟩
  simp only [settledStep?, ran, background, Option.bind_some, complete,
    ↓reduceIte]

end Represents

/-- A fresh store represents the empty map. -/
theorem represents_fresh
    (writeSync caching : Bool) :
    Represents (Storage.fresh shards writeSync caching) (fun _ => none) := by
  refine ⟨⟨?_, ⟨?_, ?_⟩, ?_⟩, ?_⟩
  · intro engine
    exact ⟨Pipeline.ordered_start writeSync ∅, rfl⟩
  · intro engine address
    simp [Storage.fresh, Pipeline.settled, Pipeline.start, Pipeline.inFlight,
      Pipeline.committerBatch, Pipeline.collectorBatch, applyOps]
  · intro engine key value isData present
    simp [Storage.fresh, Pipeline.settled, Pipeline.start, Pipeline.inFlight,
      Pipeline.committerBatch, Pipeline.collectorBatch, applyOps] at present
  · intro entries present address value isCached
    cases caching with
    | false =>
        cases present
    | true =>
        cases present
        simp at isCached
  · intro engine
    rfl

/-- A run of settled calls ends in a store that represents their effect. -/
theorem represents_run
    {json : CatalogJson}
    {steps : List (SettledCall shards)}
    {store final : Storage shards}
    {rows : RowMap}
    (represents : Represents store rows)
    (run : Run (settledStep? json) (fun _ _ => True) store steps final) :
    Represents final
      (steps.foldl (fun rows step => step.call.apply rows) rows) := by
  induction run generalizing rows with
  | nil state =>
      exact represents
  | cons permitted first later inductionHypothesis =>
      exact inductionHypothesis (represents.settledStep first)

/-! ## Reads -/

/-- The entries of one table in the abstract store. -/
def IsTableEntry
    (rows : RowMap)
    (name : TableName)
    (key value : Bytes) :
    Prop :=
  ∃ address : RowAddress,
    address.toTableName = name ∧
      address.key = key ∧
      rows address = some value

/-- The entries of one table whose key parts extend a given list. -/
def IsPartitionEntry
    (rows : RowMap)
    (name : TableName)
    (partition : List Bytes)
    (key value : Bytes) :
    Prop :=
  ∃ address : RowAddress,
    address.toTableName = name ∧
      partition <+: address.keyParts ∧
      address.key = key ∧
      rows address = some value

/--
A store that answers reads as the abstract store does.  Scans hand a list of
entries to their callback, one by one, until it declines to go on.
-/
structure ReadsAs (store : Storage shards) (rows : RowMap) : Prop where
  point :
    ∀ address : RowAddress,
      ((getRow address.keyspace address.table address.keyParts).run
        answer store).1 = .ok (rows address)
  table :
    ∀ name : TableName,
      ∃ entries : List (Bytes × Bytes),
        (∀ (σ : Type) (visit : σ → Bytes → Bytes → σ × Bool) state,
          (forEachInTable name.keyspace name.table visit state).run
              answer store =
            (.ok (visitEntries visit state entries).1, store)) ∧
        (entries.map Prod.fst).Nodup ∧
        ∀ key value,
          (key, value) ∈ entries ↔ IsTableEntry rows name key value
  partition :
    ∀ (name : TableName) (parts : List Bytes),
      parts ≠ [] →
      PartsFit parts →
      ∃ entries : List (Bytes × Bytes),
        (∀ (σ : Type) (visit : σ → Bytes → Bytes → σ × Bool) state,
          (forEachInPartition name.keyspace name.table parts visit state).run
              answer store =
            (.ok (visitEntries visit state entries).1, store)) ∧
        entries.Pairwise (fun first second => first.1 < second.1) ∧
        ∀ key value,
          (key, value) ∈ entries ↔
            IsPartitionEntry rows name parts key value

/-- Two stores answer every read of a table alike. -/
structure SameReads (first second : Storage shards) (name : TableName) :
    Prop where
  point :
    ∀ address : RowAddress,
      address.toTableName = name →
      ((getRow address.keyspace address.table address.keyParts).run
          answer first).1 =
        ((getRow address.keyspace address.table address.keyParts).run
          answer second).1
  table :
    ∀ (σ : Type) (visit : σ → Bytes → Bytes → σ × Bool) state,
      ((forEachInTable name.keyspace name.table visit state).run
          answer first).1 =
        ((forEachInTable name.keyspace name.table visit state).run
          answer second).1
  partition :
    ∀ (parts : List Bytes) (σ : Type)
      (visit : σ → Bytes → Bytes → σ × Bool) state,
      ((forEachInPartition name.keyspace name.table parts visit state).run
          answer first).1 =
        ((forEachInPartition name.keyspace name.table parts visit state).run
          answer second).1

omit [NeZero shards] in
/-- The keys of a table are data keys. -/
theorem dtPrefix_prefix_dataPrefix (keyspace table : String) :
    dtPrefix <+: dataPrefix keyspace table := by
  simp [dataPrefix]

/-- No data key is stored on two engines. -/
def Storage.KeysApart (store : Storage shards) : Prop :=
  ∀ (first second : Fin shards) (key value other : Bytes),
    dtPrefix <+: key →
    (store.engines first).db[key]? = some value →
    (store.engines second).db[key]? = some other →
    first = second

omit [NeZero shards] in
/-- No key is visited twice by a table scan. -/
theorem Storage.KeysApart.nodup_tableEntries
    {store : Storage shards}
    (apart : store.KeysApart)
    (keyspace table : String) :
    ((tableEntries store (dataPrefix keyspace table)).map Prod.fst).Nodup := by
  rw [tableEntries, List.map_flatMap, List.nodup_flatMap]
  refine ⟨fun engine _ => ByteMap.nodup_keys_scanStem _ _, ?_⟩
  refine (List.nodup_finRange shards).imp ?_
  intro first second different key inFirst inSecond
  obtain ⟨⟨_, value⟩, firstEntry, rfl⟩ := List.mem_map.mp inFirst
  obtain ⟨⟨_, other⟩, secondEntry, same⟩ := List.mem_map.mp inSecond
  simp only at same
  subst same
  obtain ⟨under, stored⟩ := ByteMap.mem_scanStem.mp firstEntry
  obtain ⟨_, storedOther⟩ := ByteMap.mem_scanStem.mp secondEntry
  have isData := (dtPrefix_prefix_dataPrefix keyspace table).trans under
  exact different (apart first second _ value other isData stored storedOther)

namespace Represents

variable
  {store other : Storage shards}
  {rows otherRows : RowMap}

/-- An engine binds a data key exactly to the row it is the key of. -/
theorem db_eq_some_iff
    (represents : Represents store rows)
    (engine : Fin shards)
    {key value : Bytes}
    (isData : dtPrefix <+: key) :
    (store.engines engine).db[key]? = some value ↔
      ∃ address : RowAddress,
        address.key = key ∧
          address.engine = engine ∧
          rows address = some value := by
  rw [← represents.settled_eq_db]
  constructor
  · intro present
    obtain ⟨address, rfl⟩ :=
      represents.stores.addressed engine key value isData present
    rw [represents.stores.row] at present
    by_cases here : address.engine = engine
    · exact ⟨address, rfl, here, by simpa [here] using present⟩
    · simp [here] at present
  · rintro ⟨address, rfl, here, stored⟩
    rw [represents.stores.row, if_pos here, stored]

omit [NeZero shards] in
/-- Keys under a table's prefix are data keys. -/
theorem isData_of_table
    {name : TableName}
    {key : Bytes}
    (under : name.dataPrefix <+: key) :
    dtPrefix <+: key :=
  (dtPrefix_prefix_dataPrefix name.keyspace name.table).trans under

/-- A table's entries are spread over the engines without repetition. -/
theorem mem_tableEntries
    (represents : Represents store rows)
    (name : TableName)
    (key value : Bytes) :
    (key, value) ∈ tableEntries store name.dataPrefix ↔
      IsTableEntry rows name key value := by
  simp only [tableEntries, List.mem_flatMap, List.mem_finRange, true_and,
    ByteMap.mem_scanStem]
  constructor
  · rintro ⟨engine, under, present⟩
    obtain ⟨address, rfl, _, stored⟩ :=
      (represents.db_eq_some_iff engine (isData_of_table under)).mp present
    have sameTable := (dataPrefix_prefix_key_iff name address).mp under
    exact ⟨address, sameTable.symm, rfl, stored⟩
  · rintro ⟨address, rfl, rfl, stored⟩
    have under := (dataPrefix_prefix_key_iff _ address).mpr rfl
    refine ⟨address.engine, under, ?_⟩
    rw [represents.db_row, stored]

/-- Each row is stored on its own engine only. -/
theorem keysApart (represents : Represents store rows) : store.KeysApart := by
  intro first second key value other isData here there
  obtain ⟨address, sameKey, onFirst, _⟩ :=
    (represents.db_eq_some_iff first isData).mp here
  obtain ⟨twin, twinKey, onSecond, _⟩ :=
    (represents.db_eq_some_iff second isData).mp there
  have sameRow : address = twin :=
    RowAddress.key_injective (sameKey.trans twinKey.symm)
  rw [← onFirst, ← onSecond, sameRow]

/-- A table scan of represented rows visits no key twice. -/
theorem nodup_tableEntries
    (represents : Represents store rows)
    (name : TableName) :
    ((tableEntries store name.dataPrefix).map Prod.fst).Nodup :=
  represents.keysApart.nodup_tableEntries name.keyspace name.table

/-- A partition's entries all live on the engine of its first part. -/
theorem mem_partitionEntries
    (represents : Represents store rows)
    (name : TableName)
    {parts : List Bytes}
    (nonempty : parts ≠ [])
    (fits : PartsFit parts)
    (key value : Bytes) :
    (key, value) ∈
        (store.engines
          (dataEngine name.keyspace name.table
            (firstPart parts))).db.scanStem
          (name.dataPrefix ++ encodeKey parts) ↔
      IsPartitionEntry rows name parts key value := by
  rw [ByteMap.mem_scanStem]
  constructor
  · rintro ⟨under, present⟩
    have inTable : name.dataPrefix <+: key :=
      (List.prefix_append _ _).trans under
    obtain ⟨address, rfl, _, stored⟩ :=
      (represents.db_eq_some_iff _ (isData_of_table inTable)).mp present
    obtain ⟨sameTable, below⟩ :=
      (partition_prefix_key_iff fits address).mp under
    exact ⟨address, sameTable.symm, below, rfl, stored⟩
  · rintro ⟨address, rfl, below, rfl, stored⟩
    have under := (partition_prefix_key_iff fits address).mpr ⟨rfl, below⟩
    have samePart : firstPart parts = firstPart address.keyParts := by
      obtain ⟨rest, whole⟩ := below
      obtain ⟨part, tail, rfl⟩ := List.exists_cons_of_ne_nil nonempty
      rw [← whole]
      rfl
    refine ⟨under, ?_⟩
    rw [samePart]
    exact (represents.db_row address).trans stored

/-- A store that represents a row map reads as it. -/
theorem readsAs
    (represents : Represents store rows) :
    ReadsAs store rows where
  point := by
    intro address
    obtain ⟨next, ran, _⟩ := represents.getRow address
    rw [ran]
  table := by
    intro name
    exact ⟨tableEntries store name.dataPrefix,
      fun σ visit state => forEachInTable_run store _ _ visit state,
      represents.nodup_tableEntries name, represents.mem_tableEntries name⟩
  partition := by
    intro name parts nonempty fits
    exact ⟨_, fun σ visit state => forEachInPartition_run store _ _ _ visit state,
      ByteMap.pairwise_scanStem _ _,
      represents.mem_partitionEntries name nonempty fits⟩

/-- Stores that represent the same rows of a table hold the same entries. -/
theorem db_eq_of_rows
    (represents : Represents store rows)
    (otherRepresents : Represents other otherRows)
    {name : TableName}
    (agree :
      ∀ address : RowAddress,
        address.toTableName = name →
        rows address = otherRows address)
    (engine : Fin shards)
    {key : Bytes}
    (under : name.dataPrefix <+: key) :
    (store.engines engine).db[key]? = (other.engines engine).db[key]? := by
  have isData := isData_of_table under
  apply Option.ext
  intro value
  rw [represents.db_eq_some_iff engine isData,
    otherRepresents.db_eq_some_iff engine isData]
  refine exists_congr fun address => ?_
  refine and_congr_right fun sameKey => and_congr_right fun _ => ?_
  subst sameKey
  have sameTable := (dataPrefix_prefix_key_iff name address).mp under
  rw [agree address sameTable.symm]

/-- Stores that represent the same rows of a table read alike on it. -/
theorem sameReads
    (represents : Represents store rows)
    (otherRepresents : Represents other otherRows)
    {name : TableName}
    (agree :
      ∀ address : RowAddress,
        address.toTableName = name →
        rows address = otherRows address) :
    SameReads store other name where
  point := by
    intro address inTable
    rw [represents.readsAs.point, otherRepresents.readsAs.point,
      agree address inTable]
  table := by
    intro σ visit state
    have sameEntries :
        tableEntries store name.dataPrefix =
          tableEntries other name.dataPrefix := by
      unfold tableEntries
      congr 1
      funext engine
      exact ByteMap.scanStem_congr fun key under =>
        represents.db_eq_of_rows otherRepresents agree engine under
    rw [forEachInTable_run, forEachInTable_run]
    exact congrArg (fun entries =>
      Except.ok (visitEntries visit state entries).1) sameEntries
  partition := by
    intro parts σ visit state
    rw [forEachInPartition_run, forEachInPartition_run]
    refine congrArg (fun entries =>
      Except.ok (visitEntries visit state entries).1) ?_
    exact ByteMap.scanStem_congr fun key under =>
      represents.db_eq_of_rows otherRepresents agree _
        ((List.prefix_append _ _).trans under)

end Represents

/--
For every engine count, with or without the row cache, in either write mode
and under every schedule of the pipeline threads, a sequence of settled calls
leaves a store that reads as the abstract map does; every further call can be
settled, and it changes nothing any other table returns.
-/
theorem sequential_refinement
    (writeSync caching : Bool)
    (json : CatalogJson)
    (steps : List (SettledCall shards))
    (final : Storage shards)
    (run :
      Run (settledStep? json) (fun _ _ => True)
        (Storage.fresh shards writeSync caching) steps final) :
    ReadsAs final (rowsAfter steps) ∧
      (∀ call : StorageCall,
        ∃ schedule next,
          settledStep? json final ⟨call, schedule⟩ = some next) ∧
      ∀ (step : SettledCall shards) (next : Storage shards),
        settledStep? json final step = some next →
        ∀ name : TableName,
          ¬ step.call.Concerns name →
          SameReads final next name := by
  have represents := represents_run (represents_fresh writeSync caching) run
  refine ⟨represents.readsAs, represents.exists_settledStep json, ?_⟩
  intro step next taken name unconcerned
  refine represents.sameReads (represents.settledStep taken) ?_
  rintro address rfl
  exact (StorageCall.apply_of_not_concerns unconcerned _).symm

/-- A name without the separator of a row key. -/
theorem bangFree_kv : BangFree "kv" := by
  decide

/-- A row of a user table. -/
def sampleAddress : RowAddress where
  keyspace := "app"
  table := "kv"
  keyspaceFree := by decide
  tableFree := bangFree_kv
  keyParts := [[1], [2, 3]]
  nonempty := by decide
  fits := by decide

/-- The thread steps that settle one queued operation of an engine. -/
def settleOne
    (engine : Fin shards) :
    List (Fin shards × PipelineLabel) :=
  [.receive, .closeBatch, .hand, .take, .write true, .release].map
    fun label => (engine, label)

/-- A catalog serialisation for runs that write no catalog record. -/
def sampleJson : CatalogJson where
  keyspaceToVec := fun _ => []
  keyspaceFromSlice := fun _ => fail "EOF while parsing a value"
  tableToVec := fun _ => []
  tableFromSlice := fun _ => fail "EOF while parsing a value"

/-- On two engines, write a row, read it and drop another keyspace. -/
def sampleSteps : List (SettledCall 2) :=
  [⟨.putRow sampleAddress [7], settleOne sampleAddress.engine⟩,
    ⟨.getRow sampleAddress, []⟩,
    ⟨.deleteKeyspace "other" (by decide), settleOne 0 ++ settleOne 1⟩]

/-- The sample calls settle, and the row is still there. -/
theorem sequential_refinement_sample :
    ∃ final,
      Run (settledStep? sampleJson) (fun _ _ => True)
          (Storage.fresh 2 false true) sampleSteps final ∧
        ReadsAs final (rowsAfter sampleSteps) ∧
        rowsAfter sampleSteps sampleAddress = some [7] := by
  have settles :
      (run? (settledStep? sampleJson) (Storage.fresh 2 false true)
        sampleSteps).isSome = true := by
    decide +kernel
  obtain ⟨final, ran⟩ := Option.isSome_iff_exists.mp settles
  have run := Run.of_run? (permitted_of_forall (fun _ _ _ => trivial) _) ran
  exact ⟨final, run, (sequential_refinement false true _ _ final run).1,
    by decide⟩

end RhydaDB
