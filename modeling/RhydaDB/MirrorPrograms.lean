import RhydaDB.SchemaMirror

namespace RhydaDB

open ByteStrings AtomicPrograms Program Storage

/-!
# What programs do to the schema mirror

Catalog programs leave the mirror alone; the programs that mirror and unmirror
definitions set and remove its rows.  A partition is deleted row by row after a
scan: rows whose queued deletion overtakes the scan are gone either way.
-/

variable {shards : Nat} [NeZero shards]

/-! ## Programs that leave the mirror alone -/

/-- Catalog writes leave the mirror alone. -/
theorem Metadata.leavesSchema
    {op : WriteOp}
    (catalog : Metadata op) :
    op.LeavesSchema := by
  intro db key inSchema
  refine catalog db key (List.IsPrefix.trans ?_ inSchema)
  simp [schemaPrefix, keyspaceDataPrefix, List.append_assoc]

/-- Rows of another keyspace are not rows of the mirror. -/
theorem not_schemaPrefix_prefix
    {keyspace : String}
    (free : BangFree keyspace)
    (other : keyspace ≠ "system_schema")
    {key : Bytes}
    (under : keyspaceDataPrefix keyspace <+: key) :
    ¬ schemaPrefix <+: key := by
  intro inSchema
  have shape :
      ∀ name,
        keyspaceDataPrefix name = dtPrefix ++ (utf8 name ++ bang :: []) := by
    intro name
    simp [keyspaceDataPrefix]
  rw [schemaPrefix, shape] at inSchema
  rw [shape] at under
  rcases List.prefix_or_prefix_of_prefix under inSchema with below | below
  · rw [List.prefix_append_right_inj,
      name_prefix_iff free (by decide)] at below
    exact other below.1
  · rw [List.prefix_append_right_inj,
      name_prefix_iff (by decide) free] at below
    exact other below.1.symm

omit [NeZero shards] in
/-- Removing rows of another keyspace leaves the mirror alone. -/
theorem never_deleteDataPrefix_changesSchema
    {stem : Bytes}
    (apart : ∀ key, stem ++ [bang] <+: key → ¬ schemaPrefix <+: key) :
    (deleteDataPrefix (stem ++ [bang]) :
      StorageProgram shards Fault _).Never StorageAction.ChangesSchema := by
  have leaves := WriteOp.leavesSchema_deleteRange apart
  have sends :
      ∀ engines : List (Fin shards),
        (sendToEach (.deleteRange (stem ++ [bang]) (stem ++ [bang + 1]))
          engines).Never StorageAction.ChangesSchema := by
    intro engines
    induction engines with
    | nil =>
        trivial
    | cons engine rest inductionHypothesis =>
        refine Never.bind_all ⟨not_not.mpr leaves, fun response => ?_⟩
          fun ticket => ?_
        · cases response <;> trivial
        · exact Never.bind_all inductionHypothesis fun tickets => trivial
  have bound := prefixUpperBound_append stem (by decide : bang < 0xFF)
  rw [deleteDataPrefix, bound]
  refine Never.bind_all (sends _) fun tickets => ?_
  split
  · exact ⟨id, fun _ => trivial⟩
  · trivial

theorem never_getKeyspace_changesSchema
    (json : CatalogJson)
    (name : String) :
    (getKeyspace json name :
      StorageProgram shards Fault _).Never StorageAction.ChangesSchema := by
  refine ⟨id, fun cached => ?_⟩
  change Option KeyspaceDef at cached
  cases cached with
  | some keyspace =>
      trivial
  | none =>
      refine ⟨id, fun found => ?_⟩
      change Option Bytes at found
      cases found with
      | none =>
          trivial
      | some bytes =>
          apply (never_ofExcept _).bind_all
          exact fun keyspace => ⟨id, fun _ => trivial⟩

theorem never_getTable_changesSchema
    (json : CatalogJson)
    (keyspace table : String) :
    (getTable json keyspace table :
      StorageProgram shards Fault _).Never StorageAction.ChangesSchema := by
  refine ⟨id, fun cached => ?_⟩
  change Option TableDef at cached
  cases cached with
  | some definition =>
      trivial
  | none =>
      refine ⟨id, fun found => ?_⟩
      change Option Bytes at found
      cases found with
      | none =>
          trivial
      | some bytes =>
          apply (never_ofExcept _).bind_all
          exact fun definition => ⟨id, fun _ => trivial⟩

theorem never_putKeyspace_changesSchema
    (json : CatalogJson)
    (keyspace : KeyspaceDef) :
    (putKeyspace json keyspace :
      StorageProgram shards Fault _).Never StorageAction.ChangesSchema := by
  have catalog :=
    metadata_put (not_dtPrefix_prefix_keyspaceKey keyspace.name)
      (json.keyspaceToVec keyspace)
  exact ⟨not_not.mpr catalog.leavesSchema, fun _ => ⟨id, fun _ => trivial⟩⟩

theorem never_putTable_changesSchema
    (json : CatalogJson)
    (table : TableDef) :
    (putTable json table :
      StorageProgram shards Fault _).Never StorageAction.ChangesSchema := by
  have catalog :=
    metadata_put (not_dtPrefix_prefix_tableKey table.keyspace table.name)
      (json.tableToVec table)
  exact ⟨not_not.mpr catalog.leavesSchema, fun _ => ⟨id, fun _ => trivial⟩⟩

theorem never_deleteTable_changesSchema
    {keyspace : String}
    (free : BangFree keyspace)
    (other : keyspace ≠ "system_schema")
    (table : String) :
    (deleteTable keyspace table :
      StorageProgram shards Fault _).Never StorageAction.ChangesSchema := by
  have catalog := metadata_delete (not_dtPrefix_prefix_tableKey keyspace table)
  refine Never.bind_all ⟨not_not.mpr catalog.leavesSchema, fun _ => trivial⟩
    fun _ => ?_
  refine Never.bind_all (never_deleteDataPrefix_changesSchema ?_)
    fun tickets => ⟨id, fun _ => trivial⟩
  intro key under
  refine not_schemaPrefix_prefix free other (List.IsPrefix.trans ?_ under)
  simp [keyspaceDataPrefix, List.append_assoc]

theorem never_deleteKeyspace_changesSchema
    {name : String}
    (free : BangFree name)
    (other : name ≠ "system_schema") :
    (deleteKeyspace name :
      StorageProgram shards Fault _).Never StorageAction.ChangesSchema := by
  have catalog := metadata_delete (not_dtPrefix_prefix_keyspaceKey name)
  have tables := metadata_deleteRange (utf8 name)
  have bound :=
    prefixUpperBound_append (tbPrefix ++ utf8 name) (by decide : bang < 0xFF)
  simp only [deleteKeyspace, delete, deletePrefix, bound, atomically,
    perform_bind]
  refine ⟨not_not.mpr catalog.leavesSchema, fun _ => ?_⟩
  refine ⟨not_not.mpr tables.leavesSchema, fun _ => ?_⟩
  refine Never.bind_all (never_deleteDataPrefix_changesSchema ?_)
    fun tickets => ⟨id, fun _ => ⟨id, fun _ => trivial⟩⟩
  exact fun key under => not_schemaPrefix_prefix free other under

/-! ## Programs that change the mirror -/

/-- The engines' threads move, and their batch writes succeed. -/
abbrev backgroundRely : Rely (Storage shards) :=
  engineRely fun label => label.background = true

variable
  {rows : SchemaRows}
  {pending : Bytes → Prop}

/-- Rows that agree on addresses are the same mirror. -/
theorem Mirrored.congr
    {store : Storage shards}
    {others : SchemaRows}
    (mirrored : Mirrored rows pending store)
    (same :
      ∀ address : RowAddress,
        address.keyspace = "system_schema" →
        others address.table address.keyParts =
          rows address.table address.keyParts) :
    Mirrored others pending store := by
  refine { mirrored with row := ?_ }
  intro engine address inSchema
  rw [mirrored.row engine address inSchema, same address inSchema]

/-- A program without accesses to the mirror keeps it. -/
theorem mirrored_of_never
    {Failure α : Type}
    {program : StorageProgram shards Failure α}
    (never : program.Never StorageAction.ChangesSchema) :
    Triple answer backgroundRely
      (Mirrored rows pending)
      program
      (fun _ => Mirrored rows pending)
      (fun _ => Mirrored rows pending) :=
  .of_never never (Mirrored.kept rows pending)
    fun _ _ unchanging mirrored => mirrored.answer unchanging

/-- Writing a row of the mirror that is not pending. -/
theorem putRowSync_mirrored
    {address : RowAddress}
    (inSchema : address.keyspace = "system_schema")
    (notPending : ¬ pending address.key)
    (value : Bytes) :
    Triple answer backgroundRely
      (Mirrored rows pending)
      (putRowSync address.keyspace address.table address.keyParts value :
        StorageProgram shards Fault _)
      (fun _ =>
        Mirrored (rows.set address.table address.keyParts (some value))
          pending)
      noFailure := by
  have uncached : shouldCache address.keyspace = false := by
    rw [inSchema]
    decide
  simp only [putRowSync, uncached, atomically, perform_bind]
  exact .act (Mirrored.kept rows pending) _
    (fun _ mirrored => mirrored.writeRow inSchema (setsRow_put address value)
      (.inr notPending))
    fun _ => .pure (Mirrored.kept _ _) fun _ holds => holds

/-- Deleting a row of the mirror. -/
theorem deleteRowSync_mirrored
    {address : RowAddress}
    (inSchema : address.keyspace = "system_schema") :
    Triple answer backgroundRely
      (Mirrored rows pending)
      (deleteRowSync address.keyspace address.table address.keyParts :
        StorageProgram shards Fault _)
      (fun _ =>
        Mirrored (rows.set address.table address.keyParts none) pending)
      noFailure := by
  have uncached : shouldCache address.keyspace = false := by
    rw [inSchema]
    decide
  simp only [deleteRowSync, uncached, atomically, perform_bind]
  exact .act (Mirrored.kept rows pending) _
    (fun _ mirrored => mirrored.writeRow inSchema (setsRow_delete address)
      (.inl rfl))
    fun _ => .pure (Mirrored.kept _ _) fun _ holds => holds

/-- Queueing the deletion of a row of the mirror. -/
theorem deleteRow_mirrored
    {address : RowAddress}
    (inSchema : address.keyspace = "system_schema") :
    Triple answer backgroundRely
      (Mirrored rows pending)
      (deleteRow address.keyspace address.table address.keyParts :
        StorageProgram shards Fault _)
      (fun _ =>
        Mirrored (rows.set address.table address.keyParts none)
          fun key => pending key ∨ key = address.key)
      noFailure := by
  have uncached : shouldCache address.keyspace = false := by
    rw [inSchema]
    decide
  simp only [deleteRow, uncached, writeDataOp, RhydaDB.sendOp, atomically,
    perform_bind]
  apply Triple.act (Mirrored.kept rows pending) fun response store =>
    response.isSome = true ∧
      Mirrored (rows.set address.table address.keyParts none)
        (fun key => pending key ∨ key = address.key) store
  · intro store mirrored
    refine ⟨?_, mirrored.sendDelete inSchema⟩
    simp [Storage.answer, mirrored.isOpen.send]
  · intro response
    apply Triple.of_fact
    intro sent
    cases response with
    | none =>
        cases sent
    | some ticket =>
        exact .pure (Mirrored.kept _ _) fun _ holds => holds

/-- Remove the listed rows of a table of the mirror. -/
def SchemaRows.removeEach
    (rows : SchemaRows)
    (table : String)
    (removed : List (List Bytes)) :
    SchemaRows :=
  fun other parts =>
    if other = table ∧ parts ∈ removed then none else rows other parts

/-- Deleting listed rows of the mirror one by one. -/
theorem deleteSystemSchemaRows_mirrored
    {table : String}
    {addresses : List RowAddress}
    (inTable :
      ∀ address ∈ addresses,
        address.keyspace = "system_schema" ∧ address.table = table)
    {entries : List (Bytes × Bytes)}
    (keys : entries.map Prod.fst = addresses.map RowAddress.key) :
    Triple answer backgroundRely
      (Mirrored rows pending)
      (deleteSystemSchemaRows table entries : StorageProgram shards Fault _)
      (fun _ =>
        Mirrored (rows.removeEach table (addresses.map (·.keyParts))) pending)
      noFailure := by
  induction addresses generalizing rows entries with
  | nil =>
      obtain rfl : entries = [] := by
        simpa using keys
      refine .pure (Mirrored.kept _ _) fun _ holds => holds.congr ?_
      simp [SchemaRows.removeEach]
  | cons address rest inductionHypothesis =>
      obtain ⟨entry, later, rfl⟩ : ∃ entry later, entries = entry :: later := by
        cases entries with
        | nil =>
            cases keys
        | cons entry later =>
            exact ⟨entry, later, rfl⟩
      simp only [List.map_cons, List.cons.injEq] at keys
      obtain ⟨inSchema, rfl⟩ := inTable address (by simp)
      have decoded :
          decodeKey "system_schema" address.table entry.1 =
            .ok address.keyParts := by
        rw [keys.1, RowAddress.key, inSchema]
        exact decodeKey_rowKey _ _ address.fits
      have deletes :
          Triple answer backgroundRely
            (Mirrored rows pending)
            (deleteRowSync "system_schema" address.table address.keyParts :
              StorageProgram shards Fault _)
            _
            noFailure :=
        inSchema ▸ deleteRowSync_mirrored inSchema
      simp only [deleteSystemSchemaRows, decoded, Program.ofExcept,
        return_bind]
      refine .bind deletes fun _ => ?_
      refine (inductionHypothesis
        (fun other member => inTable other (by simp [member]))
        keys.2).conseq (fun _ => id) ?_ fun _ _ => id
      intro _ store mirrored
      refine mirrored.congr fun other _ => ?_
      simp only [SchemaRows.removeEach, SchemaRows.set, List.map_cons,
        List.mem_cons]
      by_cases same : other.table = address.table <;>
        by_cases parts : other.keyParts = address.keyParts <;>
        simp [same, parts]

/-- The callback that keeps every entry keeps them in order. -/
theorem visitEntries_collect
    (out entries : List (Bytes × Bytes)) :
    (visitEntries collect out entries).1 = out ++ entries := by
  induction entries generalizing out with
  | nil =>
      simp [visitEntries]
  | cons entry rest inductionHypothesis =>
      obtain ⟨key, value⟩ := entry
      simp [visitEntries, collect, inductionHypothesis]

/-- The rows of a partition that an engine holds, as addresses. -/
theorem Mirrored.exists_addresses
    {store : Storage shards}
    (mirrored : Mirrored rows pending store)
    (engine : Fin shards)
    {name : TableName}
    (inSchema : name.keyspace = "system_schema")
    {parts : List Bytes}
    (fits : PartsFit parts)
    {entries : List (Bytes × Bytes)}
    (scanned :
      ∀ entry ∈ entries,
        entry ∈ (store.engines engine).db.scanStem
          (name.dataPrefix ++ encodeKey parts)) :
    ∃ addresses : List RowAddress,
      entries.map Prod.fst = addresses.map RowAddress.key ∧
        ∀ address ∈ addresses,
          address.toTableName = name ∧ parts <+: address.keyParts := by
  induction entries with
  | nil =>
      exact ⟨[], rfl, by simp⟩
  | cons entry rest inductionHypothesis =>
      obtain ⟨addresses, keys, inPartition⟩ :=
        inductionHypothesis fun entry member => scanned entry (by simp [member])
      obtain ⟨under, present⟩ :=
        ByteMap.mem_scanStem.mp (scanned entry (by simp))
      have inPrefix : schemaPrefix <+: entry.1 := by
        refine List.IsPrefix.trans ?_ under
        simp [schemaPrefix, keyspaceDataPrefix, TableName.dataPrefix,
          dataPrefix, inSchema, List.append_assoc]
      obtain ⟨address, key⟩ :=
        mirrored.addressed engine entry.1 entry.2 inPrefix present
      rw [← key] at under
      obtain ⟨sameTable, below⟩ :=
        (partition_prefix_key_iff fits address).mp under
      refine ⟨address :: addresses, by simp [keys, key], ?_⟩
      intro other member
      rcases List.mem_cons.mp member with rfl | later
      · exact ⟨sameTable.symm, below⟩
      · exact inPartition other later

/-- Deleting a partition of the mirror removes its rows. -/
theorem deleteSystemSchemaPartition_mirrored
    {name : TableName}
    (inSchema : name.keyspace = "system_schema")
    {parts : List Bytes}
    (nonempty : parts ≠ [])
    (fits : PartsFit parts) :
    Triple answer backgroundRely
      (Mirrored rows pending)
      (deleteSystemSchemaPartition name.table parts :
        StorageProgram shards Fault _)
      (fun _ => Mirrored (rows.removePartition name.table parts) pending)
      noFailure := by
  have shape :
      (deleteSystemSchemaPartition name.table parts :
          StorageProgram shards Fault _) =
        .act (.dbScan (dataEngine "system_schema" name.table (firstPart parts))
            (dataPrefix "system_schema" name.table ++ encodeKey parts))
          fun entries => deleteSystemSchemaRows name.table entries := by
    simp only [deleteSystemSchemaPartition, scanPartition, forEachInPartition,
      forEachOnEngine, atomically, perform_bind, act_bind]
    refine congrArg _ (funext fun entries => ?_)
    simp [visitEntries_collect]
  rw [shape]
  apply Triple.act (Mirrored.kept rows pending) fun entries store =>
    (∃ addresses : List RowAddress,
      entries.map Prod.fst = addresses.map RowAddress.key ∧
        (∀ address ∈ addresses, address.toTableName = name ∧
          parts <+: address.keyParts) ∧
        ∀ address : RowAddress,
          address.toTableName = name →
          parts <+: address.keyParts →
          address ∉ addresses →
          rows address.table address.keyParts = none) ∧
      Mirrored rows pending store
  · intro store mirrored
    refine ⟨?_, mirrored⟩
    obtain ⟨addresses, keys, inPartition⟩ :=
      mirrored.exists_addresses
        (dataEngine "system_schema" name.table (firstPart parts)) inSchema
        fits fun entry member => member
    refine ⟨addresses, ?_, inPartition, ?_⟩
    · rw [← keys, TableName.dataPrefix, inSchema]
      rfl
    · intro address sameTable below absent
      rw [Option.eq_none_iff_forall_ne_some]
      intro value stays
      have addressInSchema : address.keyspace = "system_schema" := by
        rw [← inSchema, ← sameTable]
      have sameEngine :
          dataEngine "system_schema" name.table (firstPart parts) =
            (address.engine : Fin shards) := by
        obtain ⟨rest, whole⟩ := below
        obtain ⟨part, tail, rfl⟩ := List.exists_cons_of_ne_nil nonempty
        rw [RowAddress.engine, addressInSchema, ← sameTable, ← whole]
        rfl
      have held :
          (store.engines address.engine).db[address.key]? = some value := by
        refine mirrored.db_of_settled _
          ((schemaPrefix_prefix_key_iff address).mpr addressInSchema) ?_
        rw [mirrored.row _ address addressInSchema, if_pos rfl, stays]
      have scanned :
          (address.key, value) ∈
            (store.engines (dataEngine "system_schema" name.table
              (firstPart parts))).db.scanStem
                (name.dataPrefix ++ encodeKey parts) := by
        rw [ByteMap.mem_scanStem, sameEngine]
        exact ⟨(partition_prefix_key_iff fits address).mpr
          ⟨sameTable.symm, below⟩, held⟩
      have listed : address.key ∈ addresses.map RowAddress.key := by
        rw [← keys]
        exact List.mem_map_of_mem scanned
      obtain ⟨twin, member, sameKey⟩ := List.mem_map.mp listed
      rw [← RowAddress.key_injective sameKey] at absent
      exact absent member
  · intro entries
    apply Triple.of_fact
    rintro ⟨addresses, keys, inPartition, complete⟩
    refine (deleteSystemSchemaRows_mirrored ?_ keys).conseq (fun _ => id) ?_
      fun _ _ => id
    · intro address member
      obtain ⟨rfl, _⟩ := inPartition address member
      exact ⟨inSchema, rfl⟩
    · intro _ store mirrored
      refine mirrored.congr fun address addressInSchema => ?_
      simp only [SchemaRows.removePartition, SchemaRows.removeEach]
      by_cases inTable : address.table = name.table
      · have sameTable : address.toTableName = name :=
          TableName.ext_names (addressInSchema.trans inSchema.symm) inTable
        by_cases below : parts <+: address.keyParts
        · by_cases listed : address.keyParts ∈ addresses.map (·.keyParts)
          · simp [inTable, below, listed]
          · have absent : address ∉ addresses :=
              fun member => listed (List.mem_map_of_mem member)
            have gone := complete address sameTable below absent
            rw [inTable] at gone
            simp [inTable, below, listed, gone]
        · have unlisted : address.keyParts ∉ addresses.map (·.keyParts) := by
            intro listed
            obtain ⟨twin, member, sameParts⟩ := List.mem_map.mp listed
            exact below (sameParts ▸ (inPartition twin member).2)
          simp [inTable, below, unlisted]
      · simp [inTable]

end RhydaDB
