import RhydaDB.CatalogIntegrity
import RhydaDB.StorageContract

namespace RhydaDB

open ByteStrings AtomicPrograms Program Storage

/-!
# The rows of the schema mirror

The mirror is written past the pipelines, except that a dropped table's own row
is deleted through its engine's queue.  `Mirrored` says which rows the mirror
will hold once the queues are written: no queued operation touches the mirror
but deletions of rows that are listed as pending.
-/

/-- The prefix of every row key of the mirror. -/
def schemaPrefix : Bytes :=
  keyspaceDataPrefix "system_schema"

/-- The rows of the mirror, by table and key parts. -/
abbrev SchemaRows :=
  String → List Bytes → Option Bytes

/-- Give one row of the mirror a value. -/
def SchemaRows.set
    (rows : SchemaRows)
    (table : String)
    (parts : List Bytes)
    (value : Option Bytes) :
    SchemaRows :=
  fun other otherParts =>
    if other = table ∧ otherParts = parts then value else rows other otherParts

/-- Remove a partition of a table of the mirror. -/
def SchemaRows.removePartition
    (rows : SchemaRows)
    (table : String)
    (parts : List Bytes) :
    SchemaRows :=
  fun other otherParts =>
    if other = table ∧ parts <+: otherParts then none else rows other otherParts

namespace WriteOp

/-- An operation that leaves the mirror alone. -/
def LeavesSchema (op : WriteOp) : Prop :=
  ∀ (db : ByteMap Bytes) key,
    schemaPrefix <+: key →
    (applyOp db op)[key]? = db[key]?

/-- An operation that leaves the mirror alone or deletes a pending row of it. -/
def RemovesPending (pending : Bytes → Prop) (op : WriteOp) : Prop :=
  op.LeavesSchema ∨ ∃ key, pending key ∧ op = .delete key

variable {pending : Bytes → Prop}

/-- Such an operation leaves a row that is not pending alone. -/
theorem RemovesPending.leaves
    {op : WriteOp}
    (removes : op.RemovesPending pending)
    {key : Bytes}
    (inSchema : schemaPrefix <+: key)
    (notPending : ¬ pending key)
    (db : ByteMap Bytes) :
    (applyOp db op)[key]? = db[key]? := by
  rcases removes with leaves | ⟨other, isPending, rfl⟩
  · exact leaves db key inSchema
  · have different : other ≠ key := by
      rintro rfl
      exact notPending isPending
    simp [applyOp, different]

/-- It never brings a row into being. -/
theorem RemovesPending.removes
    {op : WriteOp}
    (removes : op.RemovesPending pending)
    {key : Bytes}
    (inSchema : schemaPrefix <+: key)
    (db : ByteMap Bytes) :
    (applyOp db op)[key]? = db[key]? ∨ (applyOp db op)[key]? = none := by
  rcases removes with leaves | ⟨other, _, rfl⟩
  · exact .inl (leaves db key inSchema)
  · by_cases same : other = key
    · simp [applyOp, same]
    · simp [applyOp, same]

/-- A range of another keyspace's rows leaves the mirror alone. -/
theorem leavesSchema_deleteRange
    {stem : Bytes}
    (apart : ∀ key, stem ++ [bang] <+: key → ¬ schemaPrefix <+: key) :
    LeavesSchema (.deleteRange (stem ++ [bang]) (stem ++ [bang + 1])) := by
  intro db key inSchema
  have outside : ¬ stem ++ [bang] <+: key := fun under => apart key under inSchema
  simp [applyOp, bang_range_iff, outside]

end WriteOp

variable {shards : Nat} [NeZero shards]

/-- An access that may change the mirror. -/
def StorageAction.ChangesSchema : StorageAction shards → Prop
  | .dbWrite _ op =>
      ¬ op.LeavesSchema
  | .send _ op =>
      ¬ op.LeavesSchema
  | _ =>
      False

/-- Once the queues are written, the mirror will hold exactly these rows. -/
structure Mirrored
    (rows : SchemaRows)
    (pending : Bytes → Prop)
    (store : Storage shards) :
    Prop where
  isOpen : store.Open
  queued :
    ∀ engine,
      ∀ queued ∈ (store.engines engine).inFlight,
        queued.op.RemovesPending pending
  row :
    ∀ engine (address : RowAddress),
      address.keyspace = "system_schema" →
      (store.engines engine).settled[address.key]? =
        if address.engine = engine then
          rows address.table address.keyParts
        else
          none
  addressed :
    ∀ engine key value,
      schemaPrefix <+: key →
      (store.engines engine).db[key]? = some value →
      ∃ address : RowAddress, address.key = key

omit [NeZero shards] in
/-- The mirror's rows are under its prefix, and nothing else is. -/
theorem schemaPrefix_prefix_key_iff (address : RowAddress) :
    schemaPrefix <+: address.key ↔ address.keyspace = "system_schema" := by
  rw [schemaPrefix, keyspaceDataPrefix_prefix_key_iff (by decide), eq_comm]

namespace Mirrored

variable
  {rows : SchemaRows}
  {pending : Bytes → Prop}
  {store : Storage shards}

/-- A row that will stay is there already. -/
theorem db_of_settled
    (mirrored : Mirrored rows pending store)
    (engine : Fin shards)
    {key value : Bytes}
    (inSchema : schemaPrefix <+: key)
    (stays : (store.engines engine).settled[key]? = some value) :
    (store.engines engine).db[key]? = some value := by
  refine applyOps_eq_some_of_removes ?_ stays
  intro op member db
  obtain ⟨queued, isQueued, rfl⟩ := List.mem_map.mp member
  exact (mirrored.queued engine queued isQueued).removes inSchema db

/-- Successful thread steps keep the mirror. -/
theorem kept
    (rows : SchemaRows)
    (pending : Bytes → Prop) :
    (engineRely fun label => label.background = true).Keeps
      (Mirrored rows pending : Storage shards → Prop) := by
  apply engineRely_keeps
  intro store engine label pipeline thread background step mirrored
  obtain ⟨shrinks, batch, wasQueued, applied⟩ := step.thread_frame thread
  have live := mirrored.isOpen engine
  refine ⟨mirrored.isOpen.setEngine (live.thread_step thread step), ?_, ?_, ?_⟩
  · intro other queued member
    by_cases here : other = engine
    · subst here
      exact mirrored.queued other queued (shrinks queued (by simpa using member))
    · exact mirrored.queued other queued (by simpa [here] using member)
  · intro other address inSchema
    by_cases here : other = engine
    · subst here
      rw [← mirrored.row other address inSchema]
      simp [live.settled_background background step]
    · simpa [here] using mirrored.row other address inSchema
  · intro other key value inSchema present
    by_cases here : other = engine
    · subst here
      -- the written batch at most removes rows of the mirror
      simp only [setEngine_engines, ↓reduceIte, applied] at present
      refine mirrored.addressed other key value inSchema
        (applyOps_eq_some_of_removes ?_ present)
      intro op member db
      obtain ⟨queued, isQueued, rfl⟩ := List.mem_map.mp member
      exact (mirrored.queued other queued
        (wasQueued queued isQueued)).removes inSchema db
    · exact mirrored.addressed other key value inSchema
        (by simpa [here] using present)

/-- Only the pending deletions that are still queued matter. -/
theorem restrict
    (mirrored : Mirrored rows pending store) :
    Mirrored rows
      (fun key =>
        pending key ∧
          ∃ engine,
            ∃ queued ∈ (store.engines engine).inFlight,
              queued.op = .delete key)
      store := by
  refine { mirrored with queued := ?_ }
  intro engine queued member
  rcases mirrored.queued engine queued member with leaves | ⟨key, isPending, op⟩
  · exact .inl leaves
  · exact .inr ⟨key, ⟨isPending, engine, queued, member, op⟩, op⟩

/-- More deletions may be pending. -/
theorem widen
    {wider : Bytes → Prop}
    (mirrored : Mirrored rows pending store)
    (implies : ∀ key, pending key → wider key) :
    Mirrored rows wider store := by
  refine { mirrored with queued := ?_ }
  intro engine queued member
  rcases mirrored.queued engine queued member with leaves | ⟨key, isPending, op⟩
  · exact .inl leaves
  · exact .inr ⟨key, implies key isPending, op⟩

/-- The row cache and the maps in memory do not matter. -/
theorem of_engines
    {other : Storage shards}
    (mirrored : Mirrored rows pending store)
    (same : other.engines = store.engines) :
    Mirrored rows pending other := by
  refine ⟨?_, ?_, ?_, ?_⟩
  · intro engine
    rw [same]
    exact mirrored.isOpen engine
  · rw [same]
    exact mirrored.queued
  · rw [same]
    exact mirrored.row
  · rw [same]
    exact mirrored.addressed

/-- Writing past a pipeline changes the settled contents key by key. -/
theorem settled_directWrite
    (mirrored : Mirrored rows pending store)
    (engine : Fin shards)
    {op : WriteOp}
    {key : Bytes}
    {value : Option Bytes}
    (inSchema : schemaPrefix <+: key)
    (writes :
      ∀ db : ByteMap Bytes,
        (applyOp db op)[key]? = value)
    (allowed : value = none ∨ ¬ pending key) :
    ((store.engines engine).directWrite op).settled[key]? = value := by
  have written := writes (store.engines engine).db
  rcases allowed with rfl | notPending
  · -- whatever is queued keeps an absent row absent
    rw [Option.eq_none_iff_forall_ne_some]
    intro found present
    have before :
        (applyOp (store.engines engine).db op)[key]? = some found := by
      refine applyOps_eq_some_of_removes ?_ present
      intro queuedOp member db
      obtain ⟨queued, isQueued, rfl⟩ := List.mem_map.mp member
      exact (mirrored.queued engine queued isQueued).removes inSchema db
    rw [written] at before
    cases before
  · rw [← written]
    apply getElem?_applyOps
    intro queuedOp member db
    obtain ⟨queued, isQueued, rfl⟩ := List.mem_map.mp member
    exact (mirrored.queued engine queued isQueued).leaves inSchema notPending db

/-- Setting a row past its pipeline sets it for good, unless it is pending. -/
theorem writeRow
    (mirrored : Mirrored rows pending store)
    {address : RowAddress}
    (inSchema : address.keyspace = "system_schema")
    {op : WriteOp}
    {value : Option Bytes}
    (sets : SetsRow op address value)
    (allowed : value = none ∨ ¬ pending address.key) :
    Mirrored (rows.set address.table address.keyParts value) pending
      (store.answer (.dbWrite address.engine op)).1 := by
  have under := (schemaPrefix_prefix_key_iff address).mpr inSchema
  refine ⟨mirrored.isOpen.setEngine
    ((mirrored.isOpen address.engine).directWrite op), ?_, ?_, ?_⟩
  · intro engine queued member
    by_cases here : engine = address.engine
    · subst here
      exact mirrored.queued _ queued (by simpa [Storage.answer] using member)
    · exact mirrored.queued engine queued
        (by simpa [Storage.answer, here] using member)
  · intro engine other otherInSchema
    by_cases here : engine = address.engine
    · subst here
      simp only [Storage.answer, setEngine_engines, ↓reduceIte]
      by_cases same : other = address
      · subst same
        rw [mirrored.settled_directWrite _ under
          (fun db => by simp [sets db other.key]) allowed]
        simp [SchemaRows.set]
      · have differentKey : address.key ≠ other.key :=
          fun sameKey => same (RowAddress.key_injective sameKey).symm
        have differentRow :
            ¬ (other.table = address.table ∧
              other.keyParts = address.keyParts) := by
          rintro ⟨tables, parts⟩
          exact same (RowAddress.ext_parts (TableName.ext_names
            (otherInSchema.trans inSchema.symm) tables) parts)
        have unchanged :
            (applyOp (store.engines address.engine).db op)[other.key]? =
              (store.engines address.engine).db[other.key]? := by
          simp [sets _ other.key, differentKey]
        rw [Pipeline.settled, Pipeline.directWrite_inFlight]
        simp only [Pipeline.directWrite, SchemaRows.set, differentRow,
          if_false]
        rw [applyOps_congr unchanged]
        exact mirrored.row address.engine other otherInSchema
    · have elsewhere :
          (store.answer (.dbWrite address.engine op)).1.engines engine =
            store.engines engine := by
        simp [Storage.answer, here]
      rw [elsewhere, mirrored.row engine other otherInSchema]
      by_cases there : other.engine = engine
      · have differentRow :
            ¬ (other.table = address.table ∧
              other.keyParts = address.keyParts) := by
          rintro ⟨tables, parts⟩
          have same : other = address :=
            RowAddress.ext_parts (TableName.ext_names
              (otherInSchema.trans inSchema.symm) tables) parts
          exact here (by rw [← there, same])
        simp [there, SchemaRows.set, differentRow]
      · simp [there]
  · intro engine key found inPrefix present
    by_cases here : engine = address.engine
    · subst here
      by_cases same : address.key = key
      · exact ⟨address, same⟩
      · refine mirrored.addressed address.engine key found inPrefix ?_
        simpa [Storage.answer, Pipeline.directWrite, sets _ key, same] using
          present
    · exact mirrored.addressed engine key found inPrefix
        (by simpa [Storage.answer, here] using present)

/-- What is in flight after a send. -/
theorem mem_inFlight_accept
    {pipeline : Pipeline}
    {op : WriteOp}
    {queued : QueuedOp}
    (member : queued ∈ (pipeline.accept op).inFlight) :
    queued ∈ pipeline.inFlight ∨ queued.op = op := by
  simp only [Pipeline.inFlight, Pipeline.accept, Pipeline.committerBatch,
    Pipeline.collectorBatch, List.mem_append, List.mem_singleton]
    at member ⊢
  rcases member with before | before | rfl
  · exact .inl (.inl before)
  · exact .inl (.inr before)
  · exact .inr rfl

/-- Queueing an operation that acts on the mirror in a known way. -/
theorem sendOp
    (mirrored : Mirrored rows pending store)
    {engine : Fin shards}
    {op : WriteOp}
    {wider : Bytes → Prop}
    {later : SchemaRows}
    (implies : ∀ key, pending key → wider key)
    (removes : op.RemovesPending wider)
    (rowsAfter :
      ∀ other (address : RowAddress),
        address.keyspace = "system_schema" →
        (if other = engine then
          (applyOp (store.engines other).settled op)[address.key]?
        else
          (store.engines other).settled[address.key]?) =
          if address.engine = other then
            later address.table address.keyParts
          else
            none) :
    Mirrored later wider (store.answer (.send engine op)).1 := by
  have live := mirrored.isOpen engine
  simp only [Storage.answer, mirrored.isOpen.send engine op]
  refine ⟨mirrored.isOpen.setEngine (live.accept op), ?_, ?_, ?_⟩
  · intro other queued member
    by_cases here : other = engine
    · subst here
      simp only [setEngine_engines, ↓reduceIte] at member
      rcases mem_inFlight_accept member with before | rfl
      · exact (mirrored.widen implies).queued other queued before
      · exact removes
    · exact (mirrored.widen implies).queued other queued
        (by simpa [here] using member)
  · intro other address inSchema
    rw [← rowsAfter other address inSchema]
    by_cases here : other = engine
    · subst here
      simp [live.settled_accept op]
    · simp [here]
  · intro other key value inSchema present
    refine mirrored.addressed other key value inSchema ?_
    by_cases here : other = engine
    · subst here
      simpa [Pipeline.accept] using present
    · simpa [here] using present

/-- Queueing the deletion of a row removes it for good. -/
theorem sendDelete
    (mirrored : Mirrored rows pending store)
    {address : RowAddress}
    (inSchema : address.keyspace = "system_schema") :
    Mirrored (rows.set address.table address.keyParts none)
      (fun key => pending key ∨ key = address.key)
      (store.answer (.send address.engine (.delete address.key))).1 := by
  refine mirrored.sendOp (fun _ => .inl) (.inr ⟨_, .inr rfl, rfl⟩) ?_
  intro engine other otherInSchema
  have sets := setsRow_delete address (store.engines engine).settled other.key
  rw [sets, mirrored.row engine other otherInSchema]
  by_cases same : other = address
  · subst same
    by_cases here : engine = other.engine
    · simp [here, SchemaRows.set]
    · simp [here, Ne.symm here]
  · have differentKey : address.key ≠ other.key :=
      fun sameKey => same (RowAddress.key_injective sameKey).symm
    have differentRow :
        ¬ (other.table = address.table ∧
          other.keyParts = address.keyParts) := by
      rintro ⟨tables, parts⟩
      exact same (RowAddress.ext_parts (TableName.ext_names
        (otherInSchema.trans inSchema.symm) tables) parts)
    simp [differentKey, SchemaRows.set, differentRow]

/-- Accesses that do not change the mirror keep it. -/
theorem answer
    (mirrored : Mirrored rows pending store)
    {action : StorageAction shards}
    (unchanging : ¬ action.ChangesSchema) :
    Mirrored rows pending (store.answer action).1 := by
  cases action with
  | dbWrite engine op =>
      have leaves : op.LeavesSchema := not_not.mp unchanging
      have live := mirrored.isOpen engine
      refine ⟨mirrored.isOpen.setEngine (live.directWrite op), ?_, ?_, ?_⟩
      · intro other queued member
        by_cases here : other = engine
        · subst here
          exact mirrored.queued other queued
            (by simpa [Storage.answer] using member)
        · exact mirrored.queued other queued
            (by simpa [Storage.answer, here] using member)
      · intro other address inSchema
        have under := (schemaPrefix_prefix_key_iff address).mpr inSchema
        rw [← mirrored.row other address inSchema]
        by_cases here : other = engine
        · subst here
          simp only [Storage.answer, setEngine_engines, ↓reduceIte,
            Pipeline.settled, Pipeline.directWrite_inFlight]
          exact applyOps_congr (leaves _ _ under) _
        · simp [Storage.answer, here]
      · intro other key value inSchema present
        refine mirrored.addressed other key value inSchema ?_
        by_cases here : other = engine
        · subst here
          rw [← leaves _ key inSchema]
          simpa [Storage.answer, Pipeline.directWrite] using present
        · simpa [Storage.answer, here] using present
  | send engine op =>
      have leaves : op.LeavesSchema := not_not.mp unchanging
      refine mirrored.sendOp (fun _ => id) (.inl leaves) ?_
      intro other address inSchema
      have under := (schemaPrefix_prefix_key_iff address).mpr inSchema
      rw [leaves _ _ under, ite_self]
      exact mirrored.row other address inSchema
  | _ =>
      exact mirrored.of_engines rfl

end Mirrored

end RhydaDB
