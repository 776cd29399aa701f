import RhydaDB.StorageSpec

namespace RhydaDB

open ByteStrings AtomicPrograms FiniteRuns Storage

/-!
# The store refines a map of rows

The abstract store is a function from row addresses to values.  `Refines`
relates it to what the engines hold once their queues are written and to the
row cache; `Represents` adds that nothing is queued, which is where a settled
call leaves the store.  Every call is shown to move both sides together.
-/

/-- The abstract store: the value of each row. -/
abbrev RowMap :=
  RowAddress → Option Bytes

variable {shards : Nat} [NeZero shards]

/-- Every row key is a data key. -/
theorem dtPrefix_prefix_key (address : RowAddress) :
    dtPrefix <+: address.key := by
  simp [RowAddress.key, rowKey, dataPrefix]

/-- Engine contents hold each row on its engine, and no other data key. -/
structure Stores
    (contents : Fin shards → ByteMap Bytes)
    (rows : RowMap) :
    Prop where
  row :
    ∀ engine address,
      (contents engine)[address.key]? =
        if address.engine = engine then rows address else none
  addressed :
    ∀ engine key value,
      dtPrefix <+: key →
      (contents engine)[key]? = some value →
      ∃ address : RowAddress, address.key = key

namespace Stores

variable
  {contents changed : Fin shards → ByteMap Bytes}
  {rows : RowMap}

/-- Changing one row's key on its engine changes that row. -/
theorem setRow
    (stores : Stores contents rows)
    (address : RowAddress)
    (value : Option Bytes)
    (lookups :
      ∀ engine key,
        (changed engine)[key]? =
          if address.engine = engine ∧ address.key = key then
            value
          else
            (contents engine)[key]?) :
    Stores changed (Function.update rows address value) := by
  constructor
  · intro engine other
    rw [lookups, stores.row]
    by_cases same : other = address
    · subst same
      by_cases here : other.engine = engine <;> simp [here]
    · have differentKey : address.key ≠ other.key := by
        intro sameKey
        exact same (RowAddress.key_injective sameKey).symm
      simp [differentKey, same]
  · intro engine key found isData present
    rw [lookups] at present
    by_cases here : address.engine = engine ∧ address.key = key
    · exact ⟨address, here.2⟩
    · rw [if_neg here] at present
      exact stores.addressed engine key found isData present

/-- Removing everything under a prefix removes the rows under it. -/
theorem removeUnder
    (stores : Stores contents rows)
    (leading : Bytes)
    (lookups :
      ∀ engine key,
        (changed engine)[key]? =
          if leading <+: key then none else (contents engine)[key]?) :
    Stores changed
      (fun address =>
        if leading <+: address.key then none else rows address) := by
  constructor
  · intro engine address
    rw [lookups, stores.row]
    by_cases under : leading <+: address.key
    · simp [under]
    · simp [under]
  · intro engine key found isData present
    rw [lookups] at present
    by_cases under : leading <+: key
    · simp [under] at present
    · rw [if_neg under] at present
      exact stores.addressed engine key found isData present

/-- Only data keys matter. -/
theorem congr
    (stores : Stores contents rows)
    (lookups :
      ∀ engine key,
        dtPrefix <+: key →
        (changed engine)[key]? = (contents engine)[key]?) :
    Stores changed rows := by
  constructor
  · intro engine address
    rw [lookups engine address.key (dtPrefix_prefix_key address)]
    exact stores.row engine address
  · intro engine key found isData present
    rw [lookups engine key isData] at present
    exact stores.addressed engine key found isData present

end Stores

/-- Cached values belong to cached keyspaces and are current. -/
def CacheHolds (cache : Option (ByteMap Bytes)) (rows : RowMap) : Prop :=
  ∀ entries,
    cache = some entries →
    ∀ (address : RowAddress) value,
      entries[address.key]? = some value →
      shouldCache address.keyspace = true ∧ rows address = some value

/-- The store will hold exactly these rows once its queues are written. -/
structure Refines (store : Storage shards) (rows : RowMap) : Prop where
  isOpen : store.Open
  stores : Stores (fun engine => (store.engines engine).settled) rows
  cached : CacheHolds store.rowCache rows

/-- The store holds exactly these rows and nothing is queued. -/
structure Represents (store : Storage shards) (rows : RowMap) : Prop
    extends Refines store rows where
  quiet : ∀ engine, (store.engines engine).inFlight = []

namespace Represents

variable
  {store : Storage shards}
  {rows : RowMap}

/-- In a quiet store the settled contents are the engine contents. -/
theorem settled_eq_db
    (represents : Represents store rows)
    (engine : Fin shards) :
    (store.engines engine).settled = (store.engines engine).db := by
  simp [Pipeline.settled, represents.quiet engine, applyOps]

/-- A row is found on its engine. -/
theorem db_row
    (represents : Represents store rows)
    (address : RowAddress) :
    (store.engines address.engine).db[address.key]? = rows address := by
  rw [← represents.settled_eq_db]
  simpa using represents.stores.row address.engine address

end Represents

omit [NeZero shards] in
/-- The cache entry of a row that is being changed. -/
theorem CacheHolds.setRow
    {store : Storage shards}
    {rows : RowMap}
    (cached : CacheHolds store.rowCache rows)
    (address : RowAddress)
    (value : Option Bytes)
    {change : ByteMap Bytes → ByteMap Bytes}
    (lookups :
      ∀ (entries : ByteMap Bytes) key,
        (change entries)[key]? =
          if address.key = key then value else entries[key]?) :
    CacheHolds (store.changeCache address.keyspace change).rowCache
      (Function.update rows address value) := by
  intro entries present other found isCached
  by_cases caches : shouldCache address.keyspace = true
  · simp only [changeCache, caches, ↓reduceIte, mapCache,
      Option.map_eq_some_iff] at present
    obtain ⟨before, wasPresent, rfl⟩ := present
    rw [lookups] at isCached
    by_cases same : other = address
    · subst same
      simp only [↓reduceIte] at isCached
      exact ⟨caches, by simpa using isCached⟩
    · have differentKey : address.key ≠ other.key := by
        intro sameKey
        exact same (RowAddress.key_injective sameKey).symm
      rw [if_neg differentKey] at isCached
      simpa [same] using cached before wasPresent other found isCached
  · simp only [changeCache, caches, Bool.false_eq_true,
      ↓reduceIte] at present
    obtain ⟨otherCaches, current⟩ :=
      cached entries present other found isCached
    have different : other ≠ address := by
      rintro rfl
      exact caches otherCaches
    exact ⟨otherCaches, by simpa [different] using current⟩

/-- The effect of an operation on one row is to give it this value. -/
def SetsRow
    (op : WriteOp)
    (address : RowAddress)
    (value : Option Bytes) :
    Prop :=
  ∀ (db : ByteMap Bytes) key,
    (applyOp db op)[key]? =
      if address.key = key then value else db[key]?

theorem setsRow_put
    (address : RowAddress)
    (value : Bytes) :
    SetsRow (.put address.key value) address (some value) := by
  intro db key
  simp [applyOp]

theorem setsRow_delete
    (address : RowAddress) :
    SetsRow (.delete address.key) address none := by
  intro db key
  simp [applyOp]

/-- Queueing a row operation behind its cache update changes that row. -/
theorem Refines.queueRow
    {store : Storage shards}
    {rows : RowMap}
    (refines : Refines store rows)
    {address : RowAddress}
    {value : Option Bytes}
    {op : WriteOp}
    (sets : SetsRow op address value)
    {change : ByteMap Bytes → ByteMap Bytes}
    (caches :
      ∀ (entries : ByteMap Bytes) key,
        (change entries)[key]? =
          if address.key = key then value else entries[key]?) :
    Refines
      ((store.changeCache address.keyspace change).setEngine address.engine
        ((store.engines address.engine).accept op))
      (Function.update rows address value) := by
  refine ⟨?_, ?_, ?_⟩
  · apply Open.setEngine
    · intro engine
      simpa using refines.isOpen engine
    · exact (refines.isOpen address.engine).accept op
  · apply refines.stores.setRow address value
    intro engine key
    by_cases here : engine = address.engine
    · subst here
      simp [(refines.isOpen address.engine).settled_accept, sets _ key]
    · have elsewhere : address.engine ≠ engine := Ne.symm here
      simp [here, elsewhere]
  · exact refines.cached.setRow address value caches

/-- An operation that leaves data keys alone. -/
def Metadata (op : WriteOp) : Prop :=
  ∀ (db : ByteMap Bytes) key,
    dtPrefix <+: key →
    (applyOp db op)[key]? = db[key]?

namespace Represents

variable
  {store : Storage shards}
  {rows : RowMap}

/-- Writing past an engine's quiet pipeline applies the operation at once. -/
theorem settled_dbWrite
    (represents : Represents store rows)
    (engine other : Fin shards)
    (op : WriteOp) :
    ((store.answer (.dbWrite engine op)).1.engines other).settled =
      if other = engine then
        applyOp (store.engines other).settled op
      else
        (store.engines other).settled := by
  by_cases here : other = engine
  · subst here
    simp [answer, Pipeline.settled_directWrite (represents.quiet other)]
  · simp [answer, here]

/-- Writing past a pipeline keeps the store open and quiet. -/
theorem dbWrite_open
    (represents : Represents store rows)
    (engine : Fin shards)
    (op : WriteOp) :
    (store.answer (.dbWrite engine op)).1.Open ∧
      ∀ other,
        ((store.answer (.dbWrite engine op)).1.engines other).inFlight =
          [] := by
  have live := (represents.isOpen engine).directWrite op
  refine ⟨represents.isOpen.setEngine live, fun other => ?_⟩
  by_cases here : other = engine
  · subst here
    simpa [answer] using represents.quiet other
  · simpa [answer, here] using represents.quiet other

/-- Catalog writes change no row. -/
theorem metadata
    (represents : Represents store rows)
    (engine : Fin shards)
    {op : WriteOp}
    (catalog : Metadata op) :
    Represents (store.answer (.dbWrite engine op)).1 rows := by
  obtain ⟨isOpen, quiet⟩ := represents.dbWrite_open engine op
  refine ⟨⟨isOpen, ?_, represents.cached⟩, quiet⟩
  apply represents.stores.congr
  intro other key isData
  rw [represents.settled_dbWrite]
  by_cases here : other = engine
  · simp only [here, ↓reduceIte]
    exact catalog _ key isData
  · simp [here]

/-- Writing a row past its pipeline changes that row. -/
theorem writeRow
    (represents : Represents store rows)
    {address : RowAddress}
    {value : Option Bytes}
    {op : WriteOp}
    (sets : SetsRow op address value)
    {change : ByteMap Bytes → ByteMap Bytes}
    (caches :
      ∀ (entries : ByteMap Bytes) key,
        (change entries)[key]? =
          if address.key = key then value else entries[key]?) :
    Represents
      ((store.answer (.dbWrite address.engine op)).1.changeCache
        address.keyspace change)
      (Function.update rows address value) := by
  obtain ⟨isOpen, quiet⟩ := represents.dbWrite_open address.engine op
  refine ⟨⟨?_, ?_, ?_⟩, ?_⟩
  · intro engine
    simpa using isOpen engine
  · apply represents.stores.setRow address value
    intro engine key
    rw [changeCache_engines, represents.settled_dbWrite]
    by_cases here : engine = address.engine
    · subst here
      simp [sets _ key]
    · have elsewhere : address.engine ≠ engine := Ne.symm here
      simp [here, elsewhere]
  · have stillCached :
        CacheHolds (store.answer (.dbWrite address.engine op)).1.rowCache
          rows :=
      represents.cached
    exact stillCached.setRow address value caches
  · intro engine
    simpa using quiet engine

end Represents

/-- Range-deleting a prefix everywhere removes the rows under it. -/
theorem Refines.removeUnder
    {store : Storage shards}
    {rows : RowMap}
    (refines : Refines store rows)
    (stem : Bytes) :
    Refines
      ((store.acceptEach
        (.deleteRange (stem ++ [bang]) (stem ++ [bang + 1]))
        (List.finRange shards)).mapCache fun _ => ∅)
      (fun address =>
        if stem ++ [bang] <+: address.key then none else rows address) := by
  refine ⟨?_, ?_, ?_⟩
  · exact refines.isOpen.acceptEach _ _
  · apply refines.stores.removeUnder (stem ++ [bang])
    intro engine key
    simp [mapCache, acceptEach, (refines.isOpen engine).settled_accept,
      applyOp, bang_range_iff]
  · intro entries present address value isCached
    simp only [mapCache, Option.map_eq_some_iff] at present
    obtain ⟨before, _, rfl⟩ := present
    simp at isCached

end RhydaDB
