import RhydaDB.SelectStream
import RhydaDB.StorageContract

namespace RhydaDB

open ByteStrings AtomicPrograms Storage

/-!
# Rows returned twice

A partition scan visits its keys once, and so does a table scan.  The plan of
a SELECT lists a partition as often as the filters list its key values, so a
repeated value makes the scan read the same partition again, as long as the
limit leaves room.
-/

/-! ## Emitted rows and their entries -/

section Emitted

variable {projection : Projection} {keyspace : String}

/-- A stream of two parts goes on after the first part without a fault. -/
theorem emitted_append (first second : List (Bytes × Bytes)) :
    emitted projection keyspace (first ++ second) =
      if (emitted projection keyspace first).2 = none then
        ((emitted projection keyspace first).1 ++
            (emitted projection keyspace second).1,
          (emitted projection keyspace second).2)
      else
        emitted projection keyspace first := by
  induction first with
  | nil =>
      rfl
  | cons entry rest inductionHypothesis =>
      obtain ⟨key, value⟩ := entry
      rw [List.cons_append, emitted, emitted]
      cases entryRow projection keyspace key value with
      | error fault =>
          rfl
      | ok found =>
          cases found with
          | none =>
              exact inductionHypothesis
          | some row =>
              simp only [inductionHypothesis]
              split <;> rfl

/-- An emitted row was read from an entry. -/
theorem exists_entry_of_emitted
    {entries : List (Bytes × Bytes)}
    {item : List Value × Bytes}
    (member : item ∈ (emitted projection keyspace entries).1) :
    ∃ value,
      (item.2, value) ∈ entries ∧
        entryRow projection keyspace item.2 value = .ok (some item.1) := by
  induction entries with
  | nil =>
      cases member
  | cons entry rest inductionHypothesis =>
      obtain ⟨key, value⟩ := entry
      have later :
          item ∈ (emitted projection keyspace rest).1 →
            ∃ found,
              (item.2, found) ∈ (key, value) :: rest ∧
                entryRow projection keyspace item.2 found =
                  .ok (some item.1) := by
        intro among
        obtain ⟨found, isEntry, passes⟩ := inductionHypothesis among
        exact ⟨found, List.mem_cons_of_mem _ isEntry, passes⟩
      rw [emitted] at member
      cases outcome : entryRow projection keyspace key value with
      | error fault =>
          simp [outcome] at member
      | ok found =>
          cases found with
          | none =>
              simp only [outcome] at member
              exact later member
          | some row =>
              simp only [outcome, List.mem_cons] at member
              rcases member with rfl | among
              · exact ⟨value, List.mem_cons_self, outcome⟩
              · exact later among

/-- Without a fault every entry that passes is emitted. -/
theorem mem_emitted
    {entries : List (Bytes × Bytes)}
    (noFault : (emitted projection keyspace entries).2 = none)
    {key value : Bytes}
    (isEntry : (key, value) ∈ entries)
    {row : List Value}
    (passes : entryRow projection keyspace key value = .ok (some row)) :
    (row, key) ∈ (emitted projection keyspace entries).1 := by
  induction entries with
  | nil =>
      cases isEntry
  | cons entry rest inductionHypothesis =>
      obtain ⟨first, content⟩ := entry
      rw [emitted] at noFault ⊢
      cases outcome : entryRow projection keyspace first content with
      | error fault =>
          simp [outcome] at noFault
      | ok found =>
          simp only [outcome] at noFault
          rcases List.mem_cons.mp isEntry with same | later
          · cases same
            rw [passes] at outcome
            cases outcome
            simp
          · cases found with
            | none =>
                exact inductionHypothesis noFault later
            | some other =>
                exact List.mem_cons_of_mem _ (inductionHypothesis noFault later)

/-- The keys of emitted rows are keys of entries, in order. -/
theorem sources_sublist (entries : List (Bytes × Bytes)) :
    ((emitted projection keyspace entries).1.map Prod.snd).Sublist
      (entries.map Prod.fst) := by
  induction entries with
  | nil =>
      exact .slnil
  | cons entry rest inductionHypothesis =>
      obtain ⟨key, value⟩ := entry
      rw [emitted]
      cases entryRow projection keyspace key value with
      | error fault =>
          exact List.nil_sublist _
      | ok found =>
          cases found with
          | none =>
              exact inductionHypothesis.cons _
          | some row =>
              exact inductionHypothesis.cons_cons _

end Emitted

/-! ## Entries of a store -/

section Entries

variable {shards : Nat} [NeZero shards] {store : Storage shards}

/-- An entry of a partition lies under its prefix on its engine. -/
theorem mem_partitionEntries
    {keyspace table : String}
    {partition : List Bytes}
    {key value : Bytes} :
    (key, value) ∈ partitionEntries store keyspace table partition ↔
      dataPrefix keyspace table ++ encodeKey partition <+: key ∧
        (store.engines
          (dataEngine keyspace table (firstPart partition))).db[key]? =
          some value :=
  ByteMap.mem_scanStem

/-- Entries of two partitions with one key are the same entry. -/
theorem Storage.KeysApart.value_unique
    (apart : store.KeysApart)
    {keyspace table : String}
    {first second : List Bytes}
    {key value other : Bytes}
    (here : (key, value) ∈ partitionEntries store keyspace table first)
    (there : (key, other) ∈ partitionEntries store keyspace table second) :
    value = other := by
  obtain ⟨under, stored⟩ := mem_partitionEntries.mp here
  obtain ⟨_, storedOther⟩ := mem_partitionEntries.mp there
  have isData : dtPrefix <+: key :=
    (dtPrefix_prefix_dataPrefix keyspace table).trans
      ((List.prefix_append _ _).trans under)
  rw [apart _ _ key value other isData stored storedOther, storedOther] at stored
  exact (Option.some.inj stored).symm

end Entries

/-! ## Listed partitions -/

section Listed

variable
  {shards : Nat} [NeZero shards]
  {store : Storage shards}
  {projection : Projection}
  {keyspace : String}
  {cap : Nat}

/-- The rows that a list of partitions emits. -/
def partitionRows
    (store : Storage shards)
    (projection : Projection)
    (keyspace : String)
    (partitions : List (List Bytes)) :
    List (List Value × Bytes) × Option Fault :=
  emitted projection keyspace
    (partitions.flatMap
      (partitionEntries store keyspace projection.table.name))

/--
The cap leaves room for a row of this partition that lies in a partition
listed before it as well.
-/
def TakesAgain
    (store : Storage shards)
    (projection : Projection)
    (keyspace : String)
    (cap : Nat)
    (before : List (List Bytes))
    (partition : List Bytes) :
    Prop :=
  ∃ item ∈
      (partitionRows store projection keyspace [partition]).1.take
        (cap - (partitionRows store projection keyspace before).1.length),
    ∃ earlier ∈ before,
      item.2 ∈
        (partitionEntries store keyspace projection.table.name earlier).map
          Prod.fst

/-- Some listed partition gives a row that an earlier one has given. -/
def ReadsAgain
    (store : Storage shards)
    (projection : Projection)
    (keyspace : String)
    (cap : Nat)
    (partitions : List (List Bytes)) :
    Prop :=
  ∃ before partition,
    before ++ [partition] <+: partitions ∧
      TakesAgain store projection keyspace cap before partition

/-- A partition that holds a matching row is listed again before the cap. -/
def ListsAgain
    (store : Storage shards)
    (projection : Projection)
    (keyspace : String)
    (cap : Nat)
    (partitions : List (List Bytes)) :
    Prop :=
  ∃ before partition,
    before ++ [partition] <+: partitions ∧
      partition ∈ before ∧
      (partitionRows store projection keyspace before).1.length < cap ∧
      (partitionRows store projection keyspace [partition]).1 ≠ []

/-- The rows of one more partition, unless a fault came before it. -/
theorem partitionRows_concat
    (partitions : List (List Bytes))
    (partition : List Bytes) :
    partitionRows store projection keyspace (partitions ++ [partition]) =
      if (partitionRows store projection keyspace partitions).2 = none then
        ((partitionRows store projection keyspace partitions).1 ++
            (partitionRows store projection keyspace [partition]).1,
          (partitionRows store projection keyspace [partition]).2)
      else
        partitionRows store projection keyspace partitions := by
  unfold partitionRows
  rw [List.flatMap_append, emitted_append]

/-- A partition's rows come from distinct keys. -/
theorem nodup_sources_partition (partition : List Bytes) :
    ((partitionRows store projection keyspace [partition]).1.map
      Prod.snd).Nodup := by
  have keys :
      (([partition].flatMap
        (partitionEntries store keyspace projection.table.name)).map
          Prod.fst).Nodup := by
    rw [List.flatMap_singleton]
    exact ByteMap.nodup_keys_scanStem _ _
  exact keys.sublist (sources_sublist _)

/-- A row that partitions emit is an entry of one of them. -/
theorem exists_partition_of_source
    {partitions : List (List Bytes)}
    {item : List Value × Bytes}
    (member : item ∈ (partitionRows store projection keyspace partitions).1) :
    ∃ partition ∈ partitions,
      ∃ value,
        (item.2, value) ∈
            partitionEntries store keyspace projection.table.name partition ∧
          entryRow projection keyspace item.2 value = .ok (some item.1) := by
  obtain ⟨value, isEntry, passes⟩ := exists_entry_of_emitted member
  obtain ⟨partition, listed, here⟩ := List.mem_flatMap.mp isEntry
  exact ⟨partition, listed, value, here, passes⟩

/-- A row of one partition is emitted by partitions that include its entry. -/
theorem mem_sources_of_entry
    (apart : store.KeysApart)
    {partitions : List (List Bytes)}
    (noFault : (partitionRows store projection keyspace partitions).2 = none)
    {partition earlier : List Bytes}
    (listed : earlier ∈ partitions)
    {item : List Value × Bytes}
    (member : item ∈ (partitionRows store projection keyspace [partition]).1)
    (isKey :
      item.2 ∈
        (partitionEntries store keyspace projection.table.name earlier).map
          Prod.fst) :
    item ∈ (partitionRows store projection keyspace partitions).1 := by
  obtain ⟨other, isOther, value, here, passes⟩ := exists_partition_of_source member
  obtain ⟨⟨key, found⟩, there, rfl⟩ := List.mem_map.mp isKey
  have same := apart.value_unique here there
  subst same
  exact mem_emitted noFault (List.mem_flatMap.mpr ⟨earlier, listed, there⟩) passes

/-- One more partition is one more place to read a row again. -/
theorem readsAgain_concat
    (partitions : List (List Bytes))
    (partition : List Bytes) :
    ReadsAgain store projection keyspace cap (partitions ++ [partition]) ↔
      ReadsAgain store projection keyspace cap partitions ∨
        TakesAgain store projection keyspace cap partitions partition := by
  constructor
  · rintro ⟨before, last, isPrefix, again⟩
    rcases List.prefix_concat_iff.mp isPrefix with whole | inside
    · obtain ⟨rfl, same⟩ := List.append_inj' whole rfl
      cases same
      exact .inr again
    · exact .inl ⟨before, last, inside, again⟩
  · rintro (⟨before, last, inside, again⟩ | again)
    · exact ⟨before, last, inside.trans (List.prefix_append _ _), again⟩
    · exact ⟨partitions, partition, List.prefix_rfl, again⟩

/-- The rows of the last partition are new unless one is taken again. -/
theorem disjoint_sources_iff
    (apart : store.KeysApart)
    {partitions : List (List Bytes)}
    (noFault : (partitionRows store projection keyspace partitions).2 = none)
    (partition : List Bytes) :
    (((partitionRows store projection keyspace partitions).1.take cap).map
        Prod.snd).Disjoint
        (((partitionRows store projection keyspace [partition]).1.take
          (cap -
            (partitionRows store projection keyspace
              partitions).1.length)).map Prod.snd) ↔
      ¬ TakesAgain store projection keyspace cap partitions partition := by
  constructor
  · rintro apartKeys ⟨item, taken, earlier, listed, isKey⟩
    have room :
        (partitionRows store projection keyspace partitions).1.length ≤ cap := by
      by_contra full
      rw [Nat.sub_eq_zero_of_le (by omega)] at taken
      cases taken
    have emittedBefore :=
      mem_sources_of_entry apart noFault listed (List.mem_of_mem_take taken)
        isKey
    rw [List.take_of_length_le room] at apartKeys
    exact apartKeys (List.mem_map_of_mem emittedBefore)
      (List.mem_map_of_mem taken)
  · intro notAgain key first second
    obtain ⟨item, taken, rfl⟩ := List.mem_map.mp second
    obtain ⟨other, takenOther, sameKey⟩ := List.mem_map.mp first
    obtain ⟨earlier, listed, value, here, _⟩ :=
      exists_partition_of_source (List.mem_of_mem_take takenOther)
    rw [sameKey] at here
    exact notAgain ⟨item, taken, earlier, listed,
      List.mem_map.mpr ⟨_, here, rfl⟩⟩

/--
Listed partitions return no row twice exactly when none is read again.

The induction adds partitions at the end; a fault or a full page before the
last one leaves nothing to take from it.
-/
theorem nodup_sources_iff
    (apart : store.KeysApart)
    (partitions : List (List Bytes))
    (served :
      cap ≤ (partitionRows store projection keyspace partitions).1.length ∨
        (partitionRows store projection keyspace partitions).2 = none) :
    (((partitionRows store projection keyspace partitions).1.take cap).map
        Prod.snd).Nodup ↔
      ¬ ReadsAgain store projection keyspace cap partitions := by
  induction partitions using List.reverseRecOn with
  | nil =>
      constructor
      · rintro _ ⟨before, partition, isPrefix, _⟩
        simp at isPrefix
      · intro _
        simp [partitionRows, emitted]
  | append_singleton partitions partition inductionHypothesis =>
      rw [partitionRows_concat] at served ⊢
      rw [readsAgain_concat, not_or]
      by_cases noFault :
          (partitionRows store projection keyspace partitions).2 = none
      · rw [if_pos noFault] at served ⊢
        rw [← inductionHypothesis (.inr noFault),
          ← disjoint_sources_iff apart noFault, List.take_append,
          List.map_append, List.nodup_append']
        have distinct :
            (((partitionRows store projection keyspace [partition]).1.take
              (cap - (partitionRows store projection keyspace
                partitions).1.length)).map Prod.snd).Nodup :=
          (nodup_sources_partition partition).sublist
            ((List.take_sublist _ _).map Prod.snd)
        exact ⟨fun facts => ⟨facts.1, facts.2.2⟩,
          fun facts => ⟨facts.1, distinct, facts.2⟩⟩
      · rw [if_neg noFault] at served ⊢
        have full := served.resolve_right noFault
        rw [inductionHypothesis served, TakesAgain, Nat.sub_eq_zero_of_le full]
        simp

/-- Keys of one partition differ from those of another with as many short parts. -/
theorem partition_eq_of_entry
    {table : String}
    {first second : List Bytes}
    (firstFits : PartsFit first)
    (secondFits : PartsFit second)
    (sameLength : first.length = second.length)
    {key value other : Bytes}
    (here : (key, value) ∈ partitionEntries store keyspace table first)
    (there : (key, other) ∈ partitionEntries store keyspace table second) :
    first = second := by
  have under := (mem_partitionEntries.mp here).1
  have underOther := (mem_partitionEntries.mp there).1
  rcases List.prefix_or_prefix_of_prefix under underOther with inside | inside
  · rw [List.prefix_append_right_inj, encodeKey_prefix_iff firstFits secondFits]
      at inside
    exact inside.eq_of_length sameLength
  · rw [List.prefix_append_right_inj, encodeKey_prefix_iff secondFits firstFits]
      at inside
    exact (inside.eq_of_length sameLength.symm).symm

/-- With short key parts only a partition that is listed again is read again. -/
theorem readsAgain_iff_listsAgain
    {partitions : List (List Bytes)}
    (fits : ∀ partition ∈ partitions, PartsFit partition)
    {length : Nat}
    (sameLength : ∀ partition ∈ partitions, partition.length = length) :
    ReadsAgain store projection keyspace cap partitions ↔
      ListsAgain store projection keyspace cap partitions := by
  constructor
  · rintro ⟨before, partition, isPrefix, item, taken, earlier, listed, isKey⟩
    have listedAll : ∀ other ∈ before ++ [partition], other ∈ partitions :=
      fun other member => isPrefix.subset member
    have isLast := listedAll partition (by simp)
    have isEarlier := listedAll earlier (by simp [listed])
    have member := List.mem_of_mem_take taken
    obtain ⟨last, isPartition, value, here, _⟩ := exists_partition_of_source member
    cases List.mem_singleton.mp isPartition
    obtain ⟨⟨key, found⟩, there, sameKey⟩ := List.mem_map.mp isKey
    simp only at sameKey
    subst sameKey
    have same : earlier = partition :=
      partition_eq_of_entry (fits earlier isEarlier) (fits partition isLast)
        ((sameLength earlier isEarlier).trans (sameLength partition isLast).symm)
        there here
    have room :
        (partitionRows store projection keyspace before).1.length < cap := by
      by_contra full
      rw [Nat.sub_eq_zero_of_le (by omega)] at taken
      cases taken
    exact ⟨before, partition, isPrefix, same ▸ listed, room,
      List.ne_nil_of_mem member⟩
  · rintro ⟨before, partition, isPrefix, again, room, hasRow⟩
    obtain ⟨item, items, shape⟩ := List.exists_cons_of_ne_nil hasRow
    have member :
        item ∈ (partitionRows store projection keyspace [partition]).1 := by
      rw [shape]
      exact List.mem_cons_self
    obtain ⟨left, roomLeft⟩ :
        ∃ left,
          cap - (partitionRows store projection keyspace before).1.length =
            left + 1 :=
      ⟨cap - (partitionRows store projection keyspace before).1.length - 1,
        by omega⟩
    obtain ⟨last, isPartition, value, here, _⟩ := exists_partition_of_source member
    cases List.mem_singleton.mp isPartition
    refine ⟨before, partition, isPrefix, item, ?_, partition, again,
      List.mem_map.mpr ⟨_, here, rfl⟩⟩
    rw [roomLeft, shape, List.take_succ_cons]
    exact List.mem_cons_self

/-- Partitions listed once are not listed again. -/
theorem not_listsAgain_of_nodup
    {partitions : List (List Bytes)}
    (distinct : partitions.Nodup) :
    ¬ ListsAgain store projection keyspace cap partitions := by
  rintro ⟨before, partition, isPrefix, again, _⟩
  have front := distinct.sublist isPrefix.sublist
  exact (List.nodup_append'.mp front).2.2 again (List.mem_singleton_self _)

end Listed

/-- Each listed combination has one part per partition key column. -/
theorem length_of_mem_listedPartitions
    {filters : List Filter}
    {names : List String}
    {partition : List Bytes}
    (listed : partition ∈ listedPartitions filters names) :
    partition.length = names.length := by
  induction names using List.reverseRecOn generalizing partition with
  | nil =>
      rw [List.mem_singleton.mp listed]
      rfl
  | append_singleton names name inductionHypothesis =>
      rw [listedPartitions, List.foldl_append] at listed
      obtain ⟨combo, isCombo, extended⟩ := List.mem_flatMap.mp listed
      obtain ⟨part, _, rfl⟩ := List.mem_map.mp extended
      rw [List.length_append, List.length_append, inductionHypothesis isCombo]
      rfl

/-! ## SELECT -/

/-- The plan scans the partitions that the filters list. -/
def ScansListed (table : TableDef) (filters : List Filter) : Prop :=
  pointKey table filters = none ∧
    (table.partitionKeys.all fun name => filters.any (·.restricts name)) = true

/-- The rows of a capped stream and that no fault came before the cap. -/
theorem cappedRows_eq_ok
    {cap : Nat}
    {stream : List (List Value × Bytes) × Option Fault}
    {rows : List (List Value)}
    {sources : List Bytes}
    {next : Option Bytes}
    (served : cappedRows cap stream = .ok (rows, sources, next)) :
    rows = (stream.1.take cap).map Prod.fst ∧
      sources = (stream.1.take cap).map Prod.snd ∧
      (cap ≤ stream.1.length ∨ stream.2 = none) := by
  unfold cappedRows at served
  split at served
  · cases served
  · rename_i noFault
    cases served
    refine ⟨rfl, rfl, ?_⟩
    by_cases fewer : stream.1.length < cap
    · rw [if_pos fewer] at noFault
      exact .inr noFault
    · exact .inl (not_lt.mp fewer)

section Statements

variable
  {shards : Nat} [NeZero shards]
  {json : CatalogJson}
  {hexDecode : HexDecode}
  {store middle final : Storage shards}
  {sessionKs : Option String}
  {sel : Select}
  {binds rest : Binds}
  {keyspace : String}
  {selected : List (String × ColumnType)}
  {filters : List Filter}
  {projection : Projection}

/-- An unpaged plan returns no row twice unless it reads a listed partition again. -/
theorem nodup_planRows_iff
    (apart : middle.KeysApart)
    {cap : Nat}
    {rows : List (List Value)}
    {sources : List Bytes}
    {next : Option Bytes}
    (served :
      planRows cap middle projection keyspace filters =
        .ok (rows, sources, next)) :
    sources.Nodup ↔
      ¬ (ScansListed projection.table filters ∧
        ReadsAgain middle projection keyspace cap
          (listedPartitions filters projection.table.partitionKeys)) := by
  obtain ⟨_, rfl, complete⟩ := cappedRows_eq_ok served
  unfold streamPlan at complete ⊢
  cases plan : pointKey projection.table filters with
  | some keyParts =>
      simp only [ScansListed, plan, reduceCtorEq, false_and, not_false_eq_true,
        iff_true, Option.isSome_some, if_true]
      generalize (pointRows projection keyspace keyParts
        (((getRow keyspace projection.table.name keyParts).run answer
          middle).1.toOption.join)).1 = items
      cases items <;> simp
  | none =>
      simp only [plan, Option.isSome_none, Bool.false_eq_true, if_false]
        at complete ⊢
      unfold planEntries at complete ⊢
      by_cases restricted :
          (projection.table.partitionKeys.all fun name =>
            filters.any (·.restricts name)) = true
      · rw [if_pos restricted] at complete ⊢
        rw [← partitionRows] at complete ⊢
        rw [nodup_sources_iff apart _ complete]
        simp [ScansListed, plan, restricted]
      · rw [if_neg restricted] at complete ⊢
        have distinct :
            ((emitted projection keyspace
              (tableEntries middle
                (dataPrefix keyspace projection.table.name))).1.map
                  Prod.snd).Nodup :=
          (apart.nodup_tableEntries keyspace projection.table.name).sublist
            (sources_sublist _)
        simp only [ScansListed, restricted, and_false, false_and,
          not_false_eq_true, iff_true, Bool.false_eq_true]
        exact distinct.sublist ((List.take_sublist _ _).map _)

/--
A SELECT without paging returns every stored row at most once exactly when its
scan does not read a listed partition again; as long as key parts fit their
length fields, that is when the filters list no partition with a matching row
a second time before the limit is reached.
-/
theorem no_row_twice_iff
    (planned :
      PlannedSelect json hexDecode store sessionKs sel binds middle keyspace
        selected filters rest projection)
    (apart : middle.KeysApart)
    {keyspaceName tableName : String}
    {cols : List (String × ColumnType)}
    {rows : List (List Value)}
    {sources : List Bytes}
    {next : Option Bytes}
    {gates : List (WriteTicket shards)}
    {left : Binds}
    (returned :
      (execSelect json hexDecode sessionKs sel binds none none).run answer
          store =
        (.ok ⟨.rows keyspaceName tableName cols rows sources next, gates, left⟩,
          final)) :
    let partitions := listedPartitions filters projection.table.partitionKeys
    let cap := pageLimit none sel.limit
    (sources.Nodup ↔
        ¬ (ScansListed projection.table filters ∧
          ReadsAgain middle projection keyspace cap partitions)) ∧
      ((∀ partition ∈ partitions, PartsFit partition) →
        (ReadsAgain middle projection keyspace cap partitions ↔
          ListsAgain middle projection keyspace cap partitions)) := by
  intro partitions cap
  refine ⟨?_, fun fits =>
    readsAgain_iff_listsAgain fits fun _ => length_of_mem_listedPartitions⟩
  obtain ⟨last, ran⟩ := planned.execSelect_run
  rw [returned] at ran
  have outcome := congrArg Prod.fst ran
  obtain ⟨found, served, same⟩ := Fallible.map_eq_ok.mp outcome.symm
  cases same
  exact nodup_planRows_iff apart (Fallible.mapError_eq_ok.mp served)

end Statements

/-- The keys that the rows of a response were read from. -/
def Response.sources : Response → List Bytes
  | .rows _ _ _ _ sources _ =>
      sources
  | _ =>
      []

/-- `SELECT v FROM bench.kv WHERE k IN (...)`. -/
def kvSelectIn (keys : List String) : Select where
  tableName := kvName
  columns := [.column (.unquoted "v") none]
  whereClause := [⟨.column (.unquoted "k"), .isIn, .tuple (keys.map .const)⟩]
  limit := none

/-- One engine cannot store a key twice. -/
theorem keysApart_one (store : Storage 1) : store.KeysApart := by
  intro first second _ _ _ _ _ _
  exact Subsingleton.elim first second

/-- `k IN (1, 1)` returns row 1 twice. -/
theorem repeated_value_returns_row_twice :
    kvTable.WellFormed ∧
      kvPair.KeysApart ∧
      (((execSelect cachedJson (fun _ => none) none (kvSelectIn ["1", "1"]) .none
            none none).run answer kvPair).1.toOption.map
          fun executed => executed.response.sources) =
        some [rowKey "bench" "kv" [[0, 0, 0, 1]],
          rowKey "bench" "kv" [[0, 0, 0, 1]]] := by
  refine ⟨by decide +kernel, keysApart_one _, ?_⟩
  decide +kernel

/-- `k IN (1, 2)` returns both rows, each once. -/
theorem no_row_twice_iff_kv :
    ∃ executed final,
      (execSelect cachedJson (fun _ => none) none (kvSelectIn ["1", "2"]) .none
          none none).run answer kvPair =
          (.ok executed, final) ∧
        executed.response.sources.length = 2 ∧
        executed.response.sources.Nodup := by
  have known : kvPair.tables ("bench", "kv") = some kvTable := by
    simp [kvPair, storeHolding, storeWith, kvTable]
  have resolved :
      (resolveTable cachedJson none kvName).run answer kvPair =
        (.ok ("bench", kvTable), kvPair) :=
    resolveTable_run_cached (by decide) known
  have planned :
      PlannedSelect cachedJson (fun _ => none) kvPair none
        (kvSelectIn ["1", "2"]) .none kvPair "bench" [("v", .text)]
        [.isIn "k" [.int 1, .int 2]] .none
        ⟨kvTable, [1], [], [(0, [.int 1, .int 2])], [0]⟩ :=
    ⟨resolved, by decide +kernel, rfl, rfl⟩
  obtain ⟨final, ran⟩ := planned.execSelect_run
  have served :
      planRows 5000 kvPair ⟨kvTable, [1], [], [(0, [.int 1, .int 2])], [0]⟩
          "bench" [.isIn "k" [.int 1, .int 2]] =
        .ok ([[.text "a"], [.text "b"]],
          [rowKey "bench" "kv" [[0, 0, 0, 1]], rowKey "bench" "kv" [[0, 0, 0, 2]]],
          none) := by
    decide +kernel
  change _ = (((planRows 5000 _ _ _ _).mapError _).map _, final) at ran
  rw [served] at ran
  obtain ⟨distinct, listedAgain⟩ :=
    no_row_twice_iff planned (keysApart_one _) ran
  refine ⟨_, final, ran, rfl, distinct.mpr ?_⟩
  rintro ⟨_, again⟩
  exact not_listsAgain_of_nodup (by decide)
    ((listedAgain (by decide)).mp again)

end RhydaDB
