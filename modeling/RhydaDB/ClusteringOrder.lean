import RhydaDB.SelectDistinct
import RhydaDB.StoredTables

namespace RhydaDB

open ByteStrings AtomicPrograms Storage

/-!
# Clustering order

A partition scan streams keys in byte order.  A key part carries its length in
front and its raw bytes behind, so parts are compared by length first, and
integers by their two's complement without its sign.  This is the CQL order of
two clustering values exactly when numbers have one sign and when the shorter
of two texts or blobs also comes first in byte order.
-/

/-! ## The order of key parts -/

/-- Compare two parts as their encodings are compared: by length first. -/
def PartBefore (first second : Bytes) : Prop :=
  first.length < second.length ∨ first.length = second.length ∧ first < second

/-- Compare as many parts, the first different ones decide. -/
def PartsBefore : List Bytes → List Bytes → Prop
  | first :: firsts, second :: seconds =>
      PartBefore first second ∨ first = second ∧ PartsBefore firsts seconds
  | _, _ =>
      False

/-- No part comes before itself. -/
theorem not_partBefore_self (part : Bytes) : ¬ PartBefore part part := by
  rintro (less | ⟨_, less⟩)
  · exact lt_irrefl _ less
  · exact lt_irrefl _ less

/-- Behind a common prefix the order is that of the rest. -/
theorem append_left_lt_iff (leading first second : Bytes) :
    leading ++ first < leading ++ second ↔ first < second := by
  rw [append_lt_append_iff rfl]
  simp

/-- Encoded keys of as many short parts are ordered as their parts. -/
theorem encodeKey_lt_iff
    {first second : List Bytes}
    (firstFits : PartsFit first)
    (secondFits : PartsFit second)
    (sameLength : first.length = second.length) :
    encodeKey first < encodeKey second ↔ PartsBefore first second := by
  induction first generalizing second with
  | nil =>
      cases List.length_eq_zero_iff.mp sameLength.symm
      simp [encodeKey, PartsBefore]
  | cons part rest inductionHypothesis =>
      cases second with
      | nil =>
          cases sameLength
      | cons otherPart otherRest =>
          have fits := firstFits part (by simp)
          have otherFits := secondFits otherPart (by simp)
          have tails :=
            inductionHypothesis
              (fun later member => firstFits later (by simp [member]))
              (fun later member => secondFits later (by simp [member]))
              (Nat.succ.inj sameLength)
          have fields :
              toBe 2 part.length < toBe 2 otherPart.length ↔
                part.length < otherPart.length := by
            rw [lt_iff_ofBe_lt (by simp), ofBe_length_field fits,
              ofBe_length_field otherFits]
          rw [encodeKey, encodeKey, PartsBefore, List.append_assoc,
            List.append_assoc, append_lt_append_iff (by simp), fields]
          by_cases lengths : part.length = otherPart.length
          · rw [append_lt_append_iff lengths, tails, PartBefore, lengths]
            simp
          · have otherFields : toBe 2 part.length ≠ toBe 2 otherPart.length := by
              intro same
              have read := congrArg ofBe same
              rw [ofBe_length_field fits, ofBe_length_field otherFits] at read
              exact lengths read
            have otherParts : part ≠ otherPart := fun same => lengths (by rw [same])
            simp [PartBefore, lengths, otherFields, otherParts]

/-! ## The order of values -/

/-- The clustering types with an order of their own. -/
def ColumnType.Orderable : ColumnType → Prop
  | .int =>
      True
  | .bigInt =>
      True
  | .smallInt =>
      True
  | .tinyInt =>
      True
  | .timestamp =>
      True
  | .text =>
      True
  | .blob =>
      True
  | _ =>
      False

/-- Whichever of two byte strings is shorter comes first in byte order. -/
def ShorterFirst (first second : Bytes) : Prop :=
  (first.length < second.length → first < second) ∧
    (second.length < first.length → second < first)

namespace Value

/-- The CQL order: signed numbers, and the bytes of texts and blobs. -/
def Precedes : Value → Value → Prop
  | .int first, .int second =>
      first.toInt < second.toInt
  | .bigInt first, .bigInt second =>
      first.toInt < second.toInt
  | .smallInt first, .smallInt second =>
      first.toInt < second.toInt
  | .tinyInt first, .tinyInt second =>
      first.toInt < second.toInt
  | .timestamp first, .timestamp second =>
      first.toInt < second.toInt
  | .text first, .text second =>
      utf8 first < utf8 second
  | .blob first, .blob second =>
      first < second
  | _, _ =>
      False

/-- Numbers of one sign; texts or blobs of which the shorter comes first. -/
def StoredInOrder : Value → Value → Prop
  | .int first, .int second =>
      first.toInt < 0 ↔ second.toInt < 0
  | .bigInt first, .bigInt second =>
      first.toInt < 0 ↔ second.toInt < 0
  | .smallInt first, .smallInt second =>
      first.toInt < 0 ↔ second.toInt < 0
  | .tinyInt first, .tinyInt second =>
      first.toInt < 0 ↔ second.toInt < 0
  | .timestamp first, .timestamp second =>
      first.toInt < 0 ↔ second.toInt < 0
  | .text first, .text second =>
      ShorterFirst (utf8 first) (utf8 second)
  | .blob first, .blob second =>
      ShorterFirst first second
  | _, _ =>
      False

/-- No value precedes itself. -/
theorem not_precedes_self (value : Value) : ¬ value.Precedes value := by
  cases value <;> simp [Precedes]

end Value

/-- Words of one sign are ordered as their bits, of two signs the other way. -/
theorem toInt_lt_iff
    {width : Nat}
    {first second : BitVec width}
    (less : first.toNat < second.toNat) :
    first.toInt < second.toInt ↔ (first.toInt < 0 ↔ second.toInt < 0) := by
  have firstBound := first.isLt
  have secondBound := second.isLt
  rw [BitVec.toInt_eq_toNat_cond, BitVec.toInt_eq_toNat_cond]
  generalize 2 ^ width = modulus at firstBound secondBound ⊢
  split <;> split <;> omega

/-- The bytes of two words are ordered as their bits. -/
theorem toNat_lt_of_partBefore
    {width first second : Nat}
    (firstFits : first < 256 ^ width)
    (secondFits : second < 256 ^ width)
    (before : PartBefore (toBe width first) (toBe width second)) :
    first < second := by
  rcases before with shorter | ⟨_, less⟩
  · simp at shorter
  · rw [lt_iff_ofBe_lt (by simp), ofBe_toBe_of_lt firstFits,
      ofBe_toBe_of_lt secondFits] at less
    exact less

/-- Parts of bytes are in byte order when the shorter one comes first. -/
theorem lt_iff_shorterFirst
    {first second : Bytes}
    (before : PartBefore first second) :
    first < second ↔ ShorterFirst first second := by
  unfold ShorterFirst
  rcases before with shorter | ⟨sameLength, less⟩
  · simp [shorter, not_lt_of_gt shorter]
  · simp [sameLength, less]

/-- Of two values that are stored one before the other the CQL order is kept or not. -/
theorem Value.precedes_iff_storedInOrder
    {columnType : ColumnType}
    (orderable : columnType.Orderable)
    {first second : Value}
    (firstTyped : first.WellTyped columnType)
    (secondTyped : second.WellTyped columnType)
    (before : PartBefore first.rawBytes second.rawBytes) :
    first.Precedes second ↔ first.StoredInOrder second := by
  cases columnType with
  | int =>
      cases first <;> try exact firstTyped.elim
      cases second <;> try exact secondTyped.elim
      rename_i first second
      exact toInt_lt_iff (toNat_lt_of_partBefore first.toUInt32.toNat_lt
        second.toUInt32.toNat_lt before)
  | bigInt =>
      cases first <;> try exact firstTyped.elim
      cases second <;> try exact secondTyped.elim
      rename_i first second
      exact toInt_lt_iff (toNat_lt_of_partBefore first.toUInt64.toNat_lt
        second.toUInt64.toNat_lt before)
  | smallInt =>
      cases first <;> try exact firstTyped.elim
      cases second <;> try exact secondTyped.elim
      rename_i first second
      exact toInt_lt_iff (toNat_lt_of_partBefore first.toUInt16.toNat_lt
        second.toUInt16.toNat_lt before)
  | tinyInt =>
      cases first <;> try exact firstTyped.elim
      cases second <;> try exact secondTyped.elim
      rename_i first second
      have less : first.toUInt8.toNat < second.toUInt8.toNat := by
        simpa [PartBefore, Value.rawBytes, List.cons_lt_cons_iff,
          UInt8.lt_iff_toNat_lt] using before
      exact toInt_lt_iff less
  | timestamp =>
      cases first <;> try exact firstTyped.elim
      cases second <;> try exact secondTyped.elim
      rename_i first second
      exact toInt_lt_iff (toNat_lt_of_partBefore first.toUInt64.toNat_lt
        second.toUInt64.toNat_lt before)
  | text =>
      cases first <;> try exact firstTyped.elim
      cases second <;> try exact secondTyped.elim
      exact lt_iff_shorterFirst before
  | blob =>
      cases first <;> try exact firstTyped.elim
      cases second <;> try exact secondTyped.elim
      exact lt_iff_shorterFirst before
  | _ =>
      exact orderable.elim

/-! ## The order of rows -/

/-- Lexicographic CQL order of as many clustering values. -/
def ClusteringBefore : List Value → List Value → Prop
  | first :: firsts, second :: seconds =>
      first.Precedes second ∨ first = second ∧ ClusteringBefore firsts seconds
  | _, _ =>
      False

/-- The first different clustering values are stored in their order. -/
def ClusteringKept : List Value → List Value → Prop
  | first :: firsts, second :: seconds =>
      (first ≠ second → first.StoredInOrder second) ∧
        (first = second → ClusteringKept firsts seconds)
  | _, _ =>
      True

/-- A value of an orderable type that fits the length field of a key part. -/
def OrderableValue (columnType : ColumnType) (value : Value) : Prop :=
  columnType.Orderable ∧
    value.WellTyped columnType ∧ value.rawBytes.length ≤ 65535

/-- Of two stored lists of clustering values the CQL order is kept or not. -/
theorem clusteringBefore_iff_kept
    {types : List ColumnType}
    {first second : List Value}
    (firstTyped : List.Forall₂ OrderableValue types first)
    (secondTyped : List.Forall₂ OrderableValue types second)
    (before :
      PartsBefore (first.map Value.rawBytes) (second.map Value.rawBytes)) :
    ClusteringBefore first second ↔ ClusteringKept first second := by
  induction firstTyped generalizing second with
  | nil =>
      cases secondTyped
      exact before.elim
  | @cons columnType value types values typed _ inductionHypothesis =>
      cases secondTyped with
      | @cons _ other _ others otherTyped othersTyped =>
          obtain ⟨orderable, wellTyped, fits⟩ := typed
          obtain ⟨_, otherWellTyped, otherFits⟩ := otherTyped
          rw [ClusteringBefore, ClusteringKept]
          rcases before with firstBefore | ⟨sameBytes, laterBefore⟩
          · have different : value ≠ other := by
              rintro rfl
              exact not_partBefore_self _ firstBefore
            have kept :=
              Value.precedes_iff_storedInOrder orderable wellTyped otherWellTyped
                firstBefore
            simp [different, kept]
          · have same : value = other := by
              have decoded := Value.fromRawBytes_rawBytes wellTyped (by omega)
              rw [sameBytes, Value.fromRawBytes_rawBytes otherWellTyped (by omega)]
                at decoded
              exact (Except.ok.inj decoded).symm
            subst same
            have later := inductionHypothesis othersTyped laterBefore
            simp [Value.not_precedes_self, later]

/-- All clustering columns have types with an order. -/
def TableDef.ClustersOrderable (table : TableDef) : Prop :=
  ∀ column ∈ table.columns,
    column.name ∈ table.clusteringKeys → column.colType.Orderable

namespace TableRow

variable {table : TableDef}

/-- The values of the clustering columns. -/
def clusteringValues (row : TableRow table) : List Value :=
  row.keyValues.drop table.partitionKeys.length

/-- The row lies in the partition with these key parts. -/
def LiesIn (row : TableRow table) (partition : List Bytes) : Prop :=
  partition.length = table.partitionKeys.length ∧ partition <+: row.keyParts

/-- The parts of a row behind those of its partition are its clustering values. -/
theorem LiesIn.keyParts_eq
    {row : TableRow table}
    {partition : List Bytes}
    (inside : row.LiesIn partition) :
    row.keyParts = partition ++ row.clusteringValues.map Value.rawBytes := by
  obtain ⟨length, rest, whole⟩ := inside
  rw [← whole, clusteringValues, List.map_drop, ← keyParts, ← whole, ← length,
    List.drop_left]

/-- Rows of one partition are stored in the order of their clustering parts. -/
theorem key_lt_iff
    {first second : TableRow table}
    {partition : List Bytes}
    (firstInside : first.LiesIn partition)
    (secondInside : second.LiesIn partition)
    (keyspace : String) :
    first.key keyspace < second.key keyspace ↔
      PartsBefore (first.clusteringValues.map Value.rawBytes)
        (second.clusteringValues.map Value.rawBytes) := by
  have firstFits := first.partsFit
  have secondFits := second.partsFit
  rw [firstInside.keyParts_eq] at firstFits
  rw [secondInside.keyParts_eq] at secondFits
  have sameLength :
      (first.clusteringValues.map Value.rawBytes).length =
        (second.clusteringValues.map Value.rawBytes).length := by
    simp [clusteringValues, ← first.keysHeld.length_eq,
      ← second.keysHeld.length_eq]
  rw [key, key, rowKey, rowKey, firstInside.keyParts_eq, secondInside.keyParts_eq,
    encodeKey_append, encodeKey_append, append_left_lt_iff, append_left_lt_iff]
  exact encodeKey_lt_iff
    (fun part member => firstFits part (by simp [member]))
    (fun part member => secondFits part (by simp [member])) sameLength

/-- Clustering values are of orderable types that the table fixes. -/
theorem clusteringValues_orderable
    (wellFormed : table.WellFormed)
    (orderable : table.ClustersOrderable)
    (row : TableRow table) :
    List.Forall₂ OrderableValue
      (table.clusteringKeys.map fun name =>
        (table.column name).elim .int ColumnDef.colType)
      row.clusteringValues := by
  have held := List.forall₂_drop table.partitionKeys.length row.keysHeld
  rw [TableDef.keyNames, List.drop_left] at held
  rw [List.forall₂_map_left_iff]
  have listed :=
    (List.forall₂_and_left _ _).mpr ⟨fun name member => member, held⟩
  refine listed.imp ?_
  rintro name value ⟨isClustering, column, member, rfl, typed, fits⟩
  rw [wellFormed.column_name member]
  exact ⟨orderable column member isClustering, typed, fits⟩

/-- Of two rows stored one before the other the CQL order is kept or not. -/
theorem clusteringBefore_iff
    (wellFormed : table.WellFormed)
    (orderable : table.ClustersOrderable)
    {first second : TableRow table}
    {partition : List Bytes}
    (firstInside : first.LiesIn partition)
    (secondInside : second.LiesIn partition)
    {keyspace : String}
    (less : first.key keyspace < second.key keyspace) :
    ClusteringBefore first.clusteringValues second.clusteringValues ↔
      ClusteringKept first.clusteringValues second.clusteringValues :=
  clusteringBefore_iff_kept
    (first.clusteringValues_orderable wellFormed orderable)
    (second.clusteringValues_orderable wellFormed orderable)
    ((key_lt_iff firstInside secondInside keyspace).mp less)

end TableRow

/-! ## Pages of a partition -/

/-- Whether a page starts behind this key. -/
def behindPage (pagingState : Option Bytes) (key : Bytes) : Bool :=
  !(pagingState.any fun last => decide (key ≤ last))

/-- A paged scan is an unpaged scan of the entries behind the paging state. -/
theorem visitEntries_paged
    (projection : Projection)
    (keyspace : String)
    (pagingState : Option Bytes)
    (limit : Nat)
    (entries : List (Bytes × Bytes))
    (state : ScanState) :
    visitEntries (ScanState.visit projection keyspace pagingState limit) state
        entries =
      visitEntries (ScanState.visit projection keyspace none limit) state
        (entries.filter fun entry => behindPage pagingState entry.1) := by
  induction entries generalizing state with
  | nil =>
      rfl
  | cons entry rest inductionHypothesis =>
      obtain ⟨key, value⟩ := entry
      cases skipped : pagingState.any fun last => decide (key ≤ last) with
      | true =>
          have stays :
              state.visit projection keyspace pagingState limit key value =
                (state, true) := by
            rw [ScanState.visit, skipped]
            rfl
          rw [visitEntries, stays, List.filter_cons_of_neg
            (by simp [behindPage, skipped])]
          exact inductionHypothesis state
      | false =>
          have visited :
              state.visit projection keyspace pagingState limit key value =
                state.visit projection keyspace none limit key value := by
            rw [ScanState.visit, ScanState.visit, skipped]
            rfl
          rw [visitEntries, visited, List.filter_cons_of_pos
            (by simp [behindPage, skipped]), visitEntries]
          split
          · exact inductionHypothesis _
          · rfl

/-- A scan that meets no fault gathers the first rows of its stream. -/
theorem visitEntries_start
    {projection : Projection}
    {keyspace : String}
    {entries : List (Bytes × Bytes)}
    (noFault : (emitted projection keyspace entries).2 = none)
    (limit : Nat) :
    let state :=
      (visitEntries (ScanState.visit projection keyspace none limit) .start
        entries).1
    state.errorSlot = none ∧
      state.rows =
        ((emitted projection keyspace entries).1.take limit).map Prod.fst ∧
      state.sources =
        ((emitted projection keyspace entries).1.take limit).map Prod.snd := by
  intro state
  rcases Nat.eq_zero_or_pos limit with rfl | positive
  · have bare : state.Bare :=
      ScanState.visitEntries_bare ⟨rfl, rfl, rfl⟩ entries
    exact ⟨bare.noError, bare.noRows, bare.noSources⟩
  · have ready : ScanState.start.Ready limit :=
      ⟨positive, rfl, rfl⟩
    simp only [state, ScanState.visitEntries_visit ready, ScanState.afterEntries,
      noFault]
    split
    · exact ⟨rfl, rfl, rfl⟩
    · rename_i fewer
      have all : (emitted projection keyspace entries).1.length ≤ limit := by
        simp only [ScanState.start, List.length_nil, Nat.zero_add, not_le] at fewer
        exact fewer.le
      rw [List.take_of_length_le all]
      exact ⟨rfl, rfl, rfl⟩

section Pages

variable {shards : Nat} [NeZero shards]

/-- The rows of a partition that pass the filters, behind the paging state. -/
def pageRows
    (store : Storage shards)
    (projection : Projection)
    (keyspace : String)
    (partition : List Bytes)
    (pagingState : Option Bytes)
    (cap : Nat) :
    List (List Value × Bytes) :=
  (emitted projection keyspace
    ((partitionEntries store keyspace projection.table.name partition).filter
      fun entry => behindPage pagingState entry.1)).1.take cap

/-- The filters restrict every partition column, to this partition. -/
def RestrictsTo
    (table : TableDef)
    (filters : List Filter)
    (partition : List Bytes) :
    Prop :=
  (table.partitionKeys.all fun name => filters.any (·.restricts name)) = true ∧
    listedPartitions filters table.partitionKeys = [partition]

variable
  {store : Storage shards}
  {projection : Projection}
  (wellFormed : projection.table.WellFormed)
  (columnsFit : projection.table.columns.length ≤ 2 ^ 16)
  (resolves : projection.Resolves)
  {keyspace : String}
  (holds : store.HoldsRows keyspace projection.table)

include wellFormed columnsFit resolves holds

/-- Entries of a partition decode. -/
theorem emitted_partition_noFault
    (partition : List Bytes)
    (kept : Bytes × Bytes → Bool) :
    (emitted projection keyspace
      ((partitionEntries store keyspace projection.table.name partition).filter
        kept)).2 = none := by
  have rowsOnly :
      ∀ entry ∈
        (partitionEntries store keyspace projection.table.name partition).filter
          kept,
        ∃ row : TableRow projection.table,
          row.key keyspace = entry.1 ∧ row.bytes = entry.2 := by
    intro entry member
    obtain ⟨under, here⟩ :=
      mem_partitionEntries.mp (List.mem_filter.mp member).1
    exact holds.stored _ _ _ ((List.prefix_append _ _).trans under) here
  generalize (partitionEntries store keyspace projection.table.name
    partition).filter kept = entries at rowsOnly
  induction entries with
  | nil =>
      rfl
  | cons entry rest inductionHypothesis =>
      obtain ⟨key, value⟩ := entry
      obtain ⟨row, sameKey, sameBytes⟩ := rowsOnly (key, value) (by simp)
      have decoded := entryRow_row wellFormed columnsFit resolves keyspace row
      simp only at sameKey sameBytes
      rw [sameKey, sameBytes] at decoded
      have later :=
        inductionHypothesis fun other member => rowsOnly other (by simp [member])
      rw [emitted, decoded]
      cases projection.accepts row.values with
      | false =>
          exact later
      | true =>
          exact later

/-- A scan of one partition returns its page. -/
theorem selectRows_page
    {filters : List Filter}
    (isScan : pointKey projection.table filters = none)
    {partition : List Bytes}
    (restricted : RestrictsTo projection.table filters partition)
    (pageSize limit : Option Int32)
    (pagingState : Option Bytes) :
    ∃ next,
      (selectRows projection keyspace filters pageSize limit pagingState).run
          answer store =
        (.ok
          ((pageRows store projection keyspace partition pagingState
              (pageLimit pageSize limit)).map Prod.fst,
            (pageRows store projection keyspace partition pagingState
              (pageLimit pageSize limit)).map Prod.snd,
            next),
          store) := by
  have noFault :=
    emitted_partition_noFault wellFormed columnsFit resolves holds partition
      fun entry => behindPage pagingState entry.1
  have scanned :
      (scanRowsMatching projection keyspace filters pagingState
          (pageLimit pageSize limit)).run answer store =
        (.ok (visitEntries
          (ScanState.visit projection keyspace none (pageLimit pageSize limit))
          .start
          ((partitionEntries store keyspace projection.table.name
            partition).filter fun entry => behindPage pagingState entry.1)).1,
          store) := by
    rw [scanRowsMatching, if_pos restricted.1, restricted.2, scanPartitions,
      Program.run_bind_of_ok answer
        (forEachInPartition_run store keyspace projection.table.name partition
          _ _), ← partitionEntries, visitEntries_paged]
    split <;> rfl
  have gathered := visitEntries_start noFault (pageLimit pageSize limit)
  generalize (visitEntries
    (ScanState.visit projection keyspace none (pageLimit pageSize limit)) .start
    ((partitionEntries store keyspace projection.table.name
      partition).filter fun entry => behindPage pagingState entry.1)).1 = state
    at scanned gathered
  obtain ⟨noError, rows, sources⟩ := gathered
  refine ⟨nextPagingState pageSize limit state, ?_⟩
  simp only [selectRows, isScan, selectScan]
  rw [Program.run_bind_of_ok answer scanned]
  simp only [noError, rows, sources, pageRows]
  rfl

end Pages

/-! ## SELECT -/

section Statements

variable {shards : Nat}

/-- The response lists rows of the store in ascending clustering order. -/
def Response.InClusteringOrder
    (store : Storage shards)
    (projection : Projection)
    (keyspace : String) :
    Response →
    Prop
  | .rows _ _ _ outputs sources _ =>
      ∃ found : List (TableRow projection.table),
        (∀ row ∈ found, store.Stores keyspace row) ∧
          sources = found.map (fun row => row.key keyspace) ∧
          outputs = found.map (fun row => projection.project row.values) ∧
          found.Pairwise fun first second =>
            ClusteringBefore first.clusteringValues second.clusteringValues
  | _ =>
      False

variable
  {store : Storage shards}
  {projection : Projection}
  {keyspace : String}

/-- Returned rows as a list of rows. -/
theorem exists_rows
    {outputs : List (List Value)}
    {sources : List Bytes}
    (readFrom :
      List.Forall₂ (ReadFrom store projection keyspace) outputs sources) :
    ∃ found : List (TableRow projection.table),
      (∀ row ∈ found, store.Stores keyspace row) ∧
        sources = found.map (fun row => row.key keyspace) ∧
        outputs = found.map (fun row => projection.project row.values) := by
  induction readFrom with
  | nil =>
      exact ⟨[], by simp, rfl, rfl⟩
  | cons first _ inductionHypothesis =>
      obtain ⟨row, stores, rfl, rfl⟩ := first
      obtain ⟨found, storesAll, rfl, rfl⟩ := inductionHypothesis
      refine ⟨row :: found, ?_, rfl, rfl⟩
      exact List.forall_mem_cons.mpr ⟨stores, storesAll⟩

/-- Key values are determined by their raw bytes. -/
theorem keyHolds_unique
    {table : TableDef}
    (wellFormed : table.WellFormed)
    {names : List String}
    {first second : List Value}
    (firstHeld : List.Forall₂ table.KeyHolds names first)
    (secondHeld : List.Forall₂ table.KeyHolds names second)
    (sameBytes : first.map Value.rawBytes = second.map Value.rawBytes) :
    first = second := by
  induction firstHeld generalizing second with
  | nil =>
      cases secondHeld
      rfl
  | @cons name value _ _ holds _ inductionHypothesis =>
      cases secondHeld with
      | @cons _ other _ _ otherHolds othersHeld =>
          obtain ⟨column, member, rfl, typed, fits⟩ := holds
          obtain ⟨otherColumn, isOther, sameName, otherTyped, otherFits⟩ :=
            otherHolds
          cases wellFormed.column_unique isOther member sameName
          obtain ⟨sameFirst, sameRest⟩ := List.cons.inj sameBytes
          have decoded := Value.fromRawBytes_rawBytes typed (by omega)
          rw [sameFirst, Value.fromRawBytes_rawBytes otherTyped (by omega)]
            at decoded
          cases decoded
          rw [inductionHypothesis othersHeld sameRest]

/-- Rows stored under one key have the same clustering values. -/
theorem TableRow.clusteringValues_unique
    {table : TableDef}
    (wellFormed : table.WellFormed)
    {first second : TableRow table}
    (sameKey : first.key keyspace = second.key keyspace) :
    first.clusteringValues = second.clusteringValues := by
  have sameParts : first.keyParts = second.keyParts :=
    encodeKey_injective first.partsFit second.partsFit
      (List.append_cancel_left sameKey)
  rw [clusteringValues, clusteringValues,
    keyHolds_unique wellFormed first.keysHeld second.keysHeld sameParts]

/-- Rows listed by key stand one before the other as their keys do. -/
theorem pairwise_of_key_lt
    {table : TableDef}
    {found : List (TableRow table)}
    (sorted : (found.map fun row => row.key keyspace).Pairwise (· < ·))
    {relation : TableRow table → TableRow table → Prop} :
    found.Pairwise relation ↔
      ∀ first ∈ found, ∀ second ∈ found,
        first.key keyspace < second.key keyspace → relation first second := by
  rw [List.pairwise_map] at sorted
  constructor
  · intro related first isFirst second isSecond less
    obtain ⟨index, inside, rfl⟩ := List.mem_iff_getElem.mp isFirst
    obtain ⟨other, otherInside, rfl⟩ := List.mem_iff_getElem.mp isSecond
    rcases lt_trichotomy index other with before | rfl | after
    · exact List.pairwise_iff_getElem.mp related index other inside otherInside
        before
    · exact absurd less (lt_irrefl _)
    · exact absurd less (lt_asymm
        (List.pairwise_iff_getElem.mp sorted other index otherInside inside after))
  · intro related
    exact sorted.imp_of_mem fun isFirst isSecond less =>
      related _ isFirst _ isSecond less

/-- The page's rows whose first different clustering values are stored in order. -/
def KeptInOrder
    (table : TableDef)
    (keyspace : String)
    (keys : List Bytes) :
    Prop :=
  ∀ first second : TableRow table,
    first.key keyspace ∈ keys →
    second.key keyspace ∈ keys →
    first.key keyspace < second.key keyspace →
    ClusteringKept first.clusteringValues second.clusteringValues

/-- A lookup by key returns at most one row. -/
theorem length_sources_point
    [NeZero shards]
    {filters : List Filter}
    {keyParts : List Bytes}
    (point : pointKey projection.table filters = some keyParts)
    {pageSize limit : Option Int32}
    {pagingState next : Option Bytes}
    {outputs : List (List Value)}
    {sources : List Bytes}
    {final : Storage shards}
    (ran :
      (selectRows projection keyspace filters pageSize limit pagingState).run
          answer store =
        (.ok (outputs, sources, next), final)) :
    sources.length ≤ 1 := by
  obtain ⟨existing, read, looked⟩ :=
    exists_getRow_run store keyspace projection.table.name keyParts
  simp only [selectRows, point, selectPoint] at ran
  rw [Program.run_bind, Program.run_bind_of_ok answer looked] at ran
  cases existing with
  | none =>
      cases ran
      exact Nat.zero_le _
  | some bytes =>
      simp only [Program.run_bind, Program.run_ofExcept] at ran
      cases projected : projection.projectPoint keyParts bytes with
      | error fault =>
          rw [projected] at ran
          cases ran
      | ok found =>
          rw [projected] at ran
          cases found with
          | none =>
              cases ran
              exact Nat.zero_le _
          | some row =>
              cases ran
              exact Nat.le_refl _

/-- A page of a partition lists keys of the partition in byte order. -/
theorem pageRows_sorted
    [NeZero shards]
    (partition : List Bytes)
    (pagingState : Option Bytes)
    (cap : Nat) :
    let keys :=
      (pageRows store projection keyspace partition pagingState cap).map Prod.snd
    keys.Pairwise (· < ·) ∧
      ∀ key ∈ keys,
        dataPrefix keyspace projection.table.name ++ encodeKey partition <+:
          key := by
  intro keys
  have listed :
      keys.Sublist
        ((partitionEntries store keyspace projection.table.name partition).map
          Prod.fst) :=
    ((List.take_sublist _ _).map _).trans
      ((sources_sublist _).trans (List.filter_sublist.map _))
  constructor
  · refine List.Pairwise.sublist listed ?_
    rw [List.pairwise_map]
    exact ByteMap.pairwise_scanStem _ _
  · intro key member
    obtain ⟨⟨_, value⟩, isEntry, rfl⟩ := List.mem_map.mp (listed.subset member)
    exact (mem_partitionEntries.mp isEntry).1

/-- A page of rows of a partition is in clustering order when order is kept. -/
theorem inClusteringOrder_iff
    (wellFormed : projection.table.WellFormed)
    (orderable : projection.table.ClustersOrderable)
    {partition : List Bytes}
    (length : partition.length = projection.table.partitionKeys.length)
    (partitionFits : PartsFit partition)
    {keyspaceName tableName : String}
    {cols : List (String × ColumnType)}
    {outputs : List (List Value)}
    {sources : List Bytes}
    {next : Option Bytes}
    (sorted : sources.Pairwise (· < ·))
    (under :
      ∀ key ∈ sources,
        dataPrefix keyspace projection.table.name ++ encodeKey partition <+: key)
    (readFrom :
      List.Forall₂ (ReadFrom store projection keyspace) outputs sources) :
    (Response.rows keyspaceName tableName cols outputs sources next).InClusteringOrder
        store projection keyspace ↔
      KeptInOrder projection.table keyspace sources := by
  have liesIn :
      ∀ row : TableRow projection.table,
        row.key keyspace ∈ sources → row.LiesIn partition := by
    intro row member
    have below := under _ member
    rw [TableRow.key, rowKey, List.prefix_append_right_inj,
      encodeKey_prefix_iff partitionFits row.partsFit] at below
    exact ⟨length, below⟩
  constructor
  · rintro ⟨found, _, rfl, _, related⟩ first second isFirst isSecond less
    obtain ⟨row, isRow, sameKey⟩ := List.mem_map.mp isFirst
    obtain ⟨other, isOther, sameOther⟩ := List.mem_map.mp isSecond
    rw [← sameKey, ← sameOther] at less
    have before := (pairwise_of_key_lt sorted).mp related row isRow other isOther less
    rw [TableRow.clusteringBefore_iff wellFormed orderable
      (liesIn row (List.mem_map_of_mem isRow))
      (liesIn other (List.mem_map_of_mem isOther)) less] at before
    rwa [TableRow.clusteringValues_unique wellFormed sameKey,
      TableRow.clusteringValues_unique wellFormed sameOther] at before
  · intro kept
    obtain ⟨found, stores, rfl, rfl⟩ := exists_rows readFrom
    refine ⟨found, stores, rfl, rfl, (pairwise_of_key_lt sorted).mpr ?_⟩
    intro first isFirst second isSecond less
    have firstListed : first.key keyspace ∈ found.map fun row => row.key keyspace :=
      List.mem_map_of_mem isFirst
    have secondListed :
        second.key keyspace ∈ found.map fun row => row.key keyspace :=
      List.mem_map_of_mem isSecond
    rw [TableRow.clusteringBefore_iff wellFormed orderable (liesIn first firstListed)
      (liesIn second secondListed) less]
    exact kept first second firstListed secondListed less

/--
A SELECT restricted to one partition returns its rows in clustering order
exactly when, of any two rows on its page, the first different clustering
values are stored in their order; a lookup of one row is always in order.
-/
theorem partition_order_iff
    [NeZero shards]
    {json : CatalogJson}
    {hexDecode : HexDecode}
    {middle : Storage shards}
    {sessionKs : Option String}
    {sel : Select}
    {binds rest : Binds}
    {selected : List (String × ColumnType)}
    {filters : List Filter}
    (planned :
      PlannedSelect json hexDecode store sessionKs sel binds middle keyspace
        selected filters rest projection)
    (wellFormed : projection.table.WellFormed)
    (columnsFit : projection.table.columns.length ≤ 2 ^ 16)
    (orderable : projection.table.ClustersOrderable)
    {partition : List Bytes}
    (restricted : RestrictsTo projection.table filters partition)
    (partitionFits : PartsFit partition)
    (keyFits :
      ∀ keyParts,
        pointKey projection.table filters = some keyParts → PartsFit keyParts)
    (holds : middle.HoldsRows keyspace projection.table)
    (pageSize : Option Int32)
    (pagingState : Option Bytes) :
    ∃ executed final,
      (execSelect json hexDecode sessionKs sel binds pageSize pagingState).run
          answer store =
          (.ok executed, final) ∧
        (pointKey projection.table filters ≠ none →
          executed.response.InClusteringOrder middle projection keyspace) ∧
        (pointKey projection.table filters = none →
          (executed.response.InClusteringOrder middle projection keyspace ↔
            KeptInOrder projection.table keyspace
              ((pageRows middle projection keyspace partition pagingState
                (pageLimit pageSize sel.limit)).map Prod.snd))) := by
  obtain ⟨_, resolves⟩ := Projection.resolves_of_build planned.built
  obtain ⟨outputs, sources, next, final, ran, readFrom⟩ :=
    selectRows_readFrom wellFormed columnsFit resolves holds keyFits pageSize
      sel.limit pagingState
  have selects :
      (internally (selectRows projection keyspace filters pageSize sel.limit
          pagingState)).run answer middle =
        (.ok (outputs, sources, next), final) :=
    (Program.run_mapFailure_eq_ok answer).mpr ran
  refine ⟨⟨.rows keyspace projection.table.name selected outputs sources next, [],
    rest⟩, final, ?_, ?_, ?_⟩
  · rw [execSelect_run planned.resolved, selectFrom, planned.columns,
      planned.parsed]
    simp only [Program.run_bind, Program.run_ofExcept, planned.built]
    rw [selects]
    rfl
  · intro isPoint
    obtain ⟨keyParts, point⟩ := Option.ne_none_iff_exists'.mp isPoint
    have atMostOne := length_sources_point point ran
    obtain ⟨found, stores, rfl, rfl⟩ := exists_rows readFrom
    rw [List.length_map] at atMostOne
    refine ⟨found, stores, rfl, rfl, ?_⟩
    cases found with
    | nil =>
        exact .nil
    | cons row others =>
        have noOthers : others = [] :=
          List.length_eq_zero_iff.mp (Nat.le_zero.mp (Nat.le_of_succ_le_succ atMostOne))
        rw [noOthers]
        exact List.pairwise_singleton _ _
  · intro isScan
    obtain ⟨_, paged⟩ :=
      selectRows_page wellFormed columnsFit resolves holds isScan restricted
        pageSize sel.limit pagingState
    rw [ran] at paged
    cases paged
    have listed :
        partition ∈ listedPartitions filters projection.table.partitionKeys := by
      rw [restricted.2]
      exact List.mem_cons_self
    have page :
        ((pageRows middle projection keyspace partition pagingState
            (pageLimit pageSize sel.limit)).map Prod.snd).Pairwise (· < ·) ∧
          ∀ key ∈ (pageRows middle projection keyspace partition pagingState
              (pageLimit pageSize sel.limit)).map Prod.snd,
            dataPrefix keyspace projection.table.name ++ encodeKey partition <+:
              key :=
      pageRows_sorted partition pagingState (pageLimit pageSize sel.limit)
    exact inClusteringOrder_iff wellFormed orderable
      (length_of_mem_listedPartitions listed) partitionFits page.1 page.2 readFrom

end Statements

/-- Events of a key, clustered by a column of the given type. -/
def eventsTable (columnType : ColumnType) : TableDef where
  keyspace := "bench"
  name := "events"
  columns := [⟨"k", .int, true, false⟩, ⟨"c", columnType, false, true⟩]
  partitionKeys := ["k"]
  clusteringKeys := ["c"]

/-- Events of key 1. -/
def eventsHolding (columnType : ColumnType) (values : List Value) : Storage 1 :=
  storeHolding (eventsTable columnType)
    (values.map fun value =>
      ([(Value.int 1).rawBytes, value.rawBytes], encodeRowColumns []))

/-- `SELECT c FROM bench.events WHERE k = 1`. -/
def eventsOfKey : Select where
  tableName := ⟨some (.unquoted "bench"), .unquoted "events"⟩
  columns := [.column (.unquoted "c") none]
  whereClause := [⟨.column (.unquoted "k"), .equal, .const "1"⟩]
  limit := none

/-- What the SELECT returns of the events of key 1. -/
def eventsReturned (columnType : ColumnType) (values : List Value) :
    Option (List (List Value)) :=
  ((execSelect cachedJson (fun _ => none) none eventsOfKey .none none none).run
      answer (eventsHolding columnType values)).1.toOption.map
    fun executed => executed.response.outputs

/-- The event 1 is returned before the event -1, and `'b'` before `'aa'`. -/
theorem longer_and_negative_come_last :
    (eventsTable .int).WellFormed ∧
      (eventsTable .int).ClustersOrderable ∧
      eventsReturned .int [.int (-1), .int 1] = some [[.int 1], [.int (-1)]] ∧
      ¬ ClusteringBefore [.int 1] [.int (-1)] ∧
      (eventsTable .text).WellFormed ∧
      (eventsTable .text).ClustersOrderable ∧
      eventsReturned .text [.text "aa", .text "b"] =
        some [[.text "b"], [.text "aa"]] ∧
      ¬ ClusteringBefore [.text "b"] [.text "aa"] := by
  have orderable :
      ∀ columnType : ColumnType,
        columnType.Orderable → (eventsTable columnType).ClustersOrderable := by
    intro columnType ordered column member clusters
    simp only [eventsTable, List.mem_cons, List.not_mem_nil, or_false] at member
    rcases member with rfl | rfl
    · exact absurd (List.mem_singleton.mp clusters) (by decide)
    · exact ordered
  refine ⟨by decide +kernel, orderable _ trivial, by decide +kernel, ?_,
    by decide +kernel, orderable _ trivial, by decide +kernel, ?_⟩
  · rintro (precedes | ⟨same, _⟩)
    · exact absurd precedes (by decide : ¬ (1 : Int32).toInt < (-1 : Int32).toInt)
    · cases same
  · rintro (precedes | ⟨same, _⟩)
    · exact absurd precedes (by decide +kernel : ¬ utf8 "b" < utf8 "aa")
    · exact absurd same (by decide)

/-- An event of key 1. -/
def eventRow (value : Int32) : TableRow (eventsTable .int) where
  keyValues := [.int 1, .int value]
  valueOf _ := .null
  keysHeld :=
    .cons ⟨⟨"k", .int, true, false⟩, by decide, rfl, trivial, by decide⟩
      (.cons
        ⟨⟨"c", .int, false, true⟩, by decide, rfl, trivial,
          by simp [Value.rawBytes]⟩
        .nil)
  held := by
    intro index column regular
    cases regular

/-- The store of two events holds rows only. -/
theorem eventsHolding_holdsRows (first second : Int32) :
    (eventsHolding .int [.int first, .int second]).HoldsRows "bench"
      (eventsTable .int) := by
  refine ⟨?_, ?_⟩
  · intro engine key bytes _ here
    have shape :
        ((eventsHolding .int [.int first, .int second]).engines engine).db =
          ((∅ : ByteMap Bytes).insert ((eventRow first).key "bench")
            (eventRow first).bytes).insert ((eventRow second).key "bench")
            (eventRow second).bytes :=
      rfl
    rw [shape, ByteMap.getElem?_insert_bytes, ByteMap.getElem?_insert_bytes] at here
    split at here
    · rename_i same
      exact ⟨eventRow second, same, Option.some.inj here⟩
    · split at here
      · rename_i same
        exact ⟨eventRow first, same, Option.some.inj here⟩
      · cases here
  · intro key bytes _ here
    cases here

/-- The positive events 1 and 2 are returned in their order. -/
theorem partition_order_iff_events :
    ∃ executed final,
      (execSelect cachedJson (fun _ => none) none eventsOfKey .none none none).run
          answer (eventsHolding .int [.int 1, .int 2]) =
          (.ok executed, final) ∧
        executed.response.InClusteringOrder (eventsHolding .int [.int 1, .int 2])
          ⟨eventsTable .int, [1], [(0, .int 1)], [], [0, 1]⟩ "bench" := by
  have wellFormed : (eventsTable .int).WellFormed := by
    decide +kernel
  have known :
      (eventsHolding .int [.int 1, .int 2]).tables ("bench", "events") =
        some (eventsTable .int) := by
    simp [eventsHolding, storeHolding, storeWith, eventsTable]
  have resolved :
      (resolveTable cachedJson none eventsOfKey.tableName).run answer
          (eventsHolding .int [.int 1, .int 2]) =
        (.ok ("bench", eventsTable .int), eventsHolding .int [.int 1, .int 2]) :=
    resolveTable_run_cached (by decide) known
  have planned :
      PlannedSelect cachedJson (fun _ => none) (eventsHolding .int [.int 1, .int 2])
        none eventsOfKey .none (eventsHolding .int [.int 1, .int 2]) "bench"
        [("c", .int)] [.eq "k" (.int 1)] .none
        ⟨eventsTable .int, [1], [(0, .int 1)], [], [0, 1]⟩ :=
    ⟨resolved, by decide +kernel, rfl, rfl⟩
  have orderable : (eventsTable .int).ClustersOrderable := by
    intro column member clusters
    simp only [eventsTable, List.mem_cons, List.not_mem_nil, or_false] at member
    rcases member with rfl | rfl <;> trivial
  have restricted :
      RestrictsTo (eventsTable .int) [.eq "k" (.int 1)] [(Value.int 1).rawBytes] :=
    ⟨by decide +kernel, rfl⟩
  have isScan : pointKey (eventsTable .int) [.eq "k" (.int 1)] = none :=
    rfl
  have page :
      (pageRows (eventsHolding .int [.int 1, .int 2])
          ⟨eventsTable .int, [1], [(0, .int 1)], [], [0, 1]⟩ "bench"
          [(Value.int 1).rawBytes] none
          (pageLimit none eventsOfKey.limit)).map Prod.snd =
        [(eventRow 1).key "bench", (eventRow 2).key "bench"] := by
    decide +kernel
  obtain ⟨executed, final, ran, _, inOrder⟩ :=
    partition_order_iff planned wellFormed (by decide) orderable restricted
      (by simp [PartsFit, Value.rawBytes])
      (fun keyParts point => by rw [isScan] at point; cases point)
      (eventsHolding_holdsRows 1 2) none none
  refine ⟨executed, final, ran, (inOrder isScan).mpr ?_⟩
  -- every row on the page has the clustering value 1 or 2
  have positive :
      ∀ row : TableRow (eventsTable .int),
        row.key "bench" ∈ [(eventRow 1).key "bench", (eventRow 2).key "bench"] →
        row.clusteringValues = [.int 1] ∨ row.clusteringValues = [.int 2] := by
    intro row member
    simp only [List.mem_cons, List.not_mem_nil, or_false] at member
    rcases member with same | same
    · exact .inl (TableRow.clusteringValues_unique wellFormed same)
    · exact .inr (TableRow.clusteringValues_unique wellFormed same)
  have kept :
      ∀ first second : Int32,
        (first.toInt < 0 ↔ second.toInt < 0) →
          ClusteringKept [.int first] [.int second] :=
    fun first second sameSign => ⟨fun _ => sameSign, fun _ => trivial⟩
  rw [page]
  intro first second isFirst isSecond _
  rcases positive first isFirst with values | values <;>
    rcases positive second isSecond with others | others <;>
    rw [values, others] <;>
    exact kept _ _ (by decide)

end RhydaDB
