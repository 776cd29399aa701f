import RhydaDB.StatementSpec
import RhydaDB.StorageSpec
import RhydaDB.PointProjection

namespace RhydaDB

open ByteStrings AtomicPrograms Storage

/-!
# UPDATE merges

An UPDATE that assigns as many distinct columns as there are regular ones
stores them without reading the row.  The count does not say which columns
they are: only when none of them is a key column are they the regular ones, by
counting, and then both paths store the same bytes.  An assigned key column
makes the unread path look up a value it does not have.
-/

/-! ## Which columns are assigned -/

/-- The stored names of the assigned columns. -/
def Update.assignedNames (upd : Update) : List String :=
  upd.assignments.map fun assignment => normId assignment.column

/-- As many distinct columns are assigned as are regular, but one is a key column. -/
def Update.CountsKeyAsRegular (table : TableDef) (upd : Update) : Prop :=
  upd.assignedNames.length = table.regularIndexes.length ∧
    upd.assignedNames.Nodup ∧
    ∃ name ∈ upd.assignedNames, name ∈ table.keyNames

/-- Whether a key column is counted as a regular one can be evaluated. -/
instance decidableCountsKeyAsRegular (table : TableDef) (upd : Update) :
    Decidable (upd.CountsKeyAsRegular table) :=
  inferInstanceAs (Decidable
    (upd.assignedNames.length = table.regularIndexes.length ∧
      upd.assignedNames.Nodup ∧
      ∃ name ∈ upd.assignedNames, name ∈ table.keyNames))

section Assigned

variable
  {hexDecode : HexDecode}
  {table : TableDef}
  {newValues : List (Nat × Value)}

/-- Each assigned value stands under the index of its column's name. -/
theorem assignedValues_indexes
    {assignments : List AssignmentElement}
    {binds rest : Binds}
    (assigned :
      assignedValues hexDecode table assignments binds = .ok (newValues, rest)) :
    List.Forall₂
      (fun assignment entry =>
        table.columnIndex (normId assignment.column) = some entry.1)
      assignments newValues := by
  induction assignments generalizing binds newValues with
  | nil =>
      cases assigned
      exact .nil
  | cons assignment assignments inductionHypothesis =>
      rw [assignedValues] at assigned
      split at assigned
      · cases assigned
      · split at assigned
        · cases assigned
        · cases assigned
        · rename_i column index found foundIndex
          obtain ⟨⟨value, next⟩, read, later⟩ := Fallible.bind_eq_ok.mp assigned
          obtain ⟨⟨others, last⟩, readOthers, same⟩ :=
            Fallible.bind_eq_ok.mp later
          cases same
          exact .cons foundIndex (inductionHypothesis readOthers)

/-- The indices of a planned UPDATE are those of the assigned names. -/
theorem planUpdate_indexes
    {upd : Update}
    {binds rest : Binds}
    {keyParts : List Bytes}
    (planned :
      planUpdate hexDecode table upd binds = .ok (newValues, keyParts, rest)) :
    List.Forall₂ (fun name index => table.columnIndex name = some index)
      upd.assignedNames (newValues.map Prod.fst) := by
  obtain ⟨⟨assigned, next⟩, read, later⟩ := Fallible.bind_eq_ok.mp planned
  obtain ⟨⟨filters, last⟩, _, other⟩ := Fallible.bind_eq_ok.mp later
  obtain ⟨_, _, same⟩ := Fallible.bind_eq_ok.mp other
  cases same
  rw [Update.assignedNames, List.forall₂_map_left_iff,
    List.forall₂_map_right_iff]
  exact assignedValues_indexes read

/-- An assigned index is a key column's when its name is a key name. -/
theorem exists_key_iff
    (wellFormed : table.WellFormed)
    {names : List String}
    {indexes : List Nat}
    (found :
      List.Forall₂ (fun name index => table.columnIndex name = some index)
        names indexes) :
    (∃ index ∈ indexes, index ∉ table.regularIndexes) ↔
      ∃ name ∈ names, name ∈ table.keyNames := by
  induction found with
  | nil =>
      simp
  | @cons name index _ _ first _ inductionHypothesis =>
      obtain ⟨column, here, rfl⟩ := TableDef.getElem?_of_columnIndex first
      rw [List.exists_mem_cons_iff, List.exists_mem_cons_iff, inductionHypothesis,
        wellFormed.not_regular_iff here]

/-- The unread path is taken when the distinct assigned columns are counted right. -/
theorem coversAllRegular_iff :
    coversAllRegular table newValues = true ↔
      (newValues.map Prod.fst).length = table.regularIndexes.length ∧
        (newValues.map Prod.fst).Nodup := by
  simp [coversAllRegular]

/-- A planned UPDATE counts a key column when the unread path is taken with one. -/
theorem countsKeyAsRegular_iff
    (wellFormed : table.WellFormed)
    {upd : Update}
    {binds rest : Binds}
    {keyParts : List Bytes}
    (planned :
      planUpdate hexDecode table upd binds = .ok (newValues, keyParts, rest)) :
    upd.CountsKeyAsRegular table ↔
      coversAllRegular table newValues = true ∧
        ∃ index ∈ newValues.map Prod.fst, index ∉ table.regularIndexes := by
  have indexes := planUpdate_indexes planned
  rw [Update.CountsKeyAsRegular, coversAllRegular_iff, indexes.length_eq,
    nodup_indexes_iff indexes, exists_key_iff wellFormed indexes, and_assoc]

/-- Counted right and all regular, the assigned columns are the regular ones. -/
theorem perm_regularIndexes
    (covers : coversAllRegular table newValues = true)
    (regular : ∀ index ∈ newValues.map Prod.fst, index ∈ table.regularIndexes) :
    (newValues.map Prod.fst).Perm table.regularIndexes := by
  obtain ⟨count, distinct⟩ := coversAllRegular_iff.mp covers
  exact (List.subperm_of_subset distinct regular).perm_of_length_le count.ge

/-- On the unread path a key column among the assigned ones panics. -/
theorem coveredCells_panics
    (covers : coversAllRegular table newValues = true)
    (keyAssigned :
      ∃ index ∈ newValues.map Prod.fst, index ∉ table.regularIndexes) :
    coveredCells table newValues = .error .panic := by
  obtain ⟨count, distinct⟩ := coversAllRegular_iff.mp covers
  obtain ⟨index, assigned, isKey⟩ := keyAssigned
  rw [coveredCells_eq distinct table, if_neg]
  intro allAssigned
  have perm :=
    (List.subperm_of_subset table.nodup_regularIndexes
      allAssigned).perm_of_length_le count.le
  exact isKey (perm.mem_iff.mpr assigned)

end Assigned

/-! ## What an UPDATE stores -/

/--
A row value is the previous row with the last assigned values over it.

It decodes to the assigned value of each assigned regular column and to the
previous value of every other one, and reading, merging and writing stores the
same bytes.
-/
structure MergesInto
    (table : TableDef)
    (newValues : List (Nat × Value))
    (existing : Option Bytes)
    (row : Bytes) :
    Prop where
  values :
    ∃ previous merged,
      previousRow table existing = .ok previous ∧
        decodeRowColumns row table = .ok merged ∧
        ∀ index ∈ table.regularIndexes,
          merged.getD index .null =
            (lastAssigned newValues index).getD (previous.getD index .null)
  readAndMerged :
    (mergedCells table newValues existing).map encodeRowColumns = .ok row
  unread :
    coversAllRegular table newValues = true →
    (coveredCells table newValues).map encodeRowColumns = .ok row

section Merge

variable
  {table : TableDef}
  {newValues : List (Nat × Value)}
  {existing : Option Bytes}

/-- Without a counted key column both paths store one merged row. -/
theorem mergesInto_of_regular
    (columnsFit : table.columns.length ≤ 2 ^ 16)
    (assigned : AssignedStorable table newValues)
    (earlier :
      ∀ bytes,
        existing = some bytes →
        ∃ valueOf,
          table.Holds valueOf ∧
            bytes = encodeRowColumns (table.cells valueOf))
    (regular :
      coversAllRegular table newValues = true →
      ∀ index ∈ newValues.map Prod.fst, index ∈ table.regularIndexes) :
    ∃ cells,
      mergedCells table newValues existing = .ok cells ∧
        (coversAllRegular table newValues = true →
          coveredCells table newValues = .ok cells) ∧
        MergesInto table newValues existing (encodeRowColumns cells) := by
  obtain ⟨valueOf, holds, previous⟩ := exists_previousRow columnsFit earlier
  have merged := mergedCells_assign newValues previous
  have covered :
      coversAllRegular table newValues = true →
        coveredCells table newValues =
          .ok (table.cells fun index =>
            (lastAssigned newValues index).getD (valueOf index)) := by
    intro covers
    have perm := perm_regularIndexes covers (regular covers)
    have all : ∀ index ∈ table.regularIndexes, index ∈ newValues.map Prod.fst :=
      fun index member => perm.mem_iff.mpr member
    have distinct := (coversAllRegular_iff.mp covers).2
    rw [coveredCells_eq distinct table, if_pos all]
    refine congrArg Except.ok (List.map_congr_left fun index member => ?_)
    have present : newValues.lookup index ≠ none := by
      intro missing
      obtain ⟨entry, isEntry, rfl⟩ := List.mem_map.mp (all index member)
      simpa using List.lookup_eq_none_iff.mp missing entry isEntry
    rw [lookup_eq_lastAssigned distinct] at present
    obtain ⟨value, last⟩ := Option.ne_none_iff_exists'.mp present
    simp only [last, Option.getD_some]
  refine ⟨_, merged, covered, ⟨?_, ?_, ?_⟩⟩
  · refine ⟨_, _, previous,
      decodeRowColumns_cells columnsFit (holds.assign assigned), ?_⟩
    intro index isRegular
    rw [TableDef.getD_regularRow isRegular, TableDef.getD_regularRow isRegular]
  · rw [merged]
    rfl
  · intro covers
    rw [covered covers]
    rfl

end Merge

section Execution

variable
  {shards : Nat} [NeZero shards]
  {json : CatalogJson}
  {hexDecode : HexDecode}
  {store middle read : Storage shards}
  {sessionKs : Option String}
  {upd : Update}
  {binds rest : Binds}
  {keyspace : String}
  {table : TableDef}
  {newValues : List (Nat × Value)}
  {keyParts : List Bytes}
  {existing : Option Bytes}

/-- A row written through an open pipeline is there once its queue is written. -/
theorem putRow_run_settled
    (isOpen : store.Open)
    (keyspace tableName : String)
    (keyParts : List Bytes)
    (row : Bytes) :
    ∃ ticket final,
      (putRow keyspace tableName keyParts row).run answer store =
          (.ok ticket, final) ∧
        ((final.engines (dataEngine keyspace tableName
            (firstPart keyParts))).settled)[rowKey keyspace tableName keyParts]? =
          some row := by
  have cachedOpen :
      (store.mapCache fun cache =>
        cache.insert (rowKey keyspace tableName keyParts) row).Open :=
    isOpen
  have written :
      ∀ ready : Storage shards,
        ready.Open →
        ∃ ticket final,
          (writeDataOp keyspace tableName keyParts
              (.put (rowKey keyspace tableName keyParts) row)).run
                answer ready =
              (.ok ticket, final) ∧
            ((final.engines (dataEngine keyspace tableName
                (firstPart keyParts))).settled)[
                  rowKey keyspace tableName keyParts]? =
              some row := by
    intro ready readyOpen
    refine ⟨_, _, sendOp_run readyOpen _ _, ?_⟩
    rw [setEngine_engines, if_pos rfl, (readyOpen _).settled_accept]
    simp [applyOp]
  cases caches : shouldCache keyspace with
  | false =>
      simpa [putRow, caches] using written store isOpen
  | true =>
      simpa [putRow, caches, atomically, answer] using written _ cachedOpen

/-- The state an UPDATE writes in: it reads the row unless it is covered. -/
theorem updatedCells_run
    (previous :
      (getRow keyspace table.name keyParts).run answer middle =
        (.ok existing, read)) :
    (updatedCells keyspace table newValues keyParts).run answer middle =
      if coversAllRegular table newValues then
        (coveredCells table newValues, middle)
      else
        (mergedCells table newValues existing, read) := by
  unfold updatedCells
  split
  · rw [Program.run_ofExcept]
  · have looked :
        (internally (getRow keyspace table.name keyParts)).run answer middle =
          (.ok existing, read) :=
      (Program.run_mapFailure_eq_ok answer).mpr previous
    rw [Program.run_bind_of_ok answer looked, Program.run_ofExcept]

/-- Without a counted key column the merged row is determined on either path. -/
theorem exists_updatedCells
    (columnsFit : table.columns.length ≤ 2 ^ 16)
    (assigned : AssignedStorable table newValues)
    (earlier :
      ∀ bytes,
        existing = some bytes →
        ∃ valueOf,
          table.Holds valueOf ∧
            bytes = encodeRowColumns (table.cells valueOf))
    (notCounted :
      ¬ (coversAllRegular table newValues = true ∧
        ∃ index ∈ newValues.map Prod.fst, index ∉ table.regularIndexes))
    (previous :
      (getRow keyspace table.name keyParts).run answer middle =
        (.ok existing, read)) :
    ∃ cells,
      mergedCells table newValues existing = .ok cells ∧
        MergesInto table newValues existing (encodeRowColumns cells) ∧
        ((updatedCells keyspace table newValues keyParts).run answer middle =
            (.ok cells, middle) ∨
          (updatedCells keyspace table newValues keyParts).run answer middle =
            (.ok cells, read)) := by
  have regular :
      coversAllRegular table newValues = true →
      ∀ index ∈ newValues.map Prod.fst, index ∈ table.regularIndexes := by
    intro covers index member
    by_contra isKey
    exact notCounted ⟨covers, index, member, isKey⟩
  obtain ⟨cells, merged, covered, merges⟩ :=
    mergesInto_of_regular columnsFit assigned earlier regular
  refine ⟨cells, merged, merges, ?_⟩
  rw [updatedCells_run previous]
  split
  · rename_i covers
    exact .inl (by rw [covered covers])
  · exact .inr (by rw [merged])

/-- Reading a row leaves the engines alone. -/
theorem getRow_run_engines
    (previous :
      (getRow keyspace table.name keyParts).run answer middle =
        (.ok existing, read)) :
    read.engines = middle.engines := by
  by_cases cached :
      shouldCache keyspace = true ∧
        ∃ value,
          (middle.rowCache.bind fun cache =>
            cache[rowKey keyspace table.name keyParts]?) = some value
  · obtain ⟨caches, value, hit⟩ := cached
    rw [getRow_run_hit ⟨caches, hit⟩] at previous
    cases previous
    rfl
  · have missed :
        shouldCache keyspace = true →
          (middle.rowCache.bind fun cache =>
            cache[rowKey keyspace table.name keyParts]?) = none := by
      intro caches
      rw [Option.eq_none_iff_forall_ne_some]
      intro value hit
      exact cached ⟨caches, value, hit⟩
    rw [getRow_run_miss missed] at previous
    cases previous
    split <;> rfl

/-- A resolved and planned UPDATE determines its row and writes it. -/
theorem execUpdate_run
    (resolved :
      (resolveTable json sessionKs upd.tableName).run answer store =
        (.ok (keyspace, table), middle))
    (writable : checkWritable keyspace = .ok ())
    (planned :
      planUpdate hexDecode table upd binds = .ok (newValues, keyParts, rest)) :
    (execUpdate json hexDecode sessionKs upd binds).run answer store =
      (updatedCells keyspace table newValues keyParts >>= fun cells => do
          let ticket ←
            internally
              (putRow keyspace table.name keyParts (encodeRowColumns cells))
          return ⟨.void, [ticket], rest⟩).run answer middle := by
  rw [execUpdate, Program.run_bind_of_ok answer resolved]
  simp only [writable, planned, Program.ofExcept]
  rfl

/--
An UPDATE that passes its checks merges its values into the row, on both paths
alike, exactly when it does not count a key column as a regular one.
-/
theorem update_merges_iff
    (halves : hexDecode.Halves)
    (wellFormed : table.WellFormed)
    (columnsFit : table.columns.length ≤ 2 ^ 16)
    (resolved :
      (resolveTable json sessionKs upd.tableName).run answer store =
        (.ok (keyspace, table), middle))
    (writable : checkWritable keyspace = .ok ())
    (fits : upd.FitsFrame binds)
    (planned :
      planUpdate hexDecode table upd binds = .ok (newValues, keyParts, rest))
    (isOpen : middle.Open)
    (previous :
      (getRow keyspace table.name keyParts).run answer middle =
        (.ok existing, read))
    (stored :
      ∀ bytes, existing = some bytes → StoredRow hexDecode table bytes) :
    (∃ executed final row,
        (execUpdate json hexDecode sessionKs upd binds).run answer store =
            (.ok executed, final) ∧
          ((final.engines (dataEngine keyspace table.name
              (firstPart keyParts))).settled)[
                rowKey keyspace table.name keyParts]? =
            some row ∧
          MergesInto table newValues existing row) ↔
      ¬ upd.CountsKeyAsRegular table := by
  rw [execUpdate_run resolved writable planned,
    countsKeyAsRegular_iff wellFormed planned]
  constructor
  · rintro ⟨executed, final, row, ran, _⟩ ⟨covers, keyAssigned⟩
    rw [Program.run_bind, updatedCells_run previous, if_pos covers,
      coveredCells_panics covers keyAssigned] at ran
    cases ran
  · intro notCounted
    obtain ⟨cells, _, merges, determined⟩ :=
      exists_updatedCells columnsFit (planUpdate_storable halves fits planned)
        (fun bytes isSome => (stored bytes isSome).exists_values halves columnsFit)
        notCounted previous
    obtain ⟨ready, readyOpen, determined⟩ :
        ∃ ready : Storage shards,
          ready.Open ∧
            (updatedCells keyspace table newValues keyParts).run answer middle =
              (.ok cells, ready) := by
      rcases determined with unread | wasRead
      · exact ⟨middle, isOpen, unread⟩
      · refine ⟨read, ?_, wasRead⟩
        intro engine
        rw [getRow_run_engines previous]
        exact isOpen engine
    obtain ⟨ticket, final, written, settled⟩ :=
      putRow_run_settled readyOpen keyspace table.name keyParts
        (encodeRowColumns cells)
    have put :
        (internally (putRow keyspace table.name keyParts
            (encodeRowColumns cells))).run answer ready =
          (.ok ticket, final) :=
      (Program.run_mapFailure_eq_ok answer).mpr written
    refine ⟨⟨.void, [ticket], rest⟩, final, _, ?_, settled, merges⟩
    rw [Program.run_bind_of_ok answer determined,
      Program.run_bind_of_ok answer put, Program.run_return]

end Execution

/-- `UPDATE bench.kv SET column = value WHERE k = 1`. -/
def kvUpdate (column value : String) : Update where
  tableName := kvName
  assignments := [⟨.unquoted column, .const value, none⟩]
  whereClause := [⟨.column (.unquoted "k"), .equal, .const "1"⟩]

/-- A statement ended in a panic. -/
def hasPanicked {α : Type} : QueryOutcome α → Bool
  | .error .panic =>
      true
  | _ =>
      false

/-- Assigning the key column where there is one regular column panics. -/
theorem update_of_key_panics :
    kvTable.WellFormed ∧
      planUpdate (fun _ => none) kvTable (kvUpdate "k" "5") .none =
        .ok ([(0, .int 5)], [[0, 0, 0, 1]], .none) ∧
      hasPanicked
          ((execUpdate cachedJson (fun _ => none) none (kvUpdate "k" "5")
            .none).run answer (storeWith true kvTable)).1 =
        true := by
  decide +kernel

/-- A table with one key column and two regular columns. -/
def memberTable : TableDef where
  keyspace := "club"
  name := "member"
  columns :=
    [⟨"k", .int, true, false⟩, ⟨"v", .text, false, false⟩,
      ⟨"w", .text, false, false⟩]
  partitionKeys := ["k"]
  clusteringKeys := []

/-- The name of `memberTable` in a statement. -/
def memberName : FQName where
  keyspace := some (.unquoted "club")
  name := .unquoted "member"

/-- `INSERT INTO club.member (k, v, w) VALUES (2, 'a', 'b')`. -/
def memberInsert : Insert where
  tableName := memberName
  columns := [.unquoted "k", .unquoted "v", .unquoted "w"]
  values := .values [.const "2", .const "'a'", .const "'b'"]

/-- `UPDATE club.member SET v = 'x' WHERE k = 2`. -/
def memberUpdate : Update where
  tableName := memberName
  assignments := [⟨.unquoted "v", .const "'x'", none⟩]
  whereClause := [⟨.column (.unquoted "k"), .equal, .const "2"⟩]

/-- The row that the INSERT stores. -/
def memberRow : Bytes :=
  encodeRowColumns [(1, .text "a"), (2, .text "b")]

/-- Where the row is stored. -/
def memberAddress : RowAddress where
  keyspace := "club"
  table := "member"
  keyspaceFree := by decide
  tableFree := by decide
  keyParts := [[0, 0, 0, 2]]
  nonempty := by decide
  fits := by decide

/-- A store in which the row was put. -/
def memberStored : Storage 1 :=
  ((putRow "club" "member" [[0, 0, 0, 2]] memberRow).run answer
    (storeWith true memberTable)).2

/-- What putting the row leaves. -/
theorem memberStored_eq :
    memberStored =
      ((storeWith true memberTable).changeCache "club" fun cache =>
          cache.insert memberAddress.key memberRow).setEngine memberAddress.engine
        (((storeWith true memberTable).engines memberAddress.engine).accept
          (.put memberAddress.key memberRow)) := by
  have isOpen : (storeWith true memberTable).Open :=
    fun engine => ⟨Pipeline.ordered_start _ _, rfl⟩
  exact congrArg Prod.snd (putRow_run isOpen memberAddress memberRow)

/-- Assigning one regular column of a stored row keeps the other. -/
theorem update_merges_iff_member :
    ¬ memberUpdate.CountsKeyAsRegular memberTable ∧
      ∃ executed final row,
        (execUpdate cachedJson (fun _ => none) none memberUpdate .none).run answer
            memberStored =
            (.ok executed, final) ∧
          ((final.engines (dataEngine "club" "member" [0, 0, 0, 2])).settled)[
              rowKey "club" "member" [[0, 0, 0, 2]]]? =
            some row ∧
          MergesInto memberTable [(1, .text "x")] (some memberRow) row := by
  have halves : HexDecode.Halves fun _ => none := by
    intro text bytes decoded
    cases decoded
  have wellFormed : memberTable.WellFormed := by
    decide +kernel
  have noBinds : Binds.none.FitFrame := by
    simp [Binds.FitFrame, Binds.none, Binds.new]
  have fits : memberUpdate.FitsFrame .none := by
    refine ⟨?_, ?_, noBinds⟩
    · intro assignment member
      rw [List.mem_singleton.mp member]
      change "'x'".length ≤ maxFrameLength
      decide +kernel
    · intro relation member
      rw [List.mem_singleton.mp member]
      refine ⟨?_, fun items isTuple => by cases isTuple⟩
      change "2".length ≤ maxFrameLength
      decide +kernel
  have planned :
      planUpdate (fun _ => none) memberTable memberUpdate .none =
        .ok ([(1, .text "x")], [[0, 0, 0, 2]], .none) := by
    decide +kernel
  have inserted : StoredRow (fun _ => none) memberTable memberRow := by
    have insertFits : memberInsert.FitsFrame .none := by
      refine ⟨?_, noBinds⟩
      rintro operands ⟨⟩ operand member
      simp only [List.mem_cons, List.not_mem_nil, or_false] at member
      unfold Operand.FitsFrame
      rcases member with rfl | rfl | rfl <;> decide +kernel
    have insertPlanned :
        planInsert (fun _ => none) memberTable memberInsert .none =
          .ok ([[0, 0, 0, 2]], [(1, .text "a"), (2, .text "b")], .none) := by
      decide +kernel
    exact .insert insertFits insertPlanned
  have isOpen : memberStored.Open := by
    have before : (storeWith true memberTable).Open :=
      fun engine => ⟨Pipeline.ordered_start _ _, rfl⟩
    rw [memberStored_eq]
    refine Open.setEngine ?_ ((before _).accept _)
    intro engine
    rw [changeCache_engines]
    exact before engine
  have known : memberStored.tables ("club", "member") = some memberTable := by
    rw [memberStored_eq]
    rfl
  have resolved :
      (resolveTable cachedJson none memberName).run answer memberStored =
        (.ok ("club", memberTable), memberStored) :=
    resolveTable_run_cached (by decide) known
  have previous :
      (getRow "club" "member" [[0, 0, 0, 2]]).run answer memberStored =
        (.ok (some memberRow), memberStored) := by
    refine getRow_run_hit ⟨by decide, ?_⟩
    decide +kernel
  have notCounted : ¬ memberUpdate.CountsKeyAsRegular memberTable := by
    decide +kernel
  exact ⟨notCounted, (update_merges_iff halves wellFormed (by decide) resolved
    (by decide) fits planned isOpen previous
    (fun bytes isSome => Option.some.inj isSome ▸ inserted)).mpr notCounted⟩

end RhydaDB
