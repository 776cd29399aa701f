import RhydaDB.StatementSpec
import RhydaDB.StorageSpec
import RhydaDB.WellFormedTables

namespace RhydaDB

open ByteStrings AtomicPrograms Storage

/-!
# The rows a SELECT streams

A SELECT without paging has a plan that is independent of any cap: the entries
it visits, in order.  Streaming that plan to its end emits the rows that pass,
each with the key it was read from, until an entry does not decode.  The
capped scan of the source, with its flags per entry, partition and engine, is
shown to gather a prefix of the stream.
-/

/-- The output row of one entry, unless a filter rejects it. -/
def entryRow
    (projection : Projection)
    (keyspace : String)
    (key value : Bytes) :
    Outcome (Option (List Value)) :=
  (decodeKey keyspace projection.table.name key).bind fun keyParts =>
    projection.projectDecoded keyParts value

/-- The rows that entries emit and the fault that ends them, if one does. -/
def emitted
    (projection : Projection)
    (keyspace : String) :
    List (Bytes × Bytes) →
    List (List Value × Bytes) × Option Fault
  | [] =>
      ([], none)
  | (key, value) :: rest =>
      match entryRow projection keyspace key value with
      | .ok (some row) =>
          ((row, key) :: (emitted projection keyspace rest).1,
            (emitted projection keyspace rest).2)
      | .ok none =>
          emitted projection keyspace rest
      | .error fault =>
          ([], some fault)

namespace ScanState

/-- A scan that has room for more rows and met no fault. -/
structure Ready (limit : Nat) (state : ScanState) : Prop where
  room :
    state.rows.length < limit
  notDone :
    state.done = false
  noError :
    state.errorSlot = none

/-- Append emitted rows. -/
def gather (state : ScanState) (items : List (List Value × Bytes)) : ScanState :=
  { state with
    rows := state.rows ++ items.map Prod.fst
    sources := state.sources ++ items.map Prod.snd }

/-- Gathering rows one after the other. -/
theorem gather_cons
    (state : ScanState)
    (item : List Value × Bytes)
    (items : List (List Value × Bytes)) :
    (state.gather [item]).gather items = state.gather (item :: items) := by
  simp [gather]

/-- Gathering nothing changes nothing. -/
theorem gather_nil (state : ScanState) : state.gather [] = state := by
  simp [gather]

/-- What the callback returns after gathering from a list of entries. -/
def afterEntries
    (limit : Nat)
    (state : ScanState)
    (stream : List (List Value × Bytes) × Option Fault) :
    ScanState × Bool :=
  if limit ≤ state.rows.length + stream.1.length then
    ({ state.gather (stream.1.take (limit - state.rows.length)) with
        done := true },
      false)
  else
    match stream.2 with
    | some fault =>
        ({ state.gather stream.1 with done := true, errorSlot := some fault },
          false)
    | none =>
        (state.gather stream.1, true)

section Visit

variable
  {projection : Projection}
  {keyspace : String}
  {limit : Nat}
  {state : ScanState}

/-- One entry of an unpaged scan. -/
theorem visit_ready
    (ready : state.Ready limit)
    (key value : Bytes) :
    state.visit projection keyspace none limit key value =
      match entryRow projection keyspace key value with
      | .ok (some row) =>
          if state.rows.length + 1 < limit then
            (state.gather [(row, key)], true)
          else
            ({ state.gather [(row, key)] with done := true }, false)
      | .ok none =>
          (state, true)
      | .error fault =>
          ({ state with done := true, errorSlot := some fault }, false) := by
  have room := ready.room
  rw [visit, handleEntry, ← entryRow]
  simp only [Option.any_none, Bool.false_eq_true, if_false, if_neg (not_le.mpr room)]
  cases entryRow projection keyspace key value with
  | error fault =>
      simp [ready.noError]
  | ok found =>
      cases found with
      | none =>
          simp [not_le.mpr room]
      | some row =>
          by_cases more : state.rows.length + 1 < limit
          · have notFull : ¬ limit ≤ state.rows.length + 1 :=
              not_le.mpr more
            simp [more, notFull, gather]
          · simp [more, gather]

/-- The capped scan of a list of entries gathers a prefix of its stream. -/
theorem visitEntries_visit
    (ready : state.Ready limit)
    (entries : List (Bytes × Bytes)) :
    visitEntries (visit projection keyspace none limit) state entries =
      state.afterEntries limit (emitted projection keyspace entries) := by
  induction entries generalizing state with
  | nil =>
      have room := ready.room
      simp [visitEntries, emitted, afterEntries, gather_nil, not_le.mpr room]
  | cons entry rest inductionHypothesis =>
      obtain ⟨key, value⟩ := entry
      have room := ready.room
      rw [visitEntries, visit_ready ready, emitted]
      cases entryRow projection keyspace key value with
      | error fault =>
          simp [afterEntries, not_le.mpr room, gather_nil]
      | ok found =>
          cases found with
          | none =>
              simp only [if_true]
              exact inductionHypothesis ready
          | some row =>
              by_cases more : state.rows.length + 1 < limit
              · have next : (state.gather [(row, key)]).Ready limit :=
                  ⟨by simpa [gather] using more, ready.notDone, ready.noError⟩
                simp only [if_pos more, if_true]
                rw [inductionHypothesis next]
                have length :
                    (state.gather [(row, key)]).rows.length =
                      state.rows.length + 1 := by
                  simp [gather]
                obtain ⟨left, roomLeft⟩ :
                    ∃ left, limit - state.rows.length = left + 1 :=
                  ⟨limit - state.rows.length - 1, by omega⟩
                have fewer : limit - (state.rows.length + 1) = left := by
                  omega
                simp only [afterEntries, length, gather_cons, List.length_cons,
                  roomLeft, fewer, List.take_succ_cons]
                rw [Nat.add_right_comm, Nat.add_assoc]
              · have full : limit - state.rows.length = 1 := by
                  omega
                simp only [if_neg more, Bool.false_eq_true, if_false]
                rw [afterEntries, if_pos (by simp; omega), full]
                simp

/-- A scan either can go on as before or is done. -/
theorem afterEntries_cases
    (ready : state.Ready limit)
    (stream : List (List Value × Bytes) × Option Fault) :
    (state.afterEntries limit stream).2 = true ∧
        (state.afterEntries limit stream).1.Ready limit ∨
      (state.afterEntries limit stream).2 = false ∧
        (state.afterEntries limit stream).1.done = true := by
  unfold afterEntries
  split
  · exact .inr ⟨rfl, rfl⟩
  · rename_i more
    split
    · exact .inr ⟨rfl, rfl⟩
    · exact .inl ⟨rfl, ⟨by simpa [gather] using more, ready.notDone,
        ready.noError⟩⟩

/-- A scan that has gathered nothing and met no fault. -/
structure Bare (state : ScanState) : Prop where
  noRows :
    state.rows = []
  noSources :
    state.sources = []
  noError :
    state.errorSlot = none

/-- Without room for a row nothing is gathered. -/
theorem visitEntries_bare
    (bare : state.Bare)
    (entries : List (Bytes × Bytes)) :
    (visitEntries (visit projection keyspace none 0) state entries).1.Bare := by
  cases entries with
  | nil =>
      exact bare
  | cons entry rest =>
      have stopped :
          visit projection keyspace none 0 state entry.1 entry.2 =
            ({ state with pagingLastKey := some entry.1, done := true },
              false) := by
        simp [visit]
      rw [visitEntries, stopped]
      exact ⟨bare.noRows, bare.noSources, bare.noError⟩

end Visit

end ScanState

/-! ## Plans -/

section Plans

variable {shards : Nat} [NeZero shards]

/-- The entries of one partition. -/
def partitionEntries
    (store : Storage shards)
    (keyspace table : String)
    (partition : List Bytes) :
    List (Bytes × Bytes) :=
  (store.engines (dataEngine keyspace table (firstPart partition))).db.scanStem
    (dataPrefix keyspace table ++ encodeKey partition)

/-- The entries that a scan visits when nothing stops it. -/
def planEntries
    (store : Storage shards)
    (table : TableDef)
    (keyspace : String)
    (filters : List Filter) :
    List (Bytes × Bytes) :=
  if table.partitionKeys.all fun name => filters.any (·.restricts name) then
    (listedPartitions filters table.partitionKeys).flatMap
      (partitionEntries store keyspace table.name)
  else
    tableEntries store (dataPrefix keyspace table.name)

/-- The rows of a point lookup. -/
def pointRows
    (projection : Projection)
    (keyspace : String)
    (keyParts : List Bytes) :
    Option Bytes →
    List (List Value × Bytes) × Option Fault
  | none =>
      ([], none)
  | some bytes =>
      match projection.projectPoint keyParts bytes with
      | .ok (some row) =>
          ([(row, rowKey keyspace projection.table.name keyParts)], none)
      | .ok none =>
          ([], none)
      | .error fault =>
          ([], some fault)

/--
The rows of a SELECT when no cap ends its plan.

A row that `=` fixes is read through the cache; every other plan streams its
entries.
-/
def streamPlan
    (store : Storage shards)
    (projection : Projection)
    (keyspace : String)
    (filters : List Filter) :
    List (List Value × Bytes) × Option Fault :=
  match pointKey projection.table filters with
  | some keyParts =>
      pointRows projection keyspace keyParts
        (((getRow keyspace projection.table.name keyParts).run answer
          store).1.toOption.join)
  | none =>
      emitted projection keyspace
        (planEntries store projection.table keyspace filters)

/-- A row lookup succeeds. -/
theorem exists_getRow_run
    (store : Storage shards)
    (keyspace table : String)
    (keyParts : List Bytes) :
    ∃ existing final,
      (getRow keyspace table keyParts).run answer store =
        (.ok existing, final) := by
  by_cases missed :
      shouldCache keyspace = true →
        (store.rowCache.bind fun cache =>
          cache[rowKey keyspace table keyParts]?) = none
  · exact ⟨_, _, getRow_run_miss missed⟩
  · push Not at missed
    obtain ⟨caches, present⟩ := missed
    obtain ⟨value, hit⟩ := Option.ne_none_iff_exists'.mp present
    exact ⟨_, _, getRow_run_hit ⟨caches, hit⟩⟩

/-- Scanning partitions one by one scans their entries one after the other. -/
theorem scanPartitions_run
    (store : Storage shards)
    (projection : Projection)
    (keyspace table : String)
    {limit : Nat}
    (partitions : List (List Bytes))
    {state : ScanState}
    (ready : state.Ready limit) :
    (scanPartitions keyspace table limit
        (ScanState.visit projection keyspace none limit) partitions state).run
          answer store =
      (.ok (visitEntries (ScanState.visit projection keyspace none limit) state
          (partitions.flatMap (partitionEntries store keyspace table))).1,
        store) := by
  induction partitions generalizing state with
  | nil =>
      rfl
  | cons partition rest inductionHypothesis =>
      have fresh : { state with done := false } = state := by
        rw [← ready.notDone]
      rw [scanPartitions, fresh, Program.run_bind_of_ok answer
        (forEachInPartition_run store keyspace table partition _ state),
        List.flatMap_cons, visitEntries_append, ← partitionEntries,
        ScanState.visitEntries_visit ready]
      generalize emitted projection keyspace
        (partitionEntries store keyspace table partition) = stream
      rcases ScanState.afterEntries_cases ready stream with
        ⟨goOn, next⟩ | ⟨stop, done⟩
      · have notFull := not_le.mpr next.room
        simp only [goOn, next.notDone, next.noError, notFull, if_true]
        exact inductionHypothesis next
      · simp [stop, done]

/-- A scan without paging gathers a prefix of its plan's stream. -/
theorem scanRowsMatching_run
    (store : Storage shards)
    (projection : Projection)
    (keyspace : String)
    (filters : List Filter)
    {limit : Nat}
    (positive : 0 < limit) :
    (scanRowsMatching projection keyspace filters none limit).run answer store =
      (.ok (ScanState.start.afterEntries limit
          (emitted projection keyspace
            (planEntries store projection.table keyspace filters))).1,
        store) := by
  have ready : ScanState.start.Ready limit :=
    ⟨positive, rfl, rfl⟩
  unfold scanRowsMatching planEntries
  dsimp only
  split
  · rw [scanPartitions_run store projection keyspace projection.table.name _ ready,
      ScanState.visitEntries_visit ready]
  · rw [forEachInTable_run, ScanState.visitEntries_visit ready]

/-- A scan without room for a row gathers nothing. -/
theorem scanRowsMatching_run_bare
    (store : Storage shards)
    (projection : Projection)
    (keyspace : String)
    (filters : List Filter) :
    ∃ state : ScanState,
      (scanRowsMatching projection keyspace filters none 0).run answer store =
          (.ok state, store) ∧
        state.Bare := by
  have bare : ScanState.start.Bare :=
    ⟨rfl, rfl, rfl⟩
  unfold scanRowsMatching
  dsimp only
  split
  · cases listedPartitions filters projection.table.partitionKeys with
    | nil =>
        exact ⟨_, rfl, bare⟩
    | cons partition rest =>
        rw [scanPartitions, Program.run_bind_of_ok answer
          (forEachInPartition_run store keyspace projection.table.name partition
            _ _)]
        simp only [Nat.zero_le, decide_true, Bool.or_true, if_true]
        exact ⟨_, rfl, ScanState.visitEntries_bare bare _⟩
  · exact ⟨_, forEachInTable_run _ _ _ _ _, ScanState.visitEntries_bare bare _⟩

/-- What an unpaged SELECT returns from a stream: a prefix, or the early fault. -/
def cappedRows
    (cap : Nat)
    (stream : List (List Value × Bytes) × Option Fault) :
    Outcome (List (List Value) × List Bytes × Option Bytes) :=
  match (if stream.1.length < cap then stream.2 else none) with
  | some fault =>
      .error fault
  | none =>
      .ok ((stream.1.take cap).map Prod.fst, (stream.1.take cap).map Prod.snd,
        none)

/-- A scan reports the prefix it gathered and no paging state. -/
theorem selectScan_run
    (store : Storage shards)
    (projection : Projection)
    (keyspace : String)
    (filters : List Filter)
    (limit : Option Int32) :
    (selectScan projection keyspace filters none limit none).run answer store =
      (cappedRows (pageLimit none limit)
          (emitted projection keyspace
            (planEntries store projection.table keyspace filters)),
        store) := by
  have noPaging :
      ∀ state : ScanState,
        state.pagingLastKey = none → nextPagingState none limit state = none := by
    intro state unset
    cases limit with
    | none =>
        simp [nextPagingState, unset]
    | some count =>
        rfl
  rcases Nat.eq_zero_or_pos (pageLimit none limit) with noRoom | positive
  · obtain ⟨state, ran, bare⟩ :=
      scanRowsMatching_run_bare store projection keyspace filters
    cases limit with
    | none =>
        cases noRoom
    | some count =>
        rw [selectScan, noRoom, Program.run_bind_of_ok answer ran]
        simp [bare.noError, bare.noRows, bare.noSources, cappedRows,
          nextPagingState]
  rw [selectScan, Program.run_bind_of_ok answer
    (scanRowsMatching_run store projection keyspace filters positive)]
  generalize emitted projection keyspace
    (planEntries store projection.table keyspace filters) = stream
  obtain ⟨items, fault⟩ := stream
  unfold ScanState.afterEntries cappedRows
  by_cases full : pageLimit none limit ≤ items.length
  · have notFewer : ¬ items.length < pageLimit none limit :=
      not_lt.mpr full
    simp [ScanState.start, ScanState.gather, full, notFewer, noPaging]
  · have fewer : items.length < pageLimit none limit :=
      not_le.mp full
    cases fault with
    | some fault =>
        simp [ScanState.start, ScanState.gather, full, fewer]
    | none =>
        simp [ScanState.start, ScanState.gather, full, fewer, noPaging,
          List.take_of_length_le fewer.le]

/-- What an unpaged SELECT returns; a point lookup has at most one row and no cap. -/
def planRows
    (cap : Nat)
    (store : Storage shards)
    (projection : Projection)
    (keyspace : String)
    (filters : List Filter) :
    Outcome (List (List Value) × List Bytes × Option Bytes) :=
  cappedRows (if (pointKey projection.table filters).isSome then 1 else cap)
    (streamPlan store projection keyspace filters)

/-- A cap of at least one row does not cut a point lookup. -/
theorem cappedRows_pointRows
    (projection : Projection)
    (keyspace : String)
    (keyParts : List Bytes)
    (existing : Option Bytes)
    {cap : Nat}
    (positive : 0 < cap) :
    cappedRows cap (pointRows projection keyspace keyParts existing) =
      match (pointRows projection keyspace keyParts existing).2 with
      | some fault =>
          .error fault
      | none =>
          .ok ((pointRows projection keyspace keyParts existing).1.map Prod.fst,
            (pointRows projection keyspace keyParts existing).1.map Prod.snd,
            none) := by
  cases existing with
  | none =>
      simp [pointRows, cappedRows, positive]
  | some bytes =>
      cases outcome : projection.projectPoint keyParts bytes with
      | error fault =>
          simp [pointRows, outcome, cappedRows, positive]
      | ok found =>
          cases found with
          | none =>
              simp [pointRows, outcome, cappedRows, positive]
          | some row =>
              have whole :
                  [(row, rowKey keyspace projection.table.name keyParts)].take
                      cap =
                    [(row, rowKey keyspace projection.table.name keyParts)] :=
                List.take_of_length_le positive
              simp [pointRows, outcome, cappedRows, whole]

/-- A cap of at least one row applies to every plan alike. -/
theorem planRows_of_pos
    {cap : Nat}
    (positive : 0 < cap)
    (store : Storage shards)
    (projection : Projection)
    (keyspace : String)
    (filters : List Filter) :
    planRows cap store projection keyspace filters =
      cappedRows cap (streamPlan store projection keyspace filters) := by
  unfold planRows streamPlan
  cases pointKey projection.table filters with
  | none =>
      rfl
  | some keyParts =>
      simp only [Option.isSome_some, if_true]
      rw [cappedRows_pointRows _ _ _ _ positive,
        cappedRows_pointRows _ _ _ _ Nat.one_pos]

/-- A point lookup reports its row and no paging state. -/
theorem selectRows_run_point
    (store : Storage shards)
    (projection : Projection)
    (keyspace : String)
    {filters : List Filter}
    {keyParts : List Bytes}
    (isPoint : pointKey projection.table filters = some keyParts)
    (limit : Option Int32) :
    ∃ final,
      (selectRows projection keyspace filters none limit none).run answer
          store =
        (cappedRows 1
            (pointRows projection keyspace keyParts
              (((getRow keyspace projection.table.name keyParts).run answer
                store).1.toOption.join)),
          final) := by
  obtain ⟨existing, final, looked⟩ :=
    exists_getRow_run store keyspace projection.table.name keyParts
  refine ⟨final, ?_⟩
  simp only [selectRows, isPoint]
  rw [selectPoint, Program.run_bind, Program.run_bind_of_ok answer looked, looked,
    cappedRows_pointRows _ _ _ _ Nat.one_pos]
  cases existing with
  | none =>
      rfl
  | some bytes =>
      simp only [pointRows, Except.toOption, Option.join_some]
      cases projection.projectPoint keyParts bytes with
      | error fault =>
          rfl
      | ok found =>
          cases found with
          | none =>
              rfl
          | some row =>
              rfl

/-- An unpaged SELECT returns a prefix of its plan's stream. -/
theorem selectRows_run
    (store : Storage shards)
    (projection : Projection)
    (keyspace : String)
    (filters : List Filter)
    (limit : Option Int32) :
    ∃ final,
      (selectRows projection keyspace filters none limit none).run answer
          store =
        (planRows (pageLimit none limit) store projection keyspace filters,
          final) := by
  cases plan : pointKey projection.table filters with
  | some keyParts =>
      simp only [planRows, streamPlan, plan, Option.isSome_some, if_true]
      exact selectRows_run_point store projection keyspace plan limit
  | none =>
      simp only [planRows, streamPlan, selectRows, plan, Option.isSome_none,
        Bool.false_eq_true, if_false]
      exact ⟨store, selectScan_run store projection keyspace filters limit⟩

end Plans

/-! ## LIMIT -/

section Statements

variable
  {shards : Nat} [NeZero shards]
  {json : CatalogJson}
  {hexDecode : HexDecode}
  {store middle : Storage shards}
  {sessionKs : Option String}
  {sel : Select}
  {binds rest : Binds}
  {keyspace : String}
  {table : TableDef}
  {selected : List (String × ColumnType)}
  {filters : List Filter}
  {projection : Projection}

/-- A SELECT is planned: its table, columns and filters resolve. -/
structure PlannedSelect
    (json : CatalogJson)
    (hexDecode : HexDecode)
    (store : Storage shards)
    (sessionKs : Option String)
    (sel : Select)
    (binds : Binds)
    (middle : Storage shards)
    (keyspace : String)
    (selected : List (String × ColumnType))
    (filters : List Filter)
    (rest : Binds)
    (projection : Projection) :
    Prop where
  resolved :
    (resolveTable json sessionKs sel.tableName).run answer store =
      (.ok (keyspace, projection.table), middle)
  columns :
    selectColumns projection.table sel.columns = .ok selected
  parsed :
    parseFilters hexDecode projection.table sel.whereClause binds =
      .ok (filters, rest)
  built :
    Projection.build projection.table selected filters = some projection

/-- A planned SELECT without paging returns a prefix of its plan's stream. -/
theorem PlannedSelect.execSelect_run
    (planned :
      PlannedSelect json hexDecode store sessionKs sel binds middle keyspace
        selected filters rest projection) :
    ∃ final,
      (execSelect json hexDecode sessionKs sel binds none none).run answer
          store =
        (((planRows (pageLimit none sel.limit) middle projection keyspace
            filters).mapError internalErr).map
            fun found =>
              ⟨.rows keyspace projection.table.name selected found.1 found.2.1
                found.2.2, [], rest⟩,
          final) := by
  obtain ⟨final, ran⟩ :=
    selectRows_run middle projection keyspace filters sel.limit
  refine ⟨final, ?_⟩
  rw [RhydaDB.execSelect_run planned.resolved, selectFrom, planned.columns,
    planned.parsed]
  simp only [Program.run_bind, Program.run_ofExcept, planned.built, internally,
    Program.run_mapFailure, ran]
  cases planRows (pageLimit none sel.limit) middle projection keyspace
      filters with
  | error fault =>
      rfl
  | ok found =>
      rfl

/--
LIMIT returns the first rows of the plan.

Whatever the engines hold, a SELECT without page size and paging state whose
plan streams these rows to its end returns the first of them, as many as the
limit allows.
-/
theorem limit_is_prefix
    (planned :
      PlannedSelect json hexDecode store sessionKs sel binds middle keyspace
        selected filters rest projection)
    {count : Int32}
    (limited : sel.limit = some count)
    (positive : 1 ≤ count.toInt)
    {items : List (List Value × Bytes)}
    (streamed : streamPlan middle projection keyspace filters = (items, none)) :
    ∃ final,
      (execSelect json hexDecode sessionKs sel binds none none).run answer
          store =
        (.ok
          ⟨.rows keyspace projection.table.name selected
              ((items.take count.toInt.toNat).map Prod.fst)
              ((items.take count.toInt.toNat).map Prod.snd) none, [], rest⟩,
          final) := by
  have bound := count.toInt_lt
  have cap : pageLimit none sel.limit = count.toInt.toNat := by
    rw [limited]
    change (count.toInt % 2 ^ 64).toNat = count.toInt.toNat
    omega
  obtain ⟨final, ran⟩ := planned.execSelect_run
  refine ⟨final, ?_⟩
  rw [ran, cap, planRows_of_pos (by omega), streamed, cappedRows]
  simp [Except.map, Except.mapError]

end Statements

/-- The values that a response returns. -/
def Response.outputs : Response → List (List Value)
  | .rows _ _ _ values _ _ =>
      values
  | _ =>
      []

/-- A one-engine store that knows one table and holds these rows. -/
def storeHolding (table : TableDef) (rows : List (List Bytes × Bytes)) : Storage 1 :=
  { storeWith false table with
    engines := fun _ =>
      .start false (rows.foldl
        (fun db row =>
          db.insert (rowKey table.keyspace table.name row.1) row.2)
        ∅) }

/-- Rows 1 and 2 of `kvTable`. -/
def kvPair : Storage 1 :=
  storeHolding kvTable
    [([(Value.int 1).rawBytes], encodeRowColumns [(1, .text "a")]),
      ([(Value.int 2).rawBytes], encodeRowColumns [(1, .text "b")])]

/-- `SELECT v FROM bench.kv LIMIT 1`. -/
def kvSelectOne : Select where
  tableName := kvName
  columns := [.column (.unquoted "v") none]
  whereClause := []
  limit := some 1

/-- One of two rows is returned. -/
theorem limit_is_prefix_kv :
    ∃ final,
      (execSelect cachedJson (fun _ => none) none kvSelectOne .none none
          none).run answer kvPair =
        (.ok
          ⟨.rows "bench" "kv" [("v", .text)] [[.text "a"]]
              [rowKey "bench" "kv" [(Value.int 1).rawBytes]] none, [], .none⟩,
          final) := by
  have known : kvPair.tables ("bench", "kv") = some kvTable := by
    simp [kvPair, storeHolding, storeWith, kvTable]
  have resolved :
      (resolveTable cachedJson none kvName).run answer kvPair =
        (.ok ("bench", kvTable), kvPair) :=
    resolveTable_run_cached (by decide) known
  have planned :
      PlannedSelect cachedJson (fun _ => none) kvPair none kvSelectOne .none
        kvPair "bench" [("v", .text)] [] .none ⟨kvTable, [1], [], [], [0]⟩ :=
    ⟨resolved, by decide +kernel, rfl, rfl⟩
  have streamed :
      streamPlan kvPair ⟨kvTable, [1], [], [], [0]⟩ "bench" [] =
        ([([.text "a"], rowKey "bench" "kv" [(Value.int 1).rawBytes]),
          ([.text "b"], rowKey "bench" "kv" [(Value.int 2).rawBytes])],
          none) := by
    decide +kernel
  exact limit_is_prefix planned rfl (by decide) streamed

end RhydaDB
