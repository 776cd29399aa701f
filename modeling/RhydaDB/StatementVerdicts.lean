import RhydaDB.SelectStream
import RhydaDB.Server
import RhydaDB.ServedStatements

namespace RhydaDB

open ByteStrings AtomicPrograms FiniteRuns Program Storage

/-!
# Statements end as the catalog has it

The statements that leave the catalog alone, executed beside each other in any
order.  A verdict is computed from the statement, its values and the catalog
alone; the run lemma says that every statement ends with its verdict, whatever
rows the others store, delete or cache in between, and that every row that is
ever stored can be read again.
-/

/-! ## Verdicts -/

/-- The table a name refers to in a catalog. -/
def Catalog.resolve
    (catalog : Catalog)
    (sessionKs : Option String)
    (name : FQName) :
    QueryOutcome (String × TableDef) := do
  let keyspace ← nameKeyspace sessionKs name
  match catalog.find keyspace (normId name.name) with
  | some table =>
      return (keyspace, table)
  | none =>
      .error (invalidErr s!"table {keyspace}.{normId name.name} does not exist")

/-- What an accepted statement answers, up to the rows it happens to meet. -/
inductive Verdict where
  | done
  | session (keyspace : String)
  /-- A virtual table that does not exist reads as an empty one. -/
  | virtual (table : String)
  | rows
      (keyspace : String)
      (selected : List (String × ColumnType))
      (projection : Projection)

/-- An output row with its source: the selected values of a row under its key. -/
def Projection.Shows
    (projection : Projection)
    (keyspace : String)
    (output : List Value)
    (source : Bytes) :
    Prop :=
  ∃ row : TableRow projection.table,
    row.key keyspace = source ∧ output = projection.project row.values

/-- The response is as the verdict says. -/
def Verdict.Describes : Verdict → Response → Prop
  | .done, response =>
      response = .void
  | .session keyspace, response =>
      response = .setKeyspace keyspace
  | .virtual table, response =>
      response = .rows "system_virtual_schema" table [] [] [] none
  | .rows keyspace selected projection, response =>
      ∃ rows sources next,
        response =
            .rows keyspace projection.table.name selected rows sources next ∧
          List.Forall₂ (projection.Shows keyspace) rows sources

section Verdicts

variable
  (catalog : Catalog)
  (hexDecode : HexDecode)
  (sessionKs : Option String)
  (binds : Binds)

/-- The verdict on an INSERT. -/
def Insert.verdict (ins : Insert) : QueryOutcome Verdict := do
  let (keyspace, table) ← catalog.resolve sessionKs ins.tableName
  checkWritable keyspace
  let _ ← planInsert hexDecode table ins binds
  return .done

/-- The verdict on an UPDATE. -/
def Update.verdict (upd : Update) : QueryOutcome Verdict := do
  let (keyspace, table) ← catalog.resolve sessionKs upd.tableName
  checkWritable keyspace
  let (newValues, _, _) ← planUpdate hexDecode table upd binds
  if coversAllRegular table newValues then
    let _ ← coveredCells table newValues
    return .done
  else
    return .done

/-- The verdict on a DELETE. -/
def Delete.verdict (del : Delete) : QueryOutcome Verdict := do
  let (keyspace, table) ← catalog.resolve sessionKs del.tableName
  checkWritable keyspace
  let _ ← planDelete hexDecode table del binds
  return .done

/-- The verdict on a TRUNCATE. -/
def truncateVerdict (name : FQName) : QueryOutcome Verdict := do
  let (keyspace, _) ← catalog.resolve sessionKs name
  checkWritable keyspace
  return .done

/-- The verdict on a SELECT from the table it names. -/
def Select.tableVerdict
    (sel : Select)
    (keyspace : String)
    (table : TableDef) :
    QueryOutcome Verdict := do
  let selected ← selectColumns table sel.columns
  let (filters, _) ← parseFilters hexDecode table sel.whereClause binds
  match Projection.build table selected filters with
  | none =>
      .error .panic
  | some projection =>
      return .rows keyspace selected projection

/-- The verdict on a SELECT. -/
def Select.verdict (sel : Select) : QueryOutcome Verdict :=
  if (nameKeyspace sessionKs sel.tableName).toOption =
        some "system_virtual_schema" ∧
      catalog.find "system_virtual_schema" (normId sel.tableName.name) = none then
    .ok (.virtual (normId sel.tableName.name))
  else do
    let (keyspace, table) ← catalog.resolve sessionKs sel.tableName
    sel.tableVerdict hexDecode binds keyspace table

/-- The verdict on a USE. -/
def useVerdict (identifier : Identifier) : QueryOutcome Verdict :=
  match catalog.keyspaces (normId identifier) with
  | none =>
      .error (invalidErr s!"Keyspace '{normId identifier}' does not exist")
  | some _ =>
      .ok (.session (normId identifier))

/-- The verdict on a statement, unless the statement changes the catalog. -/
def Statement.verdict? : Statement → Option (QueryOutcome Verdict)
  | .use identifier =>
      some (useVerdict catalog identifier)
  | .insert ins =>
      some (ins.verdict catalog hexDecode sessionKs binds)
  | .select sel =>
      some (sel.verdict catalog hexDecode sessionKs binds)
  | .delete del =>
      some (del.verdict catalog hexDecode sessionKs binds)
  | .update upd =>
      some (upd.verdict catalog hexDecode sessionKs binds)
  | .truncate name =>
      some (truncateVerdict catalog sessionKs name)
  | .other shortName =>
      some (.error (invalidErr s!"Statement not supported: {shortName}"))
  | _ =>
      none

/--
The statement fits a frame, and the key it writes or looks up, if any, has parts
that fit their length fields.
-/
def Statement.Fits : Statement → Prop
  | .insert ins =>
      ins.FitsFrame binds ∧
        ∀ keyspace table,
          catalog.resolve sessionKs ins.tableName = .ok (keyspace, table) →
          ∀ keyParts cells rest,
            planInsert hexDecode table ins binds = .ok (keyParts, cells, rest) →
            PartsFit keyParts
  | .update upd =>
      upd.FitsFrame binds ∧
        ∀ keyspace table,
          catalog.resolve sessionKs upd.tableName = .ok (keyspace, table) →
          ∀ newValues keyParts rest,
            planUpdate hexDecode table upd binds =
                .ok (newValues, keyParts, rest) →
            PartsFit keyParts
  | .select sel =>
      ∀ keyspace table,
        catalog.resolve sessionKs sel.tableName = .ok (keyspace, table) →
        ∀ filters rest keyParts,
          parseFilters hexDecode table sel.whereClause binds =
              .ok (filters, rest) →
          pointKey table filters = some keyParts →
          PartsFit keyParts
  | _ =>
      True

end Verdicts

/-! ## Scans -/

/-- A scan that met no fault and shows rows of the table. -/
structure ScanState.Shows
    (projection : Projection)
    (keyspace : String)
    (state : ScanState) :
    Prop where
  noError : state.errorSlot = none
  shows : List.Forall₂ (projection.Shows keyspace) state.rows state.sources

/-- An entry that stores a row adds it to the scan or leaves the scan as it is. -/
theorem ScanState.visit_cases
    {projection : Projection}
    {keyspace : String}
    {key value : Bytes}
    {found : Option (List Value)}
    (entry : entryRow projection keyspace key value = .ok found)
    (state : ScanState)
    (pagingState : Option Bytes)
    (limit : Nat) :
    let next := (state.visit projection keyspace pagingState limit key value).1
    next.errorSlot = state.errorSlot ∧
      ((next.rows = state.rows ∧ next.sources = state.sources) ∨
        ∃ row,
          found = some row ∧
            next.rows = state.rows ++ [row] ∧
            next.sources = state.sources ++ [key]) := by
  rw [ScanState.visit, handleEntry, ← entryRow, entry]
  split
  · exact ⟨rfl, .inl ⟨rfl, rfl⟩⟩
  · split
    · exact ⟨rfl, .inl ⟨rfl, rfl⟩⟩
    · cases found with
      | none =>
          simp only [if_true]
          split
          · exact ⟨rfl, .inl ⟨rfl, rfl⟩⟩
          · exact ⟨rfl, .inl ⟨rfl, rfl⟩⟩
      | some row =>
          dsimp only
          split
          · split
            · exact ⟨rfl, .inr ⟨row, rfl, rfl, rfl⟩⟩
            · exact ⟨rfl, .inr ⟨row, rfl, rfl, rfl⟩⟩
          · exact ⟨rfl, .inr ⟨row, rfl, rfl, rfl⟩⟩

section Scans

variable
  {projection : Projection}
  (wellFormed : projection.table.WellFormed)
  (columnsFit : projection.table.columns.length ≤ 2 ^ 16)
  (resolves : projection.Resolves)
  {keyspace : String}

include wellFormed columnsFit resolves

/-- Visiting entries that store rows shows rows. -/
theorem ScanState.Shows.visitAll
    {state : ScanState}
    (shows : state.Shows projection keyspace)
    {entries : List (Bytes × Bytes)}
    (rowEach :
      ∀ entry ∈ entries,
        ∃ row : TableRow projection.table,
          row.key keyspace = entry.1 ∧ row.bytes = entry.2)
    (pagingState : Option Bytes)
    (limit : Nat) :
    ((visitEntries (ScanState.visit projection keyspace pagingState limit) state
      entries).1).Shows projection keyspace := by
  induction entries generalizing state with
  | nil =>
      exact shows
  | cons entry rest inductionHypothesis =>
      obtain ⟨row, sameKey, sameBytes⟩ := rowEach entry List.mem_cons_self
      have stored := entryRow_row wellFormed columnsFit resolves keyspace row
      rw [sameKey, sameBytes] at stored
      obtain ⟨sameError, visited⟩ :=
        ScanState.visit_cases stored state pagingState limit
      have next :
          ((state.visit projection keyspace pagingState limit entry.1
            entry.2).1).Shows projection keyspace := by
        refine ⟨sameError.trans shows.noError, ?_⟩
        rcases visited with ⟨sameRows, sameSources⟩ | ⟨output, isFound, added, from_⟩
        · rw [sameRows, sameSources]
          exact shows.shows
        · rw [added, from_]
          refine List.rel_append shows.shows (.cons ⟨row, sameKey, ?_⟩ .nil)
          split at isFound
          · exact (Option.some.inj isFound).symm
          · cases isFound
      rw [visitEntries]
      split
      · exact inductionHypothesis next fun other later =>
          rowEach other (List.mem_cons_of_mem entry later)
      · exact next

variable
  {shards : Nat} [NeZero shards]
  {json : CatalogJson}
  {catalog : Catalog}
  (sound : catalog.Sound)
  {name : TableName}
  (exists_ : catalog.tables name = some projection.table)

include exists_

omit wellFormed columnsFit resolves in
/-- Entries under the prefix of a table store rows of the table. -/
theorem rowEach_of_responds
    {engine : Fin shards}
    {leading : Bytes}
    (below : name.dataPrefix <+: leading)
    {entries : List (Bytes × Bytes)}
    (responds : MayRespond json catalog (.dbScan engine leading) entries) :
    ∀ entry ∈ entries,
      ∃ row : TableRow projection.table,
        row.key name.keyspace = entry.1 ∧ row.bytes = entry.2 := by
  intro entry member
  obtain ⟨under, readable⟩ := responds.dbScan entry member
  exact readable name projection.table exists_ (below.trans under)

/-- Streaming an engine's entries of a table shows rows. -/
theorem forEachOnEngine_serving
    {engine : Fin shards}
    {leading : Bytes}
    (below : name.dataPrefix <+: leading)
    {state : ScanState}
    (shows : state.Shows projection name.keyspace)
    (pagingState : Option Bytes)
    (limit : Nat) :
    Serving json catalog
      (forEachOnEngine engine leading
        (ScanState.visit projection name.keyspace pagingState limit) state)
      (fun visited => visited.1.Shows projection name.keyspace)
      (fun _ => False) :=
  serving_act id fun _ responds =>
    shows.visitAll wellFormed columnsFit resolves
      (rowEach_of_responds exists_ below responds) pagingState limit

/-- So does streaming several engines in turn. -/
theorem forEachOnEngines_serving
    {leading : Bytes}
    (below : name.dataPrefix <+: leading)
    (engines : List (Fin shards))
    {state : ScanState}
    (shows : state.Shows projection name.keyspace)
    (pagingState : Option Bytes)
    (limit : Nat) :
    Serving json catalog
      (forEachOnEngines leading
        (ScanState.visit projection name.keyspace pagingState limit) engines
        state)
      (fun final => final.Shows projection name.keyspace)
      (fun _ => False) := by
  induction engines generalizing state with
  | nil =>
      exact shows
  | cons engine rest inductionHypothesis =>
      refine .bind
        (forEachOnEngine_serving wellFormed columnsFit resolves exists_ below
          shows pagingState limit)
        fun visited showsNext => ?_
      dsimp only
      split
      · exact inductionHypothesis showsNext
      · exact showsNext

include sound

omit wellFormed columnsFit resolves in
/-- The prefix of a table's rows is that of its name. -/
theorem dataPrefix_of_sound :
    dataPrefix name.keyspace projection.table.name = name.dataPrefix := by
  rw [sound.named name _ exists_]
  rfl

/-- Scanning partitions one after the other shows rows. -/
theorem scanPartitions_serving
    (partitions : List (List Bytes))
    {state : ScanState}
    (shows : state.Shows projection name.keyspace)
    (pagingState : Option Bytes)
    (limit : Nat) :
    Serving json catalog
      (scanPartitions name.keyspace projection.table.name limit
        (ScanState.visit projection name.keyspace pagingState limit) partitions
        state :
        StorageProgram shards Fault ScanState)
      (fun final => final.Shows projection name.keyspace)
      (fun _ => False) := by
  induction partitions generalizing state with
  | nil =>
      exact shows
  | cons partition rest inductionHypothesis =>
      have again :
          { state with done := false }.Shows projection name.keyspace :=
        ⟨shows.noError, shows.shows⟩
      have below :
          name.dataPrefix <+:
            dataPrefix name.keyspace projection.table.name ++
              encodeKey partition := by
        rw [dataPrefix_of_sound sound exists_]
        exact List.prefix_append _ _
      have streams :
          Serving json catalog
            (forEachInPartition name.keyspace projection.table.name partition
              (ScanState.visit projection name.keyspace pagingState limit)
              { state with done := false } :
              StorageProgram shards Fault ScanState)
            (fun final => final.Shows projection name.keyspace)
            (fun _ => False) :=
        .bind
          (forEachOnEngine_serving wellFormed columnsFit resolves exists_ below
            again pagingState limit)
          fun _ showsNext => showsNext
      refine .bind streams fun next showsNext => ?_
      split
      · exact showsNext
      · exact inductionHypothesis showsNext

/-- A scan of any plan shows rows. -/
theorem scanRowsMatching_serving
    (filters : List Filter)
    (pagingState : Option Bytes)
    (limit : Nat) :
    Serving json catalog
      (scanRowsMatching projection name.keyspace filters pagingState limit :
        StorageProgram shards Fault ScanState)
      (fun final => final.Shows projection name.keyspace)
      (fun _ => False) := by
  have started : ScanState.start.Shows projection name.keyspace := ⟨rfl, .nil⟩
  unfold scanRowsMatching
  dsimp only
  split
  · exact scanPartitions_serving wellFormed columnsFit resolves sound exists_ _
      started pagingState limit
  · refine forEachOnEngines_serving wellFormed columnsFit resolves exists_ ?_ _
      started pagingState limit
    rw [dataPrefix_of_sound sound exists_]

/-- A point lookup shows at most the row under its key. -/
theorem selectPoint_serving
    {keyParts : List Bytes}
    (fits : PartsFit keyParts) :
    Serving json catalog
      (selectPoint projection name.keyspace keyParts :
        StorageProgram shards Fault _)
      (fun shown =>
        List.Forall₂ (projection.Shows name.keyspace) shown.1 shown.2)
      (fun _ => False) := by
  refine .bind (getRow_serving _ _ _) fun found readable => ?_
  cases found with
  | none =>
      exact .nil
  | some bytes =>
      have below :
          name.dataPrefix <+:
            rowKey name.keyspace projection.table.name keyParts := by
        rw [← dataPrefix_of_sound sound exists_]
        exact List.prefix_append _ _
      obtain ⟨row, sameKey, rfl⟩ :=
        readable bytes rfl name projection.table exists_ below
      obtain rfl : row.keyParts = keyParts :=
        encodeKey_injective row.partsFit fits (List.append_cancel_left sameKey)
      have projected := projectPoint_row wellFormed columnsFit resolves row
      simp only [projected]
      cases projection.fast || projection.accepts row.values with
      | false =>
          exact .nil
      | true =>
          exact .cons ⟨row, rfl, rfl⟩ .nil

/-- A SELECT whose columns and filters are resolved shows rows. -/
theorem selectRows_serving
    {filters : List Filter}
    (keyFits :
      ∀ keyParts,
        pointKey projection.table filters = some keyParts → PartsFit keyParts)
    (pageSize limit : Option Int32)
    (pagingState : Option Bytes) :
    Serving json catalog
      (selectRows projection name.keyspace filters pageSize limit pagingState :
        StorageProgram shards Fault _)
      (fun shown =>
        List.Forall₂ (projection.Shows name.keyspace) shown.1 shown.2.1)
      (fun _ => False) := by
  unfold selectRows
  split
  · rename_i keyParts plan
    exact .bind
      (selectPoint_serving wellFormed columnsFit resolves sound exists_
        (keyFits keyParts plan))
      fun _ shows => shows
  · refine .bind
      (scanRowsMatching_serving wellFormed columnsFit resolves sound exists_ _ _ _)
      fun state shows => ?_
    rw [shows.noError]
    exact shows.shows

end Scans

/-! ## Statements -/

section Statements

variable
  {shards : Nat} [NeZero shards]
  {json : CatalogJson}
  {catalog : Catalog}
  {hexDecode : HexDecode}
  {α : Type}

/-- The program ends with an outcome that is computed without the store. -/
abbrev ServesAs
    (json : CatalogJson)
    (catalog : Catalog)
    (outcome : QueryOutcome α)
    (program : StorageProgram shards QueryFault α) :
    Prop :=
  Serving json catalog program
    (fun value => outcome = .ok value)
    (fun fault => outcome = .error fault)

/-- The statement ends with its verdict. -/
abbrev ServesVerdict
    (json : CatalogJson)
    (catalog : Catalog)
    (verdict : QueryOutcome Verdict)
    (program : StorageProgram shards QueryFault (Executed shards)) :
    Prop :=
  Serving json catalog program
    (fun executed => ∃ said, verdict = .ok said ∧ said.Describes executed.response)
    (fun fault => verdict = .error fault)

/-- A computed outcome is followed by the verdict on its value. -/
theorem ServesVerdict.after
    {outcome : QueryOutcome α}
    {verdict : α → QueryOutcome Verdict}
    {program : StorageProgram shards QueryFault α}
    {continuation : α → StorageProgram shards QueryFault (Executed shards)}
    (first : ServesAs json catalog outcome program)
    (later :
      ∀ value,
        outcome = .ok value →
        ServesVerdict json catalog (verdict value) (continuation value)) :
    ServesVerdict json catalog (outcome >>= verdict) (program >>= continuation) := by
  refine .bind
    (Guarantees.mono first (fun _ => id) fun failure failed => ?_)
    fun value returned => ?_
  · rw [failed]
    rfl
  · rw [returned]
    exact later value returned

/-- What is computed without the store ends as computed. -/
theorem servesAs_ofExcept (outcome : QueryOutcome α) :
    ServesAs json catalog outcome
      (Program.ofExcept outcome : StorageProgram shards QueryFault α) :=
  .ofExcept (fun _ => id) fun _ => id

/-- Looking a name up finds the catalog's table or its error. -/
theorem resolveTable_serving
    (roundTrips : json.RoundTrips)
    (sessionKs : Option String)
    (name : FQName) :
    ServesAs json catalog (catalog.resolve sessionKs name)
      (resolveTable json sessionKs name :
        StorageProgram shards QueryFault (String × TableDef)) := by
  unfold resolveTable Catalog.resolve
  cases nameKeyspace sessionKs name with
  | error fault =>
      exact rfl
  | ok keyspace =>
      simp only [Program.ofExcept, return_bind]
      refine .bind
        (serving_internally
          (getTable_serving roundTrips keyspace (normId name.name)))
        fun found isFound => ?_
      subst isFound
      cases exists_ : catalog.find keyspace (normId name.name) with
      | none =>
          simp only [Bind.bind, Except.bind, exists_]
          rfl
      | some table =>
          simp only [Bind.bind, Except.bind, exists_]
          rfl

/-- A resolved table exists under the name it was resolved by. -/
theorem Catalog.exists_of_resolve
    {sessionKs : Option String}
    {name : FQName}
    {keyspace : String}
    {table : TableDef}
    (resolved : catalog.resolve sessionKs name = .ok (keyspace, table)) :
    ∃ owner : TableName,
      owner.keyspace = keyspace ∧ catalog.tables owner = some table := by
  obtain ⟨found, _, looked⟩ := Fallible.bind_eq_ok.mp resolved
  split at looked
  · rename_i definition isFound
    cases looked
    obtain ⟨owner, sameKeyspace, _, exists_⟩ := Catalog.find_eq_some.mp isFound
    exact ⟨owner, sameKeyspace, exists_⟩
  · cases looked

variable
  (roundTrips : json.RoundTrips)
  (halves : hexDecode.Halves)
  (sound : catalog.Sound)
  {sessionKs : Option String}
  {binds : Binds}

include roundTrips

/-- A USE ends with its verdict. -/
theorem execUse_serving (identifier : Identifier) :
    ServesVerdict json catalog (useVerdict catalog identifier)
      (execUse json identifier binds :
        StorageProgram shards QueryFault (Executed shards)) := by
  refine .bind
    (serving_internally (getKeyspace_serving roundTrips (normId identifier)))
    fun found isFound => ?_
  subst isFound
  unfold useVerdict
  cases catalog.keyspaces (normId identifier) with
  | none =>
      exact rfl
  | some keyspace =>
      exact ⟨_, rfl, rfl⟩

/-- A DELETE ends with its verdict. -/
theorem execDelete_serving (del : Delete) :
    ServesVerdict json catalog (del.verdict catalog hexDecode sessionKs binds)
      (execDelete json hexDecode sessionKs del binds :
        StorageProgram shards QueryFault (Executed shards)) := by
  refine .after (resolveTable_serving roundTrips _ _) fun resolved _ => ?_
  refine .after (servesAs_ofExcept _) fun _ _ => ?_
  refine .after (servesAs_ofExcept _) fun planned _ => ?_
  exact .bind (serving_internally (deleteRow_serving _ _ _))
    fun _ _ => ⟨.done, rfl, rfl⟩

/-- A TRUNCATE ends with its verdict. -/
theorem execTruncate_serving (name : FQName) :
    ServesVerdict json catalog (truncateVerdict catalog sessionKs name)
      (execTruncate json sessionKs name binds :
        StorageProgram shards QueryFault (Executed shards)) := by
  refine .after (resolveTable_serving roundTrips _ _) fun resolved _ => ?_
  refine .after (servesAs_ofExcept _) fun _ _ => ?_
  exact .bind (serving_internally (truncateTable_serving _ _))
    fun _ _ => ⟨.done, rfl, rfl⟩

include sound

omit roundTrips in
/-- Writing a row of an existing table succeeds. -/
theorem putRow_row_serving
    {owner : TableName}
    {table : TableDef}
    (exists_ : catalog.tables owner = some table)
    (row : TableRow table) :
    Serving json catalog
      (putRow owner.keyspace table.name row.keyParts row.bytes :
        StorageProgram shards Fault _)
      (fun _ => True) (fun _ => False) :=
  putRow_serving (sound.reads_row exists_ row)

include halves

/-- An INSERT ends with its verdict. -/
theorem execInsert_serving
    (ins : Insert)
    (fits : Statement.Fits catalog hexDecode sessionKs binds (.insert ins)) :
    ServesVerdict json catalog (ins.verdict catalog hexDecode sessionKs binds)
      (execInsert json hexDecode sessionKs ins binds :
        StorageProgram shards QueryFault (Executed shards)) := by
  refine .after (resolveTable_serving roundTrips _ _) ?_
  rintro ⟨keyspace, table⟩ resolved
  refine .after (servesAs_ofExcept _) fun _ _ => ?_
  refine .after (servesAs_ofExcept _) ?_
  rintro ⟨keyParts, cells, rest⟩ planned
  obtain ⟨owner, rfl, exists_⟩ := Catalog.exists_of_resolve resolved
  obtain ⟨row, rfl, sameBytes⟩ :=
    exists_insertedRow halves fits.1 planned
      (fits.2 _ _ resolved _ _ _ planned)
  dsimp only
  rw [← sameBytes]
  exact .bind (serving_internally (putRow_row_serving sound exists_ row))
    fun _ _ => ⟨.done, rfl, rfl⟩

omit roundTrips in
/-- An UPDATE writes a row of its table, whatever row it has read. -/
theorem mergedCells_serving
    {owner : TableName}
    {table : TableDef}
    (exists_ : catalog.tables owner = some table)
    {upd : Update}
    (fits : Statement.Fits catalog hexDecode sessionKs binds (.update upd))
    (resolved :
      catalog.resolve sessionKs upd.tableName = .ok (owner.keyspace, table))
    {newValues : List (Nat × Value)}
    {keyParts : List Bytes}
    {rest : Binds}
    (planned :
      planUpdate hexDecode table upd binds = .ok (newValues, keyParts, rest))
    {existing : Option Bytes}
    (readable :
      ∀ bytes,
        existing = some bytes →
        catalog.Reads (rowKey owner.keyspace table.name keyParts) bytes) :
    ∃ cells,
      mergedCells table newValues existing = .ok cells ∧
        ∃ row : TableRow table,
          row.keyParts = keyParts ∧ row.bytes = encodeRowColumns cells := by
  have below :
      owner.dataPrefix <+: rowKey owner.keyspace table.name keyParts := by
    rw [sound.named owner table exists_]
    exact List.prefix_append _ _
  have earlier :
      ∀ bytes,
        existing = some bytes →
        ∃ valueOf,
          table.Holds valueOf ∧
            bytes = encodeRowColumns (table.cells valueOf) := by
    intro bytes present
    obtain ⟨row, _, rfl⟩ := readable bytes present owner table exists_ below
    exact ⟨row.valueOf, row.held, rfl⟩
  obtain ⟨valueOf, held, previous⟩ :=
    exists_previousRow (sound.columnsFit owner table exists_) earlier
  have merged := mergedCells_assign newValues previous
  exact ⟨_, merged,
    exists_updatedRow halves fits.1 planned (fits.2 _ _ resolved _ _ _ planned)
      (held.assign (planUpdate_storable halves fits.1 planned))⟩

/-- An UPDATE ends with its verdict. -/
theorem execUpdate_serving
    (upd : Update)
    (fits : Statement.Fits catalog hexDecode sessionKs binds (.update upd)) :
    ServesVerdict json catalog (upd.verdict catalog hexDecode sessionKs binds)
      (execUpdate json hexDecode sessionKs upd binds :
        StorageProgram shards QueryFault (Executed shards)) := by
  refine .after (resolveTable_serving roundTrips _ _) ?_
  rintro ⟨keyspace, table⟩ resolved
  refine .after (servesAs_ofExcept _) fun _ _ => ?_
  refine .after (servesAs_ofExcept _) ?_
  rintro ⟨newValues, keyParts, rest⟩ planned
  obtain ⟨owner, rfl, exists_⟩ := Catalog.exists_of_resolve resolved
  have partsFit := fits.2 _ _ resolved _ _ _ planned
  dsimp only
  unfold updatedCells
  split
  · rename_i covers
    refine .after (servesAs_ofExcept _) fun cells assigned => ?_
    obtain ⟨valueOf, held, sameBytes⟩ :=
      (StoredRow.covered fits.1 planned covers assigned).exists_values halves
        (sound.columnsFit owner table exists_)
    obtain ⟨row, rfl, written⟩ :=
      exists_updatedRow halves fits.1 planned partsFit held
    rw [sameBytes, ← written]
    exact .bind (serving_internally (putRow_row_serving sound exists_ row))
      fun _ _ => ⟨.done, rfl, rfl⟩
  · rw [Program.bind_assoc]
    refine .bind (serving_internally (getRow_serving _ _ _))
      fun existing readable => ?_
    obtain ⟨cells, merged, row, rfl, written⟩ :=
      mergedCells_serving halves sound exists_ fits resolved planned readable
    simp only [merged, Program.ofExcept, return_bind]
    rw [← written]
    exact .bind (serving_internally (putRow_row_serving sound exists_ row))
      fun _ _ => ⟨.done, rfl, rfl⟩

omit roundTrips halves in
/-- A SELECT from a table ends with its verdict. -/
theorem selectFrom_serving
    (sel : Select)
    {owner : TableName}
    {table : TableDef}
    (exists_ : catalog.tables owner = some table)
    (resolved :
      catalog.resolve sessionKs sel.tableName = .ok (owner.keyspace, table))
    (fits : Statement.Fits catalog hexDecode sessionKs binds (.select sel))
    (pageSize : Option Int32)
    (pagingState : Option Bytes) :
    ServesVerdict json catalog
      (sel.tableVerdict hexDecode binds owner.keyspace table)
      (selectFrom hexDecode owner.keyspace table sel binds pageSize pagingState :
        StorageProgram shards QueryFault (Executed shards)) := by
  refine .after (servesAs_ofExcept _) fun selected _ => ?_
  refine .after (servesAs_ofExcept _) ?_
  rintro ⟨filters, rest⟩ parsed
  dsimp only
  cases built : Projection.build table selected filters with
  | none =>
      exact rfl
  | some projection =>
      obtain ⟨rfl, resolves⟩ := Projection.resolves_of_build built
      refine .bind
        (serving_internally
          (selectRows_serving (sound.wellFormed owner _ exists_)
            (sound.columnsFit owner _ exists_) resolves sound exists_
            (fun keyParts fixed => fits _ _ resolved _ _ keyParts parsed fixed)
            pageSize sel.limit pagingState))
        ?_
      rintro ⟨rows, sources, next⟩ isShown
      exact ⟨_, rfl, rows, sources, next, rfl, isShown⟩

omit halves in
/-- A SELECT ends with its verdict. -/
theorem execSelect_serving
    (sel : Select)
    (fits : Statement.Fits catalog hexDecode sessionKs binds (.select sel))
    (pageSize : Option Int32)
    (pagingState : Option Bytes) :
    ServesVerdict json catalog (sel.verdict catalog hexDecode sessionKs binds)
      (execSelect json hexDecode sessionKs sel binds pageSize pagingState :
        StorageProgram shards QueryFault (Executed shards)) := by
  have misses :
      Serving json catalog
        (missesVirtualTable json sessionKs sel.tableName :
          StorageProgram shards QueryFault Bool)
        (fun missed =>
          missed = true ↔
            (nameKeyspace sessionKs sel.tableName).toOption =
                some "system_virtual_schema" ∧
              catalog.find "system_virtual_schema"
                  (normId sel.tableName.name) =
                none)
        (fun fault =>
          sel.verdict catalog hexDecode sessionKs binds = .error fault) := by
    unfold missesVirtualTable
    split
    · rename_i isVirtual
      refine .bind (serving_internally (getTable_serving roundTrips _ _))
        fun found isFound => ?_
      subst isFound
      exact Option.isNone_iff_eq_none.trans (and_iff_right isVirtual).symm
    · rename_i notVirtual
      exact iff_of_false Bool.false_ne_true fun both => notVirtual both.1
  refine .bind misses fun missed isMissed => ?_
  unfold Select.verdict
  cases missed with
  | true =>
      rw [if_pos (isMissed.mp rfl)]
      exact ⟨_, rfl, rfl⟩
  | false =>
      rw [if_neg fun both => Bool.false_ne_true (isMissed.mpr both)]
      refine ServesVerdict.after (resolveTable_serving roundTrips _ _) ?_
      rintro ⟨keyspace, table⟩ resolved
      obtain ⟨owner, rfl, exists_⟩ := Catalog.exists_of_resolve resolved
      exact selectFrom_serving sound sel exists_ resolved fits pageSize
        pagingState

/-- A statement that leaves the catalog alone ends with its verdict. -/
theorem executeStatement_serving
    {statement : Statement}
    {verdict : QueryOutcome Verdict}
    (judged :
      statement.verdict? catalog hexDecode sessionKs binds = some verdict)
    (fits : statement.Fits catalog hexDecode sessionKs binds)
    (pageSize : Option Int32)
    (pagingState : Option Bytes) :
    ServesVerdict json catalog verdict
      (executeStatement json hexDecode sessionKs binds pageSize pagingState
        statement : StorageProgram shards QueryFault (Executed shards)) := by
  cases statement with
  | use identifier =>
      cases judged
      exact execUse_serving roundTrips identifier
  | insert ins =>
      cases judged
      exact execInsert_serving roundTrips halves sound ins fits
  | select sel =>
      cases judged
      exact execSelect_serving roundTrips sound sel fits pageSize pagingState
  | delete del =>
      cases judged
      exact execDelete_serving roundTrips del
  | update upd =>
      cases judged
      exact execUpdate_serving roundTrips halves sound upd fits
  | truncate name =>
      cases judged
      exact execTruncate_serving roundTrips name
  | other shortName =>
      cases judged
      exact rfl
  | createKeyspace create =>
      cases judged
  | createTable create =>
      cases judged
  | dropTable drop =>
      cases judged
  | dropKeyspace drop =>
      cases judged

end Statements

end RhydaDB
