import RhydaDB.SequentialStatements

namespace RhydaDB

open ByteStrings AtomicPrograms FiniteRuns Program Storage

/-!
# What requests answer

The tables decide what a client is answered: whether its request fails and how,
and which rows a SELECT lists.
-/

/-- The row has the wanted value in the column of the filter, or a listed one. -/
def Filter.Accepts (row : RowValues) : Filter → Prop
  | .eq name value =>
      value.partialEq (row name) = true
  | .isIn name values =>
      ∃ value ∈ values, value.partialEq (row name) = true

/-- A stored row passes a filter when its values are accepted. -/
theorem Filter.passes_iff_accepts
    {table : TableDef}
    (row : TableRow table)
    (filter : Filter) :
    filter.Passes row ↔ filter.Accepts row.value := by
  cases filter <;> rfl

/--
The output rows are values of rows that all filters accept, and unless there are
as many as the cap allows, no accepted row is missing.
-/
structure Tables.Lists
    (tables : Tables)
    (keyspace table : String)
    (filters : List Filter)
    (columns : List String)
    (cap : Nat)
    (outputs : List (List Value)) :
    Prop where
  each :
    ∀ output ∈ outputs,
      ∃ key row,
        tables keyspace table key = some row ∧
          (∀ filter ∈ filters, filter.Accepts row) ∧
          output = columns.map row
  all :
    outputs.length < cap →
    ∀ key row,
      tables keyspace table key = some row →
      (∀ filter ∈ filters, filter.Accepts row) →
      columns.map row ∈ outputs

/-- A SELECT of a table without floats in its key lists the rows of the tables. -/
def Select.AnswersFrom
    (catalog : Catalog)
    (hexDecode : HexDecode)
    (sessionKs : Option String)
    (binds : Binds)
    (tables : Tables)
    (sel : Select)
    (response : Response) :
    Prop :=
  ∀ keyspace table selected filters rest,
    catalog.resolve sessionKs sel.tableName = .ok (keyspace, table) →
    selectColumns table sel.columns = .ok selected →
    parseFilters hexDecode table sel.whereClause binds = .ok (filters, rest) →
    table.KeysFloatFree →
    ∃ outputs sources,
      response = .rows keyspace table.name selected outputs sources none ∧
        tables.Lists keyspace table.name filters (selected.map Prod.fst)
          (pageLimit none sel.limit) outputs

section Answers

variable
  {shards : Nat} [NeZero shards]
  {json : CatalogJson}
  {catalog : Catalog}
  {hexDecode : HexDecode}
  {store : Storage shards}
  {rows : RowMap}
  {tables : Tables}

/-- The rows that filters select from a store are those that the tables list. -/
theorem Depicts.mem_selects
    (depicts : Depicts catalog rows tables)
    {name : TableName}
    {table : TableDef}
    (exists_ : catalog.tables name = some table)
    {filters : List Filter}
    {key : List Value}
    {values : RowValues} :
    (tables name.keyspace name.table key = some values ∧
        ∀ filter ∈ filters, filter.Accepts values) ↔
      ∃ row ∈ rows.selects name.keyspace table filters,
        row.keyValues = key ∧ row.value = values := by
  rw [depicts name table exists_ key values]
  constructor
  · rintro ⟨⟨row, stored, rfl, rfl⟩, accepts⟩
    exact ⟨row, ⟨stored, fun filter member =>
      (filter.passes_iff_accepts row).mpr (accepts filter member)⟩, rfl, rfl⟩
  · rintro ⟨row, ⟨stored, passes⟩, rfl, rfl⟩
    exact ⟨⟨row, stored, rfl, rfl⟩, fun filter member =>
      (filter.passes_iff_accepts row).mp (passes filter member)⟩

/-- A SELECT from the table that its name resolves to has the table's verdict. -/
theorem Select.verdict_of_resolved
    {sessionKs : Option String}
    {binds : Binds}
    {sel : Select}
    {keyspace : String}
    {table : TableDef}
    (resolved : catalog.resolve sessionKs sel.tableName = .ok (keyspace, table)) :
    sel.verdict catalog hexDecode sessionKs binds =
      sel.tableVerdict hexDecode binds keyspace table := by
  have notVirtual :
      ¬ ((nameKeyspace sessionKs sel.tableName).toOption =
            some "system_virtual_schema" ∧
          catalog.find "system_virtual_schema" (normId sel.tableName.name) =
            none) := by
    rintro ⟨isVirtual, missing⟩
    obtain ⟨found, isKeyspace, looked⟩ := Fallible.bind_eq_ok.mp resolved
    rw [isKeyspace] at isVirtual
    cases isVirtual
    rw [missing] at looked
    cases looked
  rw [Select.verdict, if_neg notVirtual, resolved]
  rfl

/-- A SELECT without paging that succeeds lists the rows of the tables. -/
theorem execSelect_answers
    (roundTrips : json.RoundTrips)
    (halves : hexDecode.Halves)
    (sound : catalog.Sound)
    (keyed : catalog.Keyed)
    (serves : Serves json catalog store)
    (represents : Represents store rows)
    (depicts : Depicts catalog rows tables)
    {sessionKs : Option String}
    {binds : Binds}
    {sel : Select}
    (fits : Statement.Fits catalog hexDecode sessionKs binds (.select sel))
    (whereFits : ∀ relation ∈ sel.whereClause, relation.FitsFrame)
    (bindsFit : binds.FitFrame)
    {said : Verdict}
    (accepted : sel.verdict catalog hexDecode sessionKs binds = .ok said)
    {executed : Executed shards}
    (ran :
      ((execSelect json hexDecode sessionKs sel binds none none).run answer
        store).1 = .ok executed) :
    sel.AnswersFrom catalog hexDecode sessionKs binds tables executed.response := by
  intro keyspace table selected filters rest resolved columns parsed floatFree
  obtain ⟨middle, resolves, servesMiddle, kept⟩ :=
    resolveTable_run_serving roundTrips serves represents sessionKs sel.tableName
  obtain ⟨owner, rfl, _, exists_⟩ := Catalog.owner_of_resolve resolved
  rw [Select.verdict_of_resolved resolved] at accepted
  cases built : Projection.build table selected filters with
  | none =>
      have panics :
          sel.tableVerdict hexDecode binds owner.keyspace table =
            .error .panic := by
        simp only [Select.tableVerdict, columns, parsed, Bind.bind, Except.bind,
          built]
      cases panics.symm.trans accepted
  | some projection =>
      obtain ⟨rfl, _⟩ := Projection.resolves_of_build built
      have named := sound.named owner _ exists_
      have planned :
          PlannedSelect json hexDecode store sessionKs sel binds middle
            owner.keyspace selected filters rest projection :=
        ⟨resolves.trans (by rw [resolved]), columns, parsed, built⟩
      obtain ⟨items, final, ranToo, each, all⟩ :=
        planned.streams_selected named.symm halves whereFits bindsFit
          (sound.wellFormed owner _ exists_) (sound.columnsFit owner _ exists_)
          (keyed owner _ exists_) floatFree
          (fun keyParts => fits _ _ resolved filters rest keyParts parsed) kept
          (servesMiddle.holdsTable kept exists_ named)
      rw [ranToo] at ran
      cases ran
      refine ⟨_, _, by rw [named], fun output member => ?_, ?_⟩
      · obtain ⟨item, isItem, rfl⟩ := List.mem_map.mp member
        obtain ⟨row, isSelected, rfl⟩ := each item isItem
        obtain ⟨stored, accepts⟩ :=
          (depicts.mem_selects exists_).mpr ⟨row, isSelected, rfl, rfl⟩
        rw [← named] at stored
        exact ⟨_, _, stored, accepts, rfl⟩
      · intro fewer key values stored accepts
        rw [named] at stored
        obtain ⟨row, isSelected, rfl, rfl⟩ :=
          (depicts.mem_selects exists_).mp ⟨stored, accepts⟩
        rw [List.length_map] at fewer
        exact List.mem_map_of_mem (f := Prod.fst)
          (all (fun _ => fewer) row isSelected)

/--
What a client is answered that knows these tables: its request fails as its
command does, or succeeds with its verdict and, for a SELECT without paging,
with the rows of the tables.
-/
def Request.AnsweredFrom
    (catalog : Catalog)
    (hexDecode : HexDecode)
    (tables : Tables)
    (request : Request)
    (outcome : QueryOutcome (Executed shards)) :
    Prop :=
  match request.command catalog hexDecode with
  | .error fault =>
      outcome = .error fault
  | .ok _ =>
      ∃ executed said,
        outcome = .ok executed ∧
          request.verdict? catalog hexDecode = some (.ok said) ∧
          said.Describes executed.response ∧
          ∀ sel,
            request.statement = .select sel →
            request.pageSize = none →
            request.pagingState = none →
            sel.AnswersFrom catalog hexDecode request.sessionKs
              (.new request.values) tables executed.response

/-- A request is answered from the tables that the store shows. -/
theorem Request.answered
    (roundTrips : json.RoundTrips)
    (halves : hexDecode.Halves)
    (sound : catalog.Sound)
    (keyed : catalog.Keyed)
    (shows : Shows json catalog store tables)
    {request : Request}
    (acts : request.ActsOnTables catalog hexDecode) :
    request.AnsweredFrom catalog hexDecode tables
      ((request.program json hexDecode).run answer store).1 := by
  obtain ⟨serves, rows, represents, depicts⟩ := shows
  have carries :
      Carries catalog tables ((request.program json hexDecode).run answer store)
        (request.command catalog hexDecode) :=
    executeStatement_carries roundTrips halves sound keyed serves represents depicts
      acts.1.1 acts.1.2 acts.2 _ _
  obtain ⟨verdict, judged⟩ := Option.isSome_iff_exists.mp acts.1.1
  obtain ⟨_, returned, _⟩ :=
    Guarantees.run
      (executeStatement_serving roundTrips halves sound judged acts.1.2
        request.pageSize request.pagingState)
      serves
  unfold Request.AnsweredFrom
  cases isCommand : request.command catalog hexDecode with
  | error fault =>
      rw [isCommand] at carries
      exact carries.1
  | ok command =>
      rw [isCommand] at carries
      obtain ⟨executed, outcome, _⟩ := carries
      obtain ⟨said, rfl, describes⟩ := returned executed outcome
      refine ⟨executed, said, outcome, judged, describes, ?_⟩
      intro sel isSelect noPages noState
      obtain ⟨sessionKs, statement, values, pageSize, pagingState⟩ := request
      subst isSelect noPages noState
      exact execSelect_answers roundTrips halves sound keyed serves represents
        depicts acts.1.2 acts.2.1 acts.2.2 (Option.some.inj judged) outcome

/--
Requests that leave the catalog alone, each answered before the next one and
beside any steps of the pipeline threads, act on tables: the store that they
leave shows the tables after their commands, and from it every further request
is answered from these tables and can be settled.
-/
theorem requests_act_on_tables
    (roundTrips : json.RoundTrips)
    (halves : hexDecode.Halves)
    (sound : catalog.Sound)
    (keyed : catalog.Keyed)
    {final : Storage shards}
    (shows : Shows json catalog store tables)
    {steps : List (SettledRequest shards)}
    (run :
      Run (settledRequest? json hexDecode)
        (fun _ step => step.request.ActsOnTables catalog hexDecode) store steps
        final) :
    Shows json catalog final (tablesAfter catalog hexDecode tables steps) ∧
      ∀ request : Request,
        request.ActsOnTables catalog hexDecode →
        request.AnsweredFrom catalog hexDecode
            (tablesAfter catalog hexDecode tables steps)
            ((request.program json hexDecode).run answer final).1 ∧
          ∃ schedule next,
            settledRequest? json hexDecode final ⟨request, schedule⟩ =
              some next := by
  have showsAfter :
      Shows json catalog final (tablesAfter catalog hexDecode tables steps) := by
    induction run generalizing tables with
    | nil state =>
        exact shows
    | cons acts first _ inductionHypothesis =>
        exact inductionHypothesis
          (Request.shows_settled roundTrips halves sound keyed acts shows first)
  refine ⟨showsAfter, fun request acts => ⟨?_, ?_⟩⟩
  · exact request.answered roundTrips halves sound keyed showsAfter acts
  · exact Request.exists_settled roundTrips halves sound keyed acts showsAfter

end Answers

/-! ## Two requests -/

/-- The catalog of `kvTable` has keys. -/
theorem keyed_kvCatalog : kvCatalog.Keyed := by
  intro name table exists_
  by_cases same : name = kvTableName
  · subst same
    simp only [kvCatalog, Catalog.putTable, Function.update_self,
      Option.some.injEq] at exists_
    subst exists_
    decide
  · simp [kvCatalog, Catalog.putTable, Catalog.empty, same] at exists_

/-- The store of `kvTable` shows no rows. -/
theorem shows_kvServed :
    Shows serdeJson kvCatalog kvServed fun _ _ _ => none := by
  have fresh : Represents (Storage.fresh 1 false true) fun _ => none :=
    represents_fresh false true
  have recorded :=
    fresh.metadata 0
      (metadata_put (not_dtPrefix_prefix_tableKey "bench" "kv")
        (serdeJson.tableToVec kvTable))
  have cached :
      ¬ (StorageAction.tablesInsert ("bench", "kv") kvTable :
        StorageAction 1).TouchesRows :=
    id
  refine ⟨serves_kvServed, fun _ => none, recorded.untouched cached, ?_⟩
  intro name table exists_ key values
  constructor
  · intro found
    cases found
  · rintro ⟨row, ⟨_, _, _, _, found⟩, _⟩
    cases found

/-- After an INSERT of `(1, 'a')` a scan answers from the tables with this row. -/
theorem requests_act_on_tables_kv :
    ∃ schedule final,
      let steps : List (SettledRequest 1) :=
        [⟨plainRequest (kvInsert [.const "1", .const "'a'"]), schedule⟩]
      let tables := tablesAfter kvCatalog (fun _ => none) (fun _ _ _ => none) steps
      Run (settledRequest? serdeJson fun _ => none)
          (fun _ step => step.request.ActsOnTables kvCatalog fun _ => none) kvServed
          steps final ∧
        Shows serdeJson kvCatalog final tables ∧
        (plainRequest kvSelectAll).AnsweredFrom kvCatalog (fun _ => none) tables
          (((plainRequest kvSelectAll).program serdeJson fun _ => none).run answer
            final).1 := by
  have halves : HexDecode.Halves fun _ => none := by
    intro text bytes decoded
    cases decoded
  have acts :
      (plainRequest (kvInsert [.const "1", .const "'a'"])).ActsOnTables kvCatalog
        fun _ => none :=
    ⟨kvInsert_leavesCatalog, trivial⟩
  have selectActs :
      (plainRequest kvSelectAll).ActsOnTables kvCatalog fun _ => none := by
    refine ⟨kvSelectAll_leavesCatalog, ?_, ?_⟩
    · intro relation member
      cases member
    · simp [Binds.FitFrame, plainRequest, Binds.new]
  obtain ⟨schedule, final, taken⟩ :=
    Request.exists_settled serdeJson_roundTrips halves sound_kvCatalog
      keyed_kvCatalog acts shows_kvServed
  have run :
      Run (settledRequest? serdeJson fun _ => none)
        (fun _ step => step.request.ActsOnTables kvCatalog fun _ => none) kvServed
        [⟨plainRequest (kvInsert [.const "1", .const "'a'"]), schedule⟩] final :=
    .cons acts taken (.nil final)
  obtain ⟨shows, answered⟩ :=
    requests_act_on_tables serdeJson_roundTrips halves sound_kvCatalog
      keyed_kvCatalog shows_kvServed run
  exact ⟨schedule, final, run, shows, (answered _ selectActs).1⟩

end RhydaDB
