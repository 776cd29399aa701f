import RhydaDB.CatalogIntegrity
import RhydaDB.ExecuteStatement
import RhydaDB.StorageTexts

namespace RhydaDB

open ByteStrings AtomicPrograms Fallible Storage

/-!
# The errors of statements

A statement is executed or prepared against a store.  For each statement this
module states when its error can be reported, from what the store answers to
the statement's lookups and from the texts the statement's checks would quote.
-/

section Mirror

variable {shards : Nat} [NeZero shards] {json : CatalogJson}

/-- The mirror of a table fits: its own row, and the row of its first column. -/
structure MirrorFits
    (json : CatalogJson)
    (store : Storage shards)
    (table : TableDef) :
    Prop where
  tables :
    LookupFits (store.lookupTable json "system_schema" "tables")
  columns :
    ∀ definition row column rest role,
      store.lookupTable json "system_schema" "tables" = .ok (some definition) →
      mirroredTableCells.mapM (systemSchemaCell definition) = .ok row →
      table.columns = column :: rest →
      columnRole table column = .ok role →
      LookupFits (store.lookupTable json "system_schema" "columns")

/-- A column's role is wrong without a text. -/
theorem columnRole_internal (table : TableDef) (column : ColumnDef) :
    FailsWith Fault.Internal (columnRole table column) := by
  unfold columnRole
  split
  · split
    · exact .ok _
    · exact .error trivial
  · split
    · split
      · exact .ok _
      · exact .error trivial
    · exact .ok _

/-- Mirroring a column can be reported just if its table's record can. -/
theorem mirrorColumn_internal
    (store : Storage shards)
    (table : TableDef)
    (column : ColumnDef)
    (role : String × Int32 × String) :
    FailsWith Fault.Internal
        ((putSystemSchemaRow json "columns" [table.keyspace, table.name, column.name]
          (mirroredColumnCells column role.1 role.2.1 role.2.2)).run answer
            store).1 ↔
      LookupFits (store.lookupTable json "system_schema" "columns") := by
  refine putSystemSchemaRow_internal store "columns" _ (by decide) ?_
  intro name member
  simp only [mirroredColumnCells, List.map_cons, List.map_nil, List.mem_cons,
    List.not_mem_nil, or_false] at member
  rcases member with rfl | rfl | rfl | rfl | rfl <;> decide

/-- Mirroring columns can be reported if the record of their table can. -/
theorem mirrorColumns_internal
    (table : TableDef)
    (columns : List ColumnDef)
    {store : Storage shards}
    (fits : LookupFits (store.lookupTable json "system_schema" "columns")) :
    FailsWith Fault.Internal
      ((mirrorColumns json table columns).run answer store).1 := by
  induction columns generalizing store with
  | nil =>
      exact .ok ()
  | cons column rest inductionHypothesis =>
      rw [mirrorColumns, Program.failsWith_run_bind, Program.run_ofExcept]
      refine ⟨columnRole_internal table column, ?_⟩
      intro role middle ran
      obtain ⟨_, rfl⟩ := Prod.mk.inj ran
      refine Program.failsWith_run_bind.mpr
        ⟨(mirrorColumn_internal store table column role).mpr fits, ?_⟩
      intro _ next written
      have same := putSystemSchemaRow_sameTables _ _ _ written
      exact inductionHypothesis (same "system_schema" "columns" ▸ fits)

/-- Mirroring columns can be reported just if the first one can. -/
theorem mirrorColumns_reportable
    (store : Storage shards)
    (table : TableDef)
    (columns : List ColumnDef) :
    FailsWith Fault.Internal
        ((mirrorColumns json table columns).run answer store).1 ↔
      ∀ column rest role,
        columns = column :: rest →
        columnRole table column = .ok role →
        LookupFits (store.lookupTable json "system_schema" "columns") := by
  constructor
  · rintro fails column rest role rfl hasRole
    rw [mirrorColumns, Program.failsWith_run_bind, Program.run_ofExcept,
      hasRole] at fails
    exact (mirrorColumn_internal store table column role).mp
      (Program.failsWith_run_bind.mp (fails.2 role store rfl)).1
  · intro fits
    cases columns with
    | nil =>
        exact .ok ()
    | cons column rest =>
        cases hasRole : columnRole table column with
        | error fault =>
            rw [mirrorColumns, hasRole]
            have internal := columnRole_internal table column
            rw [hasRole] at internal
            exact .error (internal fault rfl)
        | ok role =>
            exact mirrorColumns_internal table (column :: rest)
              (fits column rest role rfl hasRole)

/-- Mirroring a table can be reported just if its mirror fits. -/
theorem mirrorTableMetadata_internal
    (store : Storage shards)
    (table : TableDef) :
    FailsWith Fault.Internal
        ((mirrorTableMetadata json table).run answer store).1 ↔
      MirrorFits json store table := by
  have own :
      FailsWith Fault.Internal
          ((putSystemSchemaRow json "tables" [table.keyspace, table.name]
            mirroredTableCells).run answer store).1 ↔
        LookupFits (store.lookupTable json "system_schema" "tables") :=
    putSystemSchemaRow_internal store "tables" [table.keyspace, table.name]
      (by decide) (by decide +kernel)
  rw [mirrorTableMetadata, Program.failsWith_run_bind, own]
  constructor
  · rintro ⟨tables, columns⟩
    refine ⟨tables, ?_⟩
    intro definition row column rest role found cells first hasRole
    obtain ⟨next, written⟩ :=
      (putSystemSchemaRow_succeeds store "tables" [table.keyspace, table.name]).mpr
        ⟨definition, row, found, cells⟩
    have same := putSystemSchemaRow_sameTables _ _ _ written
    rw [← same "system_schema" "columns"]
    exact (mirrorColumns_reportable next table table.columns).mp
      (columns () next written) column rest role first hasRole
  · rintro ⟨tables, columns⟩
    refine ⟨tables, fun _ next written => ?_⟩
    have same := putSystemSchemaRow_sameTables _ _ _ written
    obtain ⟨definition, row, found, cells⟩ :=
      (putSystemSchemaRow_succeeds store "tables" [table.keyspace, table.name]).mp
        ⟨next, written⟩
    refine (mirrorColumns_reportable next table table.columns).mpr ?_
    intro column rest role first hasRole
    rw [same "system_schema" "columns"]
    exact columns definition row column rest role found cells first hasRole

end Mirror

/-! ## Statements -/

section Statements

variable
  {shards : Nat} [NeZero shards]
  {json : CatalogJson}
  {hexDecode : HexDecode}

/-- A program of the query layer that fails with reportable errors only. -/
abbrev EndsReportably
    {α : Type}
    (program : StorageProgram shards QueryFault α) :
    Prop :=
  program.Ends (fun _ => True) QueryFault.Reportable

omit [NeZero shards] in
/-- Short faults of the store can be reported. -/
theorem endsReportably_internally
    {α : Type}
    {program : StorageProgram shards Fault α}
    (short : EndsShort program) :
    EndsReportably (internally program) :=
  short.mapFailure fun _ isShort => isShort.internalErr

omit [NeZero shards] in
/-- A computation before a program that can be reported. -/
theorem ofExcept_bind_reportable
    {α β : Type}
    {outcome : QueryOutcome α}
    {continuation : α → StorageProgram shards QueryFault β}
    {store : Storage shards}
    (later : ∀ value, EndsReportably (continuation value)) :
    FailsWith QueryFault.Reportable
        ((Program.ofExcept outcome >>= continuation).run answer store).1 ↔
      FailsWith QueryFault.Reportable outcome := by
  rw [Program.failsWith_run_bind, Program.run_ofExcept]
  exact and_iff_left fun value next _ => (later value).run answer next

omit [NeZero shards] in
/-- What follows a permission check is reached outside the system keyspaces. -/
theorem checkWritable_bind_reportable
    {α : Type}
    {keyspace : String}
    {continuation : Unit → StorageProgram shards QueryFault α}
    {store : Storage shards} :
    FailsWith QueryFault.Reportable
        ((Program.ofExcept (checkWritable keyspace) >>= continuation).run answer
          store).1 ↔
      (keyspace ∉ systemKeyspaces →
        FailsWith QueryFault.Reportable
          ((continuation ()).run answer store).1) := by
  rw [Program.failsWith_run_bind, Program.run_ofExcept,
    and_iff_right (checkWritable_reportable keyspace), checkWritable]
  split
  · rename_i isSystem
    simp [isSystem]
  · rename_i notSystem
    simp [notSystem, Unique.forall_iff]

/-- A keyspace that is looked up fits, and so does what is found. -/
def KeyspaceFits
    (json : CatalogJson)
    (store : Storage shards)
    (name : String)
    (fits : Option KeyspaceDef → Prop) :
    Prop :=
  LookupFits (store.lookupKeyspace json name) ∧
    ∀ found, store.lookupKeyspace json name = .ok found → fits found

/-- A table that is looked up fits, and so does what is found. -/
def NameFits
    (json : CatalogJson)
    (store : Storage shards)
    (sessionKs : Option String)
    (name : FQName)
    (fits : String → Option TableDef → Prop) :
    Prop :=
  ∀ keyspace,
    nameKeyspace sessionKs name = .ok keyspace →
    LookupFits (store.lookupTable json keyspace (normId name.name)) ∧
      ∀ found,
        store.lookupTable json keyspace (normId name.name) = .ok found →
        fits keyspace found

/-- A table that has to exist fits, and so does the statement at the table. -/
def TableFits
    (json : CatalogJson)
    (store : Storage shards)
    (sessionKs : Option String)
    (name : FQName)
    (fits : String → TableDef → Prop) :
    Prop :=
  NameFits json store sessionKs name fun keyspace found =>
    match found with
    | none =>
        Quotable 22 [keyspace, normId name.name]
    | some table =>
        fits keyspace table

omit [NeZero shards] in
/-- What follows a program of the store fits just if it does for each result. -/
theorem internally_bind_reportable
    {α β : Type}
    {store : Storage shards}
    {program : StorageProgram shards Fault α}
    {continuation : α → StorageProgram shards QueryFault β}
    {fits : α → Prop}
    (each :
      ∀ found next,
        program.run answer store = (.ok found, next) →
        (FailsWith QueryFault.Reportable
            ((continuation found).run answer next).1 ↔
          fits found)) :
    FailsWith QueryFault.Reportable
        ((internally program >>= continuation).run answer store).1 ↔
      FailsWith Fault.Internal (program.run answer store).1 ∧
        ∀ found, (program.run answer store).1 = .ok found → fits found := by
  rw [Program.failsWith_run_bind, internally_reportable]
  refine and_congr_right fun _ => ?_
  constructor
  · intro later found returned
    have ran :
        program.run answer store = (.ok found, (program.run answer store).2) :=
      Prod.ext returned rfl
    exact (each found _ ran).mp
      (later found _ ((Program.run_mapFailure_eq_ok answer).mpr ran))
  · intro later found next ran
    have returned := (Program.run_mapFailure_eq_ok answer).mp ran
    exact (each found next returned).mpr
      (later found (congrArg Prod.fst returned))

omit [NeZero shards] in
/-- A program of the store succeeds as it does by itself. -/
theorem internally_run
    {α : Type}
    {program : StorageProgram shards Fault α}
    {store next : Storage shards}
    {value : α}
    (ran : program.run answer store = (.ok value, next)) :
    (internally program).run answer store = (.ok value, next) :=
  (Program.run_mapFailure_eq_ok answer).mpr ran

omit [NeZero shards] in
/-- A program of the store whose result is only reported. -/
theorem internally_return_reportable
    {α β : Type}
    {store : Storage shards}
    {program : StorageProgram shards Fault α}
    {result : α → β} :
    FailsWith QueryFault.Reportable
        ((internally program >>= fun value => return result value).run answer
          store).1 ↔
      FailsWith Fault.Internal (program.run answer store).1 := by
  rw [Program.failsWith_run_bind, internally_reportable]
  exact and_iff_left fun value next _ => .ok _

/-- Looking a keyspace up can be reported just if it fits. -/
theorem getKeyspace_bind_reportable
    {α : Type}
    {store : Storage shards}
    {name : String}
    {continuation : Option KeyspaceDef → StorageProgram shards QueryFault α}
    {fits : Option KeyspaceDef → Prop}
    (each :
      ∀ found next,
        (getKeyspace json name).run answer store = (.ok found, next) →
        (FailsWith QueryFault.Reportable
            ((continuation found).run answer next).1 ↔
          fits found)) :
    FailsWith QueryFault.Reportable
        ((internally (getKeyspace json name) >>= continuation).run answer
          store).1 ↔
      KeyspaceFits json store name fits := by
  rw [internally_bind_reportable each, getKeyspace_run]
  rfl

/-- Looking a named table up can be reported just if it fits. -/
theorem getTable_bind_reportable
    {α : Type}
    {store : Storage shards}
    {sessionKs : Option String}
    {name : FQName}
    {continuation : String → Option TableDef → StorageProgram shards QueryFault α}
    {fits : String → Option TableDef → Prop}
    (each :
      ∀ keyspace found next,
        (getTable json keyspace (normId name.name)).run answer store =
            (.ok found, next) →
        (FailsWith QueryFault.Reportable
            ((continuation keyspace found).run answer next).1 ↔
          fits keyspace found)) :
    FailsWith QueryFault.Reportable
        ((Program.ofExcept (nameKeyspace sessionKs name) >>= fun keyspace =>
          internally (getTable json keyspace (normId name.name)) >>=
            continuation keyspace).run answer store).1 ↔
      NameFits json store sessionKs name fits := by
  rw [Program.failsWith_run_bind, Program.run_ofExcept,
    and_iff_right (nameKeyspace_reportable sessionKs name), NameFits]
  have looks :
      ∀ keyspace,
        FailsWith QueryFault.Reportable
            ((internally (getTable json keyspace (normId name.name)) >>=
              continuation keyspace).run answer store).1 ↔
          LookupFits (store.lookupTable json keyspace (normId name.name)) ∧
            ∀ found,
              store.lookupTable json keyspace (normId name.name) = .ok found →
              fits keyspace found := by
    intro keyspace
    rw [internally_bind_reportable (each keyspace), getTable_run]
    rfl
  constructor
  · intro each keyspace named
    exact (looks keyspace).mp (each keyspace store (Prod.ext named rfl))
  · intro each keyspace next named
    obtain ⟨isNamed, rfl⟩ := Prod.mk.inj named
    exact (looks keyspace).mpr (each keyspace isNamed)

/-- What follows a table's resolution can be reported just if the table fits. -/
theorem resolveTable_bind_reportable
    {α : Type}
    {store : Storage shards}
    {sessionKs : Option String}
    {name : FQName}
    {continuation : String × TableDef → StorageProgram shards QueryFault α}
    {fits : String → TableDef → Prop}
    (each :
      ∀ keyspace table next,
        FailsWith QueryFault.Reportable
            ((continuation (keyspace, table)).run answer next).1 ↔
          fits keyspace table) :
    FailsWith QueryFault.Reportable
        ((resolveTable json sessionKs name >>= continuation).run answer store).1 ↔
      TableFits json store sessionKs name fits := by
  simp only [resolveTable, Program.bind_assoc]
  refine getTable_bind_reportable fun keyspace found next _ => ?_
  cases found with
  | none =>
      exact failsWith_quoting (quoting_two_inside (by decide))
  | some table =>
      exact each keyspace table next

/-! ### Statements that write -/

/-- An INSERT can be reported just if it fits its table. -/
theorem execInsert_reportable
    {store : Storage shards}
    {sessionKs : Option String}
    {ins : Insert}
    {binds : Binds} :
    FailsWith QueryFault.Reportable
        ((execInsert json hexDecode sessionKs ins binds).run answer store).1 ↔
      TableFits json store sessionKs ins.tableName fun keyspace table =>
        keyspace ∉ systemKeyspaces → InsertFits hexDecode table ins binds := by
  refine resolveTable_bind_reportable fun keyspace table next => ?_
  refine checkWritable_bind_reportable.trans (imp_congr_right fun _ => ?_)
  refine Iff.trans (ofExcept_bind_reportable fun planned => ?_)
    (planInsert_reportable table ins binds)
  exact (endsReportably_internally (putRow_endsShort _ _ _ _)).bind
    fun _ _ => trivial

/-- A DELETE can be reported just if it fits its table. -/
theorem execDelete_reportable
    {store : Storage shards}
    {sessionKs : Option String}
    {del : Delete}
    {binds : Binds} :
    FailsWith QueryFault.Reportable
        ((execDelete json hexDecode sessionKs del binds).run answer store).1 ↔
      TableFits json store sessionKs del.tableName fun keyspace table =>
        keyspace ∉ systemKeyspaces →
        del.columns = [] →
        WhereFits hexDecode table del.whereClause binds := by
  refine resolveTable_bind_reportable fun keyspace table next => ?_
  refine checkWritable_bind_reportable.trans (imp_congr_right fun _ => ?_)
  refine Iff.trans (ofExcept_bind_reportable fun planned => ?_)
    (planDelete_reportable table del binds)
  exact (endsReportably_internally (deleteRow_endsShort _ _ _)).bind
    fun _ _ => trivial

/-- The cells of an UPDATE can be reported. -/
theorem updatedCells_endsReportably
    (keyspace : String)
    (table : TableDef)
    (values : List (Nat × Value))
    (keyParts : List Bytes) :
    EndsReportably
      (updatedCells keyspace table values keyParts :
        StorageProgram shards QueryFault (List (UInt16 × Value))) := by
  unfold updatedCells
  split
  · exact .ofExcept (coveredCells_reportable table values)
  · refine (endsReportably_internally (getRow_endsShort _ _ _)).bind
      fun existing _ => ?_
    exact .ofExcept (mergedCells_reportable table values existing)

/-- An UPDATE can be reported just if it fits its table. -/
theorem execUpdate_reportable
    {store : Storage shards}
    {sessionKs : Option String}
    {upd : Update}
    {binds : Binds} :
    FailsWith QueryFault.Reportable
        ((execUpdate json hexDecode sessionKs upd binds).run answer store).1 ↔
      TableFits json store sessionKs upd.tableName fun keyspace table =>
        keyspace ∉ systemKeyspaces → UpdateFits hexDecode table upd binds := by
  refine resolveTable_bind_reportable fun keyspace table next => ?_
  refine checkWritable_bind_reportable.trans (imp_congr_right fun _ => ?_)
  refine Iff.trans (ofExcept_bind_reportable fun planned => ?_)
    (planUpdate_reportable table upd binds)
  refine (updatedCells_endsReportably keyspace table _ _).bind fun cells _ => ?_
  exact (endsReportably_internally (putRow_endsShort _ _ _ _)).bind
    fun _ _ => trivial

/-- A TRUNCATE can be reported just if its table can. -/
theorem execTruncate_reportable
    {store : Storage shards}
    {sessionKs : Option String}
    {name : FQName}
    {binds : Binds} :
    FailsWith QueryFault.Reportable
        ((execTruncate json sessionKs name binds).run answer store).1 ↔
      TableFits json store sessionKs name fun _ _ => True := by
  refine resolveTable_bind_reportable fun keyspace table next => ?_
  refine checkWritable_bind_reportable.trans (iff_true_intro fun _ => ?_)
  have ends :
      EndsReportably (do
        let tickets ← internally (truncateTable keyspace (normId name.name))
        return (⟨.void, tickets, binds⟩ : Executed shards)) :=
    (endsReportably_internally (deleteDataPrefix_endsShort _)).bind
      fun _ _ => trivial
  exact ends.run answer next

/-! ### Statements that change the catalog or the session -/

/-- A USE that can be reported if it is rejected. -/
def UseFits
    (json : CatalogJson)
    (store : Storage shards)
    (identifier : Identifier) :
    Prop :=
  KeyspaceFits json store (normId identifier) fun found =>
    found = none → Quotable 26 [normId identifier]

/-- A USE can be reported just if it fits. -/
theorem execUse_reportable
    {store : Storage shards}
    {identifier : Identifier}
    {binds : Binds} :
    FailsWith QueryFault.Reportable
        ((execUse json identifier binds).run answer store).1 ↔
      UseFits json store identifier := by
  refine getKeyspace_bind_reportable fun found next _ => ?_
  cases found with
  | none =>
      exact (failsWith_quoting (quoting_inside (by decide))).trans
        (imp_iff_right rfl).symm
  | some keyspace =>
      exact iff_of_true (.ok _) (by simp)

/-- A CREATE KEYSPACE that can be reported if it is rejected. -/
def CreateKeyspaceFits
    (json : CatalogJson)
    (store : Storage shards)
    (create : CreateKeyspace) :
    Prop :=
  KeyspaceFits json store (normId create.name) fun found =>
    match found with
    | some _ =>
        create.ifNotExists = false →
          Quotable 16 [normId create.name, ""]
    | none =>
        normId create.name ∉ systemKeyspaces →
          LookupFits (store.lookupTable json "system_schema" "keyspaces")

variable (json) in
/-- Storing a keyspace changes no lookup of a table. -/
theorem putKeyspace_run (store : Storage shards) (keyspace : KeyspaceDef) :
    ∃ next,
      (putKeyspace json keyspace).run answer store = (.ok (), next) ∧
        store.SameTables json next := by
  refine ⟨_, rfl, fun otherKeyspace table => lookupTable_congr rfl ?_⟩
  have different := keyspaceKey_ne_tableKey keyspace.name otherKeyspace table
  simp [answer, Pipeline.directWrite, applyOp, different]

/-- A lookup of a keyspace changes no lookup of a table. -/
theorem getKeyspace_sameTables (store : Storage shards) (name : String) :
    store.SameTables json ((getKeyspace json name).run answer store).2 := by
  intro keyspace table
  unfold getKeyspace
  cases cached : store.keyspaces name with
  | some definition =>
      simp [atomically, answer, cached]
  | none =>
      cases found : (store.engines 0).db[keyspaceKey name]? with
      | none =>
          simp [atomically, RhydaDB.get, answer, cached, found]
      | some bytes =>
          cases decoded : json.keyspaceFromSlice bytes <;>
            simp [atomically, RhydaDB.get, answer, cached, found,
              Program.run_bind, decoded, lookupTable]

/-- A CREATE KEYSPACE can be reported just if it fits. -/
theorem execCreateKeyspace_reportable
    {store : Storage shards}
    {create : CreateKeyspace}
    {binds : Binds} :
    FailsWith QueryFault.Reportable
        ((execCreateKeyspace json create binds).run answer store).1 ↔
      CreateKeyspaceFits json store create := by
  refine getKeyspace_bind_reportable fun existing next looked => ?_
  have found : store.SameTables json _ :=
    getKeyspace_sameTables store (normId create.name)
  rw [looked] at found
  cases existing with
  | some keyspace =>
      simp only
      cases create.ifNotExists with
      | true =>
          exact iff_of_true (.ok _) (by simp)
      | false =>
          exact (failsWith_quoting (quoting_two_first (by decide))).trans
            (imp_iff_right rfl).symm
  | none =>
      simp only
      split
      · rename_i isSystem
        refine iff_of_true (.error ?_) fun notSystem => absurd isSystem notSystem
        simp only [systemKeyspaces, List.mem_cons, List.not_mem_nil, or_false]
          at isSystem
        rcases isSystem with isName | isName | isName <;>
          rw [isName] <;> decide
      · rename_i notSystem
        rw [imp_iff_right notSystem]
        obtain ⟨stored, ran, same⟩ :=
          putKeyspace_run json next
            ⟨normId create.name, create.replication⟩
        rw [Program.run_bind_of_ok answer (internally_run ran),
          internally_return_reportable]
        refine (putSystemSchemaRow_internal stored "keyspaces" _
          (by decide) ?_).trans ?_
        · intro name member
          simp only [mirroredKeyspaceCells, List.map_cons, List.map_nil,
            List.mem_cons, List.not_mem_nil, or_false] at member
          rcases member with rfl | rfl <;> decide
        · rw [same, found "system_schema" "keyspaces"]

/-- A CREATE TABLE that can be reported if it is rejected. -/
def CreateTableFits
    (json : CatalogJson)
    (store : Storage shards)
    (sessionKs : Option String)
    (create : CreateTable) :
    Prop :=
  NameFits json store sessionKs create.name fun keyspace found =>
    match found with
    | some _ =>
        create.ifNotExists = false →
          Quotable 16 [keyspace, normId create.name.name]
    | none =>
        ∀ definition,
          planCreateTable keyspace (normId create.name.name) create =
              .ok definition →
          MirrorFits json store definition

variable (json) in
/-- Storing a table changes no lookup in another keyspace. -/
theorem putTable_run
    (store : Storage shards)
    (table : TableDef) :
    ∃ next,
      (putTable json table).run answer store = (.ok (), next) ∧
        ∀ name : TableName,
          table.keyspace ≠ name.keyspace →
          next.lookupTable json name.keyspace name.table =
            store.lookupTable json name.keyspace name.table := by
  refine ⟨_, rfl, fun name elsewhere => lookupTable_congr ?_ ?_⟩
  · have different :
        (name.keyspace, name.table) ≠ (table.keyspace, table.name) := by
      intro same
      exact elsewhere (Prod.mk.inj same).1.symm
    simp [answer, different, Storage.setEngine]
  · have different :
        tableKey table.keyspace table.name ≠ tableKey name.keyspace name.table := by
      intro same
      obtain ⟨keyspaceFree, tableFree⟩ :=
        @bangFree_of_tableKey_eq_recordKey _ _ name same
      have names :=
        TableName.recordKey_inj.mp
          (show TableName.recordKey
              ⟨table.keyspace, table.name, keyspaceFree, tableFree⟩ =
            name.recordKey from same)
      exact elsewhere (congrArg TableName.keyspace names)
    simp [answer, Pipeline.directWrite, applyOp, different]

/-- The fit of a mirror depends on two lookups. -/
theorem mirrorFits_congr
    {store next : Storage shards}
    {table : TableDef}
    (tables :
      next.lookupTable json "system_schema" "tables" =
        store.lookupTable json "system_schema" "tables")
    (columns :
      next.lookupTable json "system_schema" "columns" =
        store.lookupTable json "system_schema" "columns") :
    MirrorFits json next table ↔ MirrorFits json store table := by
  constructor
  · rintro ⟨tablesFit, columnsFit⟩
    rw [tables] at tablesFit
    rw [tables, columns] at columnsFit
    exact ⟨tablesFit, columnsFit⟩
  · rintro ⟨tablesFit, columnsFit⟩
    rw [← tables] at tablesFit
    rw [← tables, ← columns] at columnsFit
    exact ⟨tablesFit, columnsFit⟩

/-- A CREATE TABLE can be reported just if it fits. -/
theorem execCreateTable_reportable
    {store : Storage shards}
    {sessionKs : Option String}
    {create : CreateTable}
    {binds : Binds} :
    FailsWith QueryFault.Reportable
        ((execCreateTable json sessionKs create binds).run answer store).1 ↔
      CreateTableFits json store sessionKs create := by
  refine getTable_bind_reportable fun keyspace existing next looked => ?_
  have found : store.SameTables json _ :=
    getTable_sameTables store keyspace (normId create.name.name)
  rw [looked] at found
  cases existing with
  | some table =>
      simp only
      cases create.ifNotExists with
      | true =>
          exact iff_of_true (.ok _) (by simp)
      | false =>
          exact (failsWith_quoting (quoting_two_first (by decide))).trans
            (imp_iff_right rfl).symm
  | none =>
      simp only
      rw [Program.failsWith_run_bind, Program.run_ofExcept,
        and_iff_right (planCreateTable_reportable _ _ _)]
      have mirrors :
          ∀ definition,
            planCreateTable keyspace (normId create.name.name) create =
                .ok definition →
            (FailsWith QueryFault.Reportable
                ((internally (putTable json definition) >>= fun _ =>
                  internally (mirrorTableMetadata json definition) >>= fun _ =>
                    return (⟨.schemaChange "CREATED" "TABLE" keyspace
                      (normId create.name.name), [], binds⟩ :
                        Executed shards)).run answer next).1 ↔
              MirrorFits json store definition) := by
        intro definition planned
        obtain ⟨isUser, built, _⟩ := planCreateTable_eq_ok planned
        obtain ⟨stored, ran, kept⟩ := putTable_run json next definition
        have elsewhere : definition.keyspace ≠ "system_schema" := by
          rw [(buildTableDef_names built).1]
          rintro rfl
          exact isUser (by decide)
        rw [Program.run_bind_of_ok answer (internally_run ran),
          internally_return_reportable, mirrorTableMetadata_internal]
        refine mirrorFits_congr ?_ ?_
        · have same := kept ⟨"system_schema", "tables", by decide, by decide⟩
            elsewhere
          exact same.trans (found "system_schema" "tables")
        · have same := kept ⟨"system_schema", "columns", by decide, by decide⟩
            elsewhere
          exact same.trans (found "system_schema" "columns")
      constructor
      · intro each definition planned
        exact (mirrors definition planned).mp
          (each definition next (Prod.ext planned rfl))
      · intro each definition _ planned
        obtain ⟨isPlanned, rfl⟩ := Prod.mk.inj planned
        exact (mirrors definition isPlanned).mpr (each definition isPlanned)

/-- A DROP TABLE that can be reported if it is rejected. -/
def DropTableFits
    (json : CatalogJson)
    (store : Storage shards)
    (sessionKs : Option String)
    (drop : CommonDrop) :
    Prop :=
  NameFits json store sessionKs drop.name fun keyspace found =>
    found = none →
    drop.ifExists = false →
    Quotable 34 [keyspace, normId drop.name.name]

/-- A DROP TABLE can be reported just if it fits. -/
theorem execDropTable_reportable
    {store : Storage shards}
    {sessionKs : Option String}
    {drop : CommonDrop}
    {binds : Binds} :
    FailsWith QueryFault.Reportable
        ((execDropTable json sessionKs drop binds).run answer store).1 ↔
      DropTableFits json store sessionKs drop := by
  refine getTable_bind_reportable fun keyspace existing next _ => ?_
  cases existing with
  | none =>
      rw [imp_iff_right rfl]
      simp only
      cases drop.ifExists with
      | true =>
          exact iff_of_true (.ok _) (by simp)
      | false =>
          exact (failsWith_quoting (quoting_two_inside (by decide))).trans
            (imp_iff_right rfl).symm
  | some table =>
      refine iff_of_true (checkWritable_bind_reportable.mpr fun _ => ?_)
        (by simp)
      have ends :
          EndsReportably (do
            let tickets ← internally (deleteTable keyspace (normId drop.name.name))
            internally (unmirrorTableMetadata keyspace (normId drop.name.name))
            return (⟨.schemaChange "DROPPED" "TABLE" keyspace
              (normId drop.name.name), tickets, binds⟩ : Executed shards)) := by
        refine (endsReportably_internally (deleteTable_endsShort _ _)).bind
          fun tickets _ => ?_
        exact (endsReportably_internally (unmirrorTableMetadata_endsShort _ _)).bind
          fun _ _ => trivial
      exact ends.run answer next

/-- A DROP KEYSPACE that can be reported if it is rejected. -/
def DropKeyspaceFits
    (json : CatalogJson)
    (store : Storage shards)
    (drop : CommonDrop) :
    Prop :=
  KeyspaceFits json store (normId drop.name.name) fun found =>
    found = none →
    drop.ifExists = false →
    Quotable 36 [normId drop.name.name]

/-- A DROP KEYSPACE can be reported just if it fits. -/
theorem execDropKeyspace_reportable
    {store : Storage shards}
    {drop : CommonDrop}
    {binds : Binds} :
    FailsWith QueryFault.Reportable
        ((execDropKeyspace json drop binds).run answer store).1 ↔
      DropKeyspaceFits json store drop := by
  refine getKeyspace_bind_reportable fun existing next _ => ?_
  cases existing with
  | none =>
      rw [imp_iff_right rfl]
      simp only
      cases drop.ifExists with
      | true =>
          exact iff_of_true (.ok _) (by simp)
      | false =>
          exact (failsWith_quoting (quoting_inside (by decide))).trans
            (imp_iff_right rfl).symm
  | some keyspace =>
      refine iff_of_true (checkWritable_bind_reportable.mpr fun _ => ?_)
        (by simp)
      have ends :
          EndsReportably (do
            let tickets ← internally (deleteKeyspace (normId drop.name.name))
            internally (deleteSystemSchemaPartitions
              [utf8 (normId drop.name.name)] ["keyspaces", "tables", "columns"])
            return (⟨.schemaChange "DROPPED" "KEYSPACE" (normId drop.name.name) "",
              tickets, binds⟩ : Executed shards)) := by
        refine (endsReportably_internally (deleteKeyspace_endsShort _)).bind
          fun tickets _ => ?_
        exact (endsReportably_internally
          (deleteSystemSchemaPartitions_endsShort _ _)).bind fun _ _ => trivial
      exact ends.run answer next

/-! ### Statements that read -/

/-- A SELECT that can be reported if it is rejected at its table. -/
def SelectFits
    (hexDecode : HexDecode)
    (table : TableDef)
    (sel : Select)
    (binds : Binds) :
    Prop :=
  SelectListFits table sel.columns ∧
    ((∃ selected, selectColumns table sel.columns = .ok selected) →
      RelationsFit hexDecode table sel.whereClause binds)

/-- The rows of a SELECT can be read and reported just if its filters fit. -/
theorem filteredRows_reportable
    {store : Storage shards}
    {keyspace : String}
    {table : TableDef}
    {sel : Select}
    {binds : Binds}
    {pageSize : Option Int32}
    {pagingState : Option Bytes}
    (selected : List (String × ColumnType)) :
    FailsWith QueryFault.Reportable
        ((Program.ofExcept (parseFilters hexDecode table sel.whereClause binds) >>=
          fun (filters, binds) =>
            match Projection.build table selected filters with
            | none =>
                .fail .panic
            | some projection => do
                let (rows, sources, next) ←
                  internally (selectRows projection keyspace filters pageSize
                    sel.limit pagingState)
                return (⟨.rows keyspace table.name selected rows sources next,
                  [], binds⟩ : Executed shards)).run answer store).1 ↔
      RelationsFit hexDecode table sel.whereClause binds := by
  refine Iff.trans (ofExcept_bind_reportable fun planned => ?_)
    (parseFilters_reportable table sel.whereClause binds)
  obtain ⟨filters, later⟩ := planned
  simp only
  split
  · trivial
  · exact (endsReportably_internally
      (selectRows_endsShort _ _ _ _ _ _)).bind fun _ _ => trivial

/-- A SELECT from a table can be reported just if it fits the table. -/
theorem selectFrom_reportable
    {store : Storage shards}
    {keyspace : String}
    {table : TableDef}
    {sel : Select}
    {binds : Binds}
    {pageSize : Option Int32}
    {pagingState : Option Bytes} :
    FailsWith QueryFault.Reportable
        ((selectFrom hexDecode keyspace table sel binds pageSize pagingState).run
          answer store).1 ↔
      SelectFits hexDecode table sel binds := by
  unfold selectFrom SelectFits
  rw [Program.failsWith_run_bind, Program.run_ofExcept, selectColumns_reportable]
  refine and_congr_right fun _ => ?_
  constructor
  · rintro each ⟨selected, accepted⟩
    exact (filteredRows_reportable selected).mp
      (each selected store (Prod.ext accepted rfl))
  · intro each selected next accepted
    obtain ⟨isSelected, rfl⟩ := Prod.mk.inj accepted
    exact (filteredRows_reportable selected).mpr (each ⟨selected, isSelected⟩)

/-- A SELECT that can be reported if it is rejected. -/
def ReadFits
    (json : CatalogJson)
    (hexDecode : HexDecode)
    (store : Storage shards)
    (sessionKs : Option String)
    (sel : Select)
    (binds : Binds) :
    Prop :=
  NameFits json store sessionKs sel.tableName fun keyspace found =>
    match found with
    | none =>
        -- a missing virtual table is answered without rows
        keyspace ≠ "system_virtual_schema" →
          Quotable 22 [keyspace, normId sel.tableName.name]
    | some table =>
        SelectFits hexDecode table sel binds

/-- A SELECT can be reported just if it fits. -/
theorem execSelect_reportable
    {store : Storage shards}
    {sessionKs : Option String}
    {sel : Select}
    {binds : Binds}
    {pageSize : Option Int32}
    {pagingState : Option Bytes} :
    FailsWith QueryFault.Reportable
        ((execSelect json hexDecode sessionKs sel binds pageSize pagingState).run
          answer store).1 ↔
      ReadFits json hexDecode store sessionKs sel binds := by
  have atTable :
      ∀ current : Storage shards,
        FailsWith QueryFault.Reportable
            ((resolveTable json sessionKs sel.tableName >>= fun named =>
              selectFrom hexDecode named.1 named.2 sel binds pageSize
                pagingState).run answer current).1 ↔
          TableFits json current sessionKs sel.tableName fun _ table =>
            SelectFits hexDecode table sel binds :=
    fun current => resolveTable_bind_reportable fun _ _ _ => selectFrom_reportable
  by_cases isVirtual :
      (nameKeyspace sessionKs sel.tableName).toOption =
        some "system_virtual_schema"
  · have named :
        nameKeyspace sessionKs sel.tableName = .ok "system_virtual_schema" := by
      cases named : nameKeyspace sessionKs sel.tableName with
      | error fault =>
          rw [named] at isVirtual
          cases isVirtual
      | ok keyspace =>
          rw [named] at isVirtual
          cases isVirtual
          rfl
    have each :
        ∀ (found : Option TableDef) (next : Storage shards),
          (getTable json "system_virtual_schema"
              (normId sel.tableName.name)).run answer store =
            (.ok found, next) →
          (FailsWith QueryFault.Reportable
              ((if found.isNone then
                return (⟨.rows "system_virtual_schema"
                  (normId sel.tableName.name) [] [] [] none, [], binds⟩ :
                    Executed shards)
              else
                resolveTable json sessionKs sel.tableName >>= fun named =>
                  selectFrom hexDecode named.1 named.2 sel binds pageSize
                    pagingState).run answer next).1 ↔
            ∀ table, found = some table → SelectFits hexDecode table sel binds) := by
      intro found next ran
      cases found with
      | none =>
          exact iff_of_true (.ok _) (by simp)
      | some table =>
          have same : store.SameTables json _ :=
            getTable_sameTables store "system_virtual_schema"
              (normId sel.tableName.name)
          rw [ran] at same
          have found := congrArg Prod.fst ran
          rw [getTable_run] at found
          refine (atTable next).trans ?_
          simp only [TableFits, NameFits, named, Except.ok.injEq, forall_eq']
          rw [same, found]
          simp only [Except.ok.injEq, Option.some.injEq, forall_eq']
          exact and_iff_right (.ok _)
    have whole := internally_bind_reportable each
    rw [getTable_run] at whole
    have performed :
        execSelect json hexDecode sessionKs sel binds pageSize pagingState =
          (internally (getTable json "system_virtual_schema"
              (normId sel.tableName.name)) >>= fun found =>
            if found.isNone then
              return (⟨.rows "system_virtual_schema"
                (normId sel.tableName.name) [] [] [] none, [], binds⟩ :
                  Executed shards)
            else
              resolveTable json sessionKs sel.tableName >>= fun named =>
                selectFrom hexDecode named.1 named.2 sel binds pageSize
                  pagingState) := by
      rw [execSelect, missesVirtualTable, if_pos isVirtual, Program.bind_assoc]
      rfl
    rw [performed, whole]
    simp only [ReadFits, NameFits, named, Except.ok.injEq, forall_eq']
    refine and_congr_right fun _ => forall₂_congr fun found _ => ?_
    cases found with
    | none =>
        simp
    | some table =>
        simp
  · have skipped :
        execSelect json hexDecode sessionKs sel binds pageSize pagingState =
          (resolveTable json sessionKs sel.tableName >>= fun named =>
            selectFrom hexDecode named.1 named.2 sel binds pageSize pagingState :
              StorageProgram shards QueryFault (Executed shards)) := by
      rw [execSelect, missesVirtualTable, if_neg isVirtual]
      rfl
    rw [skipped, atTable store]
    unfold TableFits ReadFits NameFits
    refine forall₂_congr fun keyspace named => and_congr_right fun _ =>
      forall₂_congr fun found _ => ?_
    cases found with
    | some table =>
        rfl
    | none =>
        refine (imp_iff_right ?_).symm
        rintro rfl
        rw [named] at isVirtual
        exact isVirtual rfl

/-! ### All statements -/

/-- A statement that can be reported if its execution fails. -/
def StatementFits
    (json : CatalogJson)
    (hexDecode : HexDecode)
    (store : Storage shards)
    (sessionKs : Option String)
    (binds : Binds) :
    Statement → Prop
  | .use keyspace =>
      UseFits json store keyspace
  | .createKeyspace create =>
      CreateKeyspaceFits json store create
  | .createTable create =>
      CreateTableFits json store sessionKs create
  | .insert ins =>
      TableFits json store sessionKs ins.tableName fun keyspace table =>
        keyspace ∉ systemKeyspaces → InsertFits hexDecode table ins binds
  | .select sel =>
      ReadFits json hexDecode store sessionKs sel binds
  | .delete del =>
      TableFits json store sessionKs del.tableName fun keyspace table =>
        keyspace ∉ systemKeyspaces →
        del.columns = [] →
        WhereFits hexDecode table del.whereClause binds
  | .update upd =>
      TableFits json store sessionKs upd.tableName fun keyspace table =>
        keyspace ∉ systemKeyspaces → UpdateFits hexDecode table upd binds
  | .truncate name =>
      TableFits json store sessionKs name fun _ _ => True
  | .dropTable drop =>
      DropTableFits json store sessionKs drop
  | .dropKeyspace drop =>
      DropKeyspaceFits json store drop
  | .other shortName =>
      Quotable 25 [shortName]

/-- An execution can be reported just if the statement fits. -/
theorem executeStatement_reportable
    (store : Storage shards)
    (sessionKs : Option String)
    (binds : Binds)
    (pageSize : Option Int32)
    (pagingState : Option Bytes)
    (statement : Statement) :
    FailsWith QueryFault.Reportable
        ((executeStatement json hexDecode sessionKs binds pageSize pagingState
          statement).run answer store).1 ↔
      StatementFits json hexDecode store sessionKs binds statement := by
  cases statement with
  | use keyspace =>
      exact execUse_reportable
  | createKeyspace create =>
      exact execCreateKeyspace_reportable
  | createTable create =>
      exact execCreateTable_reportable
  | insert ins =>
      exact execInsert_reportable
  | select sel =>
      exact execSelect_reportable
  | delete del =>
      exact execDelete_reportable
  | update upd =>
      exact execUpdate_reportable
  | truncate name =>
      exact execTruncate_reportable
  | dropTable drop =>
      exact execDropTable_reportable
  | dropKeyspace drop =>
      exact execDropKeyspace_reportable
  | other shortName =>
      exact failsWith_quoting (quoting_last (by decide))

/-- The assigned columns fit in turn. -/
def AssignedColumnsFit
    (table : TableDef)
    (assignments : List AssignmentElement) :
    Prop :=
  InTurn
    (fun _ assignment _ => ∃ spec, columnSpec table assignment.column = .ok spec)
    (fun _ assignment => ColumnFits table assignment.column) assignments ()

/-- A statement that can be reported if its preparation fails. -/
def PreparationFits
    (json : CatalogJson)
    (shortNames : Statement → String)
    (store : Storage shards)
    (sessionKs : Option String) :
    Statement → Prop
  | .insert ins =>
      TableFits json store sessionKs ins.tableName fun _ table =>
        AnnouncedColumnsFit table ins.columns
  | .update upd =>
      TableFits json store sessionKs upd.tableName fun _ table =>
        AssignedColumnsFit table upd.assignments ∧
          ((∃ specs,
              (upd.assignments.mapM fun assignment =>
                columnSpec table assignment.column) = .ok specs) →
            AnnouncedFit table upd.whereClause)
  | .select sel =>
      TableFits json store sessionKs sel.tableName fun _ table =>
        AnnouncedFit table sel.whereClause ∧
          ((∃ specs, collectWhereBinds table sel.whereClause = .ok specs) →
            SelectListFits table sel.columns)
  | .delete del =>
      TableFits json store sessionKs del.tableName fun _ table =>
        AnnouncedFit table del.whereClause
  | .other shortName =>
      Quotable 30 [shortName]
  | statement =>
      Quotable 30 [shortNames statement]

omit [NeZero shards] in
/-- Two computations before a result fail as they do, one after the other. -/
theorem ofExcept_pair_reportable
    {α β γ : Type}
    {first : QueryOutcome α}
    {second : QueryOutcome β}
    {result : α → β → γ}
    {store : Storage shards} :
    FailsWith QueryFault.Reportable
        ((Program.ofExcept first >>= fun before =>
          Program.ofExcept second >>= fun after =>
            (return result before after :
              StorageProgram shards QueryFault γ)).run answer store).1 ↔
      FailsWith QueryFault.Reportable first ∧
        ((∃ value, first = .ok value) →
          FailsWith QueryFault.Reportable second) := by
  rw [Program.failsWith_run_bind, Program.run_ofExcept]
  refine and_congr_right fun _ => ?_
  have later :
      ∀ value,
        FailsWith QueryFault.Reportable
            ((Program.ofExcept second >>= fun after =>
              (return result value after :
                StorageProgram shards QueryFault γ)).run answer store).1 ↔
          FailsWith QueryFault.Reportable second :=
    fun value => ofExcept_bind_reportable fun _ => trivial
  constructor
  · rintro each ⟨value, accepted⟩
    exact (later value).mp (each value store (Prod.ext accepted rfl))
  · intro each value next accepted
    obtain ⟨isAccepted, rfl⟩ := Prod.mk.inj accepted
    exact (later value).mpr (each ⟨value, isAccepted⟩)

/-- A preparation can be reported just if the statement fits. -/
theorem preparedInfo_reportable
    (shortNames : Statement → String)
    (store : Storage shards)
    (sessionKs : Option String)
    (statement : Statement) :
    FailsWith QueryFault.Reportable
        ((preparedInfo json shortNames sessionKs statement).run answer store).1 ↔
      PreparationFits json shortNames store sessionKs statement := by
  cases statement with
  | insert ins =>
      refine resolveTable_bind_reportable fun keyspace table next => ?_
      exact Iff.trans (ofExcept_bind_reportable fun _ => trivial)
        (columnSpecs_reportable table ins.columns)
  | update upd =>
      refine resolveTable_bind_reportable fun keyspace table next => ?_
      refine ofExcept_pair_reportable.trans (and_congr ?_ (imp_congr_right ?_))
      · exact FailsWith.mapM_iff fun assignment =>
          columnSpec_reportable table assignment.column
      · exact fun _ => collectWhereBinds_reportable table upd.whereClause
  | select sel =>
      refine resolveTable_bind_reportable fun keyspace table next => ?_
      refine ofExcept_pair_reportable.trans (and_congr ?_ (imp_congr_right ?_))
      · exact collectWhereBinds_reportable table sel.whereClause
      · exact fun _ => selectColumns_reportable table sel.columns
  | delete del =>
      refine resolveTable_bind_reportable fun keyspace table next => ?_
      exact Iff.trans (ofExcept_bind_reportable fun _ => trivial)
        (collectWhereBinds_reportable table del.whereClause)
  | other shortName =>
      exact failsWith_quoting (quoting_last (by decide))
  | _ =>
      exact failsWith_quoting (quoting_last (by decide))

end Statements

end RhydaDB
