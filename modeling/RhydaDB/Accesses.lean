import RhydaDB.BindMetadata
import RhydaDB.Catalog

namespace RhydaDB

open ByteStrings AtomicPrograms Storage

/-!
# What a statement touches

Each access to the store concerns a catalog record, the rows under a prefix,
or the whole row cache.  A statement that can be prepared reads the catalog
record of its table and then touches rows of that table only.
-/

variable {shards : Nat}

namespace WriteOp

/-- The key, or the first key, an operation changes. -/
def key : WriteOp → Bytes
  | .put key _ =>
      key
  | .delete key =>
      key
  | .deleteRange start _ =>
      start

end WriteOp

namespace StorageAction

/-- The key, or the start of the keys, an access is about. -/
def key? : StorageAction shards → Option Bytes
  | .cacheGet key =>
      some key
  | .cacheInsert key _ =>
      some key
  | .cacheRemove key =>
      some key
  | .dbGet _ key =>
      some key
  | .dbWrite _ op =>
      some op.key
  | .dbScan _ leading =>
      some leading
  | .send _ op =>
      some op.key
  | _ =>
      none

/-- The access touches rows that are not under the prefix. -/
def Outside (leading : Bytes) (action : StorageAction shards) : Prop :=
  action = .cacheClear ∨
    ∃ key,
      action.key? = some key ∧
        dtPrefix <+: key ∧
        ¬ leading <+: key

/-- An access under the prefix is not outside it. -/
theorem not_outside_of_under
    {leading key : Bytes}
    {action : StorageAction shards}
    (about : action.key? = some key)
    (under : leading <+: key) :
    ¬ action.Outside leading := by
  rintro (rfl | ⟨other, isOther, _, away⟩)
  · cases about
  · rw [about, Option.some.injEq] at isOther
    subst isOther
    exact away under

/-- An access that is not about row keys is not outside any prefix. -/
theorem not_outside_of_catalog
    {leading : Bytes}
    {action : StorageAction shards}
    (notClear : action ≠ .cacheClear)
    (notRows : ∀ key, action.key? = some key → ¬ dtPrefix <+: key) :
    ¬ action.Outside leading := by
  rintro (isClear | ⟨key, about, isRow, _⟩)
  · exact notClear isClear
  · exact notRows key about isRow

end StorageAction

/-- A row's key starts with its table's prefix. -/
theorem dataPrefix_prefix_rowKey
    (keyspace table : String)
    (keyParts : List Bytes) :
    dataPrefix keyspace table <+: rowKey keyspace table keyParts :=
  List.prefix_append _ _

section Rows

variable
  [NeZero shards]
  (keyspace table : String)

/-- Looking a table up touches no rows. -/
theorem never_getTable_outside
    (json : CatalogJson)
    (leading : Bytes) :
    (getTable json keyspace table :
      StorageProgram shards Fault _).Never (·.Outside leading) := by
  refine ⟨StorageAction.not_outside_of_catalog (by simp) (by simp
    [StorageAction.key?]), fun cached => ?_⟩
  change Option TableDef at cached
  cases cached with
  | some definition =>
      trivial
  | none =>
      refine ⟨StorageAction.not_outside_of_catalog (by simp) ?_, fun found => ?_⟩
      · rintro key ⟨⟩
        exact not_dtPrefix_prefix_tableKey keyspace table
      · change Option Bytes at found
        cases found with
        | none =>
            trivial
        | some bytes =>
            apply (Program.never_ofExcept _).bind_all
            intro definition
            exact ⟨StorageAction.not_outside_of_catalog (by simp) (by simp
              [StorageAction.key?]), fun _ => trivial⟩

/-- Reading a row touches rows of its table. -/
theorem never_getRow_outside (keyParts : List Bytes) :
    (getRow keyspace table keyParts : StorageProgram shards Fault _).Never
      (·.Outside (dataPrefix keyspace table)) := by
  have under := dataPrefix_prefix_rowKey keyspace table keyParts
  have looked :
      (cachedRow keyspace (rowKey keyspace table keyParts) :
        StorageProgram shards Fault _).Never
          (·.Outside (dataPrefix keyspace table)) := by
    unfold cachedRow
    split
    · exact ⟨StorageAction.not_outside_of_under rfl under, fun _ => trivial⟩
    · trivial
  apply looked.bind_all
  intro cached
  cases cached with
  | some value =>
      trivial
  | none =>
      refine ⟨StorageAction.not_outside_of_under rfl under, fun found => ?_⟩
      change Option Bytes at found
      cases found with
      | none =>
          trivial
      | some value =>
          simp only [Program.bind, refillCache]
          split
          · exact ⟨StorageAction.not_outside_of_under rfl under,
              fun _ => trivial⟩
          · trivial

/-- Sending an operation on a row touches rows of its table. -/
theorem never_writeDataOp_outside
    {keyParts : List Bytes}
    {op : WriteOp}
    (about : op.key = rowKey keyspace table keyParts) :
    (writeDataOp keyspace table keyParts op :
      StorageProgram shards Fault _).Never
        (·.Outside (dataPrefix keyspace table)) := by
  refine ⟨StorageAction.not_outside_of_under rfl ?_, fun ticket => ?_⟩
  · rw [about]
    exact dataPrefix_prefix_rowKey keyspace table keyParts
  · change Option (WriteTicket shards) at ticket
    cases ticket <;> trivial

/-- Writing a row touches rows of its table. -/
theorem never_putRow_outside (keyParts : List Bytes) (value : Bytes) :
    (putRow keyspace table keyParts value : StorageProgram shards Fault _).Never
      (·.Outside (dataPrefix keyspace table)) := by
  have sent :
      (writeDataOp keyspace table keyParts
        (.put (rowKey keyspace table keyParts) value) :
          StorageProgram shards Fault _).Never
            (·.Outside (dataPrefix keyspace table)) :=
    never_writeDataOp_outside keyspace table rfl
  unfold putRow
  simp only
  split
  · exact ⟨StorageAction.not_outside_of_under rfl
      (dataPrefix_prefix_rowKey keyspace table keyParts), fun _ => sent⟩
  · exact sent

/-- Deleting a row touches rows of its table. -/
theorem never_deleteRow_outside (keyParts : List Bytes) :
    (deleteRow keyspace table keyParts : StorageProgram shards Fault _).Never
      (·.Outside (dataPrefix keyspace table)) := by
  have sent :
      (writeDataOp keyspace table keyParts
        (.delete (rowKey keyspace table keyParts)) :
          StorageProgram shards Fault _).Never
            (·.Outside (dataPrefix keyspace table)) :=
    never_writeDataOp_outside keyspace table rfl
  unfold deleteRow
  simp only
  split
  · exact ⟨StorageAction.not_outside_of_under rfl
      (dataPrefix_prefix_rowKey keyspace table keyParts), fun _ => sent⟩
  · exact sent

omit [NeZero shards] in
/-- Scanning under a prefix touches rows under it. -/
theorem never_forEachOnEngine_outside
    {σ : Type}
    {leading under : Bytes}
    (within : under <+: leading)
    (engine : Fin shards)
    (visit : σ → Bytes → Bytes → σ × Bool)
    (state : σ) :
    (forEachOnEngine engine leading visit state).Never (·.Outside under) :=
  ⟨StorageAction.not_outside_of_under rfl within, fun _ => trivial⟩

omit [NeZero shards] in
/-- Scanning a table touches rows of the table. -/
theorem never_forEachInTable_outside
    {σ : Type}
    (visit : σ → Bytes → Bytes → σ × Bool)
    (state : σ) :
    (forEachInTable keyspace table visit state :
      StorageProgram shards Fault σ).Never
        (·.Outside (dataPrefix keyspace table)) := by
  unfold forEachInTable
  induction List.finRange shards generalizing state with
  | nil =>
      trivial
  | cons engine rest inductionHypothesis =>
      apply (never_forEachOnEngine_outside List.prefix_rfl engine visit
        state).bind_all
      rintro ⟨next, goOn⟩
      cases goOn with
      | false =>
          trivial
      | true =>
          exact inductionHypothesis next

/-- Scanning partitions touches rows of their table. -/
theorem never_scanPartitions_outside
    (limit : Nat)
    (visit : ScanState → Bytes → Bytes → ScanState × Bool)
    (partitions : List (List Bytes))
    (state : ScanState) :
    (scanPartitions keyspace table limit visit partitions state :
      StorageProgram shards Fault ScanState).Never
        (·.Outside (dataPrefix keyspace table)) := by
  induction partitions generalizing state with
  | nil =>
      trivial
  | cons partition rest inductionHypothesis =>
      have scanned :
          (forEachInPartition keyspace table partition visit
            { state with done := false } :
              StorageProgram shards Fault ScanState).Never
                (·.Outside (dataPrefix keyspace table)) := by
        apply (never_forEachOnEngine_outside (List.prefix_append _ _) _ visit
          _).bind_all
        rintro ⟨next, _⟩
        trivial
      apply scanned.bind_all
      intro next
      split
      · trivial
      · exact inductionHypothesis next

end Rows

section Statements

variable
  [NeZero shards]
  (json : CatalogJson)
  (hexDecode : HexDecode)
  (sessionKs : Option String)

/-- Resolving a table touches no rows. -/
theorem never_resolveTable_outside (name : FQName) (leading : Bytes) :
    (resolveTable json sessionKs name :
      StorageProgram shards QueryFault _).Never (·.Outside leading) := by
  apply (Program.never_ofExcept _).bind_all
  intro keyspace
  apply ((never_getTable_outside keyspace (normId name.name) json
    leading).mapFailure internalErr).bind_all
  intro found
  cases found <;> trivial

/-- Looking for a virtual table touches no rows. -/
theorem never_missesVirtualTable_outside (name : FQName) (leading : Bytes) :
    (missesVirtualTable json sessionKs name :
      StorageProgram shards QueryFault _).Never (·.Outside leading) := by
  unfold missesVirtualTable
  split
  · apply ((never_getTable_outside _ (normId name.name) json
      leading).mapFailure internalErr).bind_all
    intro found
    trivial
  · trivial

/-- The rows of a SELECT are rows of its table. -/
theorem never_selectRows_outside
    (projection : Projection)
    (keyspace : String)
    (filters : List Filter)
    (pageSize limit : Option Int32)
    (pagingState : Option Bytes) :
    (selectRows projection keyspace filters pageSize limit pagingState :
      StorageProgram shards Fault _).Never
        (·.Outside (dataPrefix keyspace projection.table.name)) := by
  unfold selectRows
  split
  · rename_i keyParts _
    have looked :
        (selectPoint projection keyspace keyParts :
          StorageProgram shards Fault _).Never
            (·.Outside (dataPrefix keyspace projection.table.name)) := by
      apply (never_getRow_outside _ _ _).bind_all
      intro found
      cases found with
      | none =>
          trivial
      | some bytes =>
          apply (Program.never_ofExcept _).bind_all
          intro row
          cases row <;> trivial
    apply looked.bind_all
    intro found
    trivial
  · have scanned :
        (scanRowsMatching projection keyspace filters pagingState
          (pageLimit pageSize limit) : StorageProgram shards Fault _).Never
            (·.Outside (dataPrefix keyspace projection.table.name)) := by
      unfold scanRowsMatching
      simp only
      split
      · exact never_scanPartitions_outside _ _ _ _ _ _
      · exact never_forEachInTable_outside _ _ _ _
    apply scanned.bind_all
    intro state
    split <;> trivial

/-- A projection is built for its table. -/
theorem Projection.build_table
    {table : TableDef}
    {selected : List (String × ColumnType)}
    {filters : List Filter}
    {projection : Projection}
    (built : Projection.build table selected filters = some projection) :
    projection.table = table := by
  simp only [Projection.build, Option.bind_eq_bind, Option.bind_eq_some_iff,
    Option.pure_def, Option.some.injEq] at built
  obtain ⟨_, _, _, _, _, _, _, _, rfl⟩ := built
  rfl

/-- A SELECT from a table touches rows of the table. -/
theorem never_selectFrom_outside
    (keyspace : String)
    (table : TableDef)
    (sel : Select)
    (binds : Binds)
    (pageSize : Option Int32)
    (pagingState : Option Bytes) :
    (selectFrom hexDecode keyspace table sel binds pageSize pagingState :
      StorageProgram shards QueryFault _).Never
        (·.Outside (dataPrefix keyspace table.name)) := by
  apply (Program.never_ofExcept _).bind_all
  intro selected
  apply (Program.never_ofExcept _).bind_all
  rintro ⟨filters, binds⟩
  simp only
  split
  · trivial
  · rename_i projection built
    rw [← Projection.build_table built]
    apply ((never_selectRows_outside projection keyspace filters pageSize
      sel.limit pagingState).mapFailure internalErr).bind_all
    rintro ⟨rows, sources, next⟩
    trivial

variable
  {sessionKs : Option String}
  {name : FQName}
  {keyspace : String}
  {table : TableDef}
  {store next : Storage shards}

/--
A program that first resolves a table touches rows of that table only, if it
does so from there on.
-/
theorem not_outside_of_resolved
    {α : Type}
    {rest : String × TableDef → StorageProgram shards QueryFault α}
    (resolved :
      (resolveTable json sessionKs name).run answer store =
        (.ok (keyspace, table), next))
    (within :
      (rest (keyspace, table)).Never
        (·.Outside (dataPrefix keyspace table.name))) :
    ∀ action ∈ (resolveTable json sessionKs name >>= rest).trace answer store,
      ¬ action.Outside (dataPrefix keyspace table.name) := by
  rw [Program.trace_bind_of_ok answer resolved]
  intro action member
  rcases List.mem_append.mp member with before | after
  · exact (never_resolveTable_outside json sessionKs name _).not_mem_trace
      answer store action before
  · exact within.not_mem_trace answer next action after

/--
A statement that can be prepared touches only rows of the table its name
stands for when it starts.
-/
theorem executeStatement_not_outside
    {statement : Statement}
    {binds : Binds}
    {pageSize : Option Int32}
    {pagingState : Option Bytes}
    (named : statement.tableName = some name)
    (resolved :
      (resolveTable json sessionKs name).run answer store =
        (.ok (keyspace, table), next)) :
    ∀ action ∈
        (executeStatement json hexDecode sessionKs binds pageSize pagingState
          statement).trace answer store,
      ¬ action.Outside (dataPrefix keyspace table.name) := by
  cases statement with
  | insert ins =>
      cases named
      apply not_outside_of_resolved json resolved
      apply (Program.never_ofExcept _).bind_all
      intro _
      apply (Program.never_ofExcept _).bind_all
      rintro ⟨keyParts, cells, binds⟩
      apply ((never_putRow_outside _ _ _ _).mapFailure internalErr).bind_all
      intro ticket
      trivial
  | update upd =>
      cases named
      apply not_outside_of_resolved json resolved
      apply (Program.never_ofExcept _).bind_all
      intro _
      apply (Program.never_ofExcept _).bind_all
      rintro ⟨newValues, keyParts, binds⟩
      have merged :
          (updatedCells keyspace table newValues keyParts :
            StorageProgram shards QueryFault _).Never
              (·.Outside (dataPrefix keyspace table.name)) := by
        unfold updatedCells
        split
        · exact Program.never_ofExcept _
        · apply ((never_getRow_outside _ _ _).mapFailure internalErr).bind_all
          intro existing
          exact Program.never_ofExcept _
      apply merged.bind_all
      intro cells
      apply ((never_putRow_outside _ _ _ _).mapFailure internalErr).bind_all
      intro ticket
      trivial
  | delete del =>
      cases named
      apply not_outside_of_resolved json resolved
      apply (Program.never_ofExcept _).bind_all
      intro _
      apply (Program.never_ofExcept _).bind_all
      rintro ⟨keyParts, binds⟩
      apply ((never_deleteRow_outside _ _ _).mapFailure internalErr).bind_all
      intro ticket
      trivial
  | select sel =>
      cases named
      obtain ⟨middle, present, again⟩ := missesVirtualTable_run resolved
      simp only [executeStatement, execSelect]
      rw [Program.trace_bind_of_ok answer present]
      intro action member
      rcases List.mem_append.mp member with before | after
      · exact (never_missesVirtualTable_outside json sessionKs sel.tableName
          _).not_mem_trace answer store action before
      · exact not_outside_of_resolved json again
          (never_selectFrom_outside hexDecode keyspace table sel binds pageSize
            pagingState) action after
  | _ =>
      cases named

end Statements

end RhydaDB
