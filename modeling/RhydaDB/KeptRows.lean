import RhydaDB.StatementVerdicts
import RhydaDB.StorageContract

namespace RhydaDB

open ByteStrings AtomicPrograms Program Storage

/-!
# Programs that keep the rows

Looking names up, scanning and reading rows leave the rows of a quiet store as
they are.  A row that is read may be cached; it is cached with the value it has.
-/

variable
  {shards : Nat} [NeZero shards]
  {Failure α β : Type}
  {rows : RowMap}

/-- An access that may change the rows or what is cached of them. -/
def StorageAction.TouchesRows {shards : Nat} : StorageAction shards → Prop
  | .cacheInsert _ _ =>
      True
  | .cacheRemove _ =>
      True
  | .cacheClear =>
      True
  | .dbWrite _ _ =>
      True
  | .send _ _ =>
      True
  | _ =>
      False

/-- Any other access leaves a quiet store with its rows. -/
theorem Represents.untouched
    {store : Storage shards}
    (represents : Represents store rows)
    {action : StorageAction shards}
    (untouched : ¬ action.TouchesRows) :
    Represents (store.answer action).1 rows := by
  cases action with
  | cacheInsert key value =>
      exact (untouched trivial).elim
  | cacheRemove key =>
      exact (untouched trivial).elim
  | cacheClear =>
      exact (untouched trivial).elim
  | dbWrite engine op =>
      exact (untouched trivial).elim
  | send engine op =>
      exact (untouched trivial).elim
  | _ =>
      exact ⟨⟨represents.isOpen, represents.stores, represents.cached⟩,
        represents.quiet⟩

/-- Run in a quiet store, the program leaves the store quiet and with its rows. -/
def KeepsRows
    (rows : RowMap)
    (program : StorageProgram shards Failure α) :
    Prop :=
  ∀ store,
    Represents store rows →
    Represents (program.run answer store).2 rows

namespace KeepsRows

variable {program : StorageProgram shards Failure α}

/-- A program that does not touch the rows keeps them. -/
theorem of_never
    (never : program.Never StorageAction.TouchesRows) :
    KeepsRows rows program := by
  induction program with
  | pure value =>
      exact fun store represents => represents
  | fail failure =>
      exact fun store represents => represents
  | act action next inductionHypothesis =>
      exact fun store represents =>
        inductionHypothesis _ (never.2 _) _ (represents.untouched never.1)

/-- Two parts that keep the rows make a whole that does. -/
theorem bind
    {continuation : α → StorageProgram shards Failure β}
    (first : KeepsRows rows program)
    (later : ∀ value, KeepsRows rows (continuation value)) :
    KeepsRows rows (program >>= continuation) := by
  intro store represents
  have kept := first store represents
  rw [run_bind]
  rcases outcome : program.run answer store with ⟨failure | value, next⟩
  · rw [outcome] at kept
    exact kept
  · rw [outcome] at kept
    exact later value next kept

/-- Reporting failures as internal ones changes nothing about the rows. -/
theorem internally
    {program : StorageProgram shards Fault α}
    (keeps : KeepsRows rows program) :
    KeepsRows rows (RhydaDB.internally program) := by
  intro store represents
  rw [RhydaDB.internally, run_mapFailure]
  exact keeps store represents

/-- What is computed without the store keeps the rows. -/
theorem ofExcept (outcome : Except Failure α) :
    KeepsRows rows
      (Program.ofExcept outcome : StorageProgram shards Failure α) :=
  of_never (never_ofExcept outcome)

/-- What follows a finished computation keeps the rows for its value. -/
theorem ofExcept_bind
    {outcome : Except Failure α}
    {continuation : α → StorageProgram shards Failure β}
    (later :
      ∀ value, outcome = .ok value → KeepsRows rows (continuation value)) :
    KeepsRows rows (Program.ofExcept outcome >>= continuation) := by
  cases outcome with
  | error failure =>
      exact of_never trivial
  | ok value =>
      exact later value rfl

end KeepsRows

/-! ## Looking definitions up -/

/-- Looking a table up keeps the rows. -/
theorem getTable_keepsRows
    (json : CatalogJson)
    (keyspace table : String) :
    KeepsRows rows
      (getTable json keyspace table : StorageProgram shards Fault _) := by
  refine .of_never ⟨id, fun cached => ?_⟩
  change Option TableDef at cached
  cases cached with
  | some definition =>
      trivial
  | none =>
      refine ⟨id, fun found => ?_⟩
      change Option Bytes at found
      cases found with
      | none =>
          trivial
      | some bytes =>
          exact (never_ofExcept _).bind_all fun _ => ⟨id, fun _ => trivial⟩

/-- Looking a keyspace up keeps the rows. -/
theorem getKeyspace_keepsRows
    (json : CatalogJson)
    (name : String) :
    KeepsRows rows
      (getKeyspace json name : StorageProgram shards Fault _) := by
  refine .of_never ⟨id, fun cached => ?_⟩
  change Option KeyspaceDef at cached
  cases cached with
  | some keyspace =>
      trivial
  | none =>
      refine ⟨id, fun found => ?_⟩
      change Option Bytes at found
      cases found with
      | none =>
          trivial
      | some bytes =>
          exact (never_ofExcept _).bind_all fun _ => ⟨id, fun _ => trivial⟩

/-- A USE keeps the rows. -/
theorem execUse_keepsRows
    (json : CatalogJson)
    (identifier : Identifier)
    (binds : Binds) :
    KeepsRows rows
      (execUse json identifier binds :
        StorageProgram shards QueryFault (Executed shards)) := by
  refine (getKeyspace_keepsRows json _).internally.bind fun found => ?_
  cases found <;> exact .of_never trivial

/-- Resolving a name keeps the rows. -/
theorem resolveTable_keepsRows
    (json : CatalogJson)
    (sessionKs : Option String)
    (name : FQName) :
    KeepsRows rows
      (resolveTable json sessionKs name :
        StorageProgram shards QueryFault (String × TableDef)) := by
  refine (KeepsRows.ofExcept _).bind fun keyspace => ?_
  refine (getTable_keepsRows json keyspace _).internally.bind fun found => ?_
  cases found <;> exact .of_never trivial

/-- Looking for a virtual table keeps the rows. -/
theorem missesVirtualTable_keepsRows
    (json : CatalogJson)
    (sessionKs : Option String)
    (name : FQName) :
    KeepsRows rows
      (missesVirtualTable json sessionKs name :
        StorageProgram shards QueryFault Bool) := by
  unfold missesVirtualTable
  split
  · exact (getTable_keepsRows json _ _).internally.bind
      fun _ => .of_never trivial
  · exact .of_never trivial

/-! ## Scans and lookups of rows -/

/-- Streaming several engines keeps the rows. -/
theorem forEachOnEngines_keepsRows
    {σ : Type}
    (leading : Bytes)
    (visit : σ → Bytes → Bytes → σ × Bool)
    (engines : List (Fin shards))
    (state : σ) :
    KeepsRows rows (forEachOnEngines leading visit engines state) := by
  induction engines generalizing state with
  | nil =>
      exact .of_never trivial
  | cons engine rest inductionHypothesis =>
      have streams :
          KeepsRows rows (forEachOnEngine engine leading visit state) :=
        .of_never ⟨id, fun _ => trivial⟩
      refine streams.bind fun visited => ?_
      dsimp only
      split
      · exact inductionHypothesis _
      · exact .of_never trivial

/-- Scanning partitions one after the other keeps the rows. -/
theorem scanPartitions_keepsRows
    (keyspace table : String)
    (limit : Nat)
    (visit : ScanState → Bytes → Bytes → ScanState × Bool)
    (partitions : List (List Bytes))
    (state : ScanState) :
    KeepsRows rows
      (scanPartitions keyspace table limit visit partitions state :
        StorageProgram shards Fault ScanState) := by
  induction partitions generalizing state with
  | nil =>
      exact .of_never trivial
  | cons partition rest inductionHypothesis =>
      have streams :
          KeepsRows rows
            (forEachInPartition keyspace table partition visit
              { state with done := false } :
              StorageProgram shards Fault ScanState) :=
        .of_never ⟨id, fun _ => trivial⟩
      refine streams.bind fun next => ?_
      split
      · exact .of_never trivial
      · exact inductionHypothesis next

/-- A scan of any plan keeps the rows. -/
theorem scanRowsMatching_keepsRows
    (projection : Projection)
    (keyspace : String)
    (filters : List Filter)
    (pagingState : Option Bytes)
    (limit : Nat) :
    KeepsRows rows
      (scanRowsMatching projection keyspace filters pagingState limit :
        StorageProgram shards Fault ScanState) := by
  unfold scanRowsMatching
  dsimp only
  split
  · exact scanPartitions_keepsRows _ _ _ _ _ _
  · exact forEachOnEngines_keepsRows _ _ _ _

/-- Reading an addressed row keeps the rows. -/
theorem getRow_keepsRows (address : RowAddress) :
    KeepsRows rows
      (getRow address.keyspace address.table address.keyParts :
        StorageProgram shards Fault (Option Bytes)) := by
  intro store represents
  obtain ⟨next, ran, kept⟩ := represents.getRow address
  rw [ran]
  exact kept

/-- Looking one row up keeps the rows. -/
theorem selectPoint_keepsRows
    {projection : Projection}
    {address : RowAddress}
    (ofTable : address.table = projection.table.name) :
    KeepsRows rows
      (selectPoint projection address.keyspace address.keyParts :
        StorageProgram shards Fault _) := by
  unfold selectPoint
  rw [← ofTable]
  refine (getRow_keepsRows address).bind fun found => ?_
  cases found with
  | none =>
      exact .of_never trivial
  | some bytes =>
      refine (KeepsRows.ofExcept _).bind fun row => ?_
      cases row <;> exact .of_never trivial

/-- A table of this name with a key: its rows have addresses. -/
structure TableDef.Addressable (table : TableDef) (name : TableName) : Prop where
  named : table.name = name.table
  keyed : table.partitionKeys ≠ []

/-- Key parts of as many as there are key columns are not none. -/
theorem TableDef.Addressable.nonempty
    {table : TableDef}
    {name : TableName}
    (addressable : table.Addressable name)
    {γ : Type}
    {parts : List γ}
    {related : String → γ → Prop}
    (beside : List.Forall₂ related table.keyNames parts) :
    parts ≠ [] := by
  rintro rfl
  have noKey := List.forall₂_nil_right_iff.mp beside
  exact addressable.keyed (List.append_eq_nil_iff.mp noKey).1

/-- The rows of a SELECT whose columns and filters are resolved are kept. -/
theorem selectRows_keepsRows
    {projection : Projection}
    {name : TableName}
    (addressable : projection.table.Addressable name)
    {filters : List Filter}
    (keyFits :
      ∀ keyParts,
        pointKey projection.table filters = some keyParts → PartsFit keyParts)
    (pageSize limit : Option Int32)
    (pagingState : Option Bytes) :
    KeepsRows rows
      (selectRows projection name.keyspace filters pageSize limit pagingState :
        StorageProgram shards Fault _) := by
  unfold selectRows
  split
  · rename_i keyParts isPoint
    have nonempty := addressable.nonempty (pointKey_eq_some.mp isPoint)
    let address : RowAddress := ⟨name, keyParts, nonempty, keyFits keyParts isPoint⟩
    have looks :
        KeepsRows rows
          (selectPoint projection address.keyspace address.keyParts :
            StorageProgram shards Fault _) :=
      selectPoint_keepsRows addressable.named.symm
    exact looks.bind fun _ => .of_never trivial
  · refine (scanRowsMatching_keepsRows _ _ _ _ _).bind fun state => ?_
    split <;> exact .of_never trivial

/-- A SELECT from a table whose rows have addresses keeps the rows. -/
theorem selectFrom_keepsRows
    {hexDecode : HexDecode}
    {name : TableName}
    {table : TableDef}
    (addressable : table.Addressable name)
    {sel : Select}
    {binds : Binds}
    (keyFits :
      ∀ filters rest,
        parseFilters hexDecode table sel.whereClause binds = .ok (filters, rest) →
        ∀ keyParts, pointKey table filters = some keyParts → PartsFit keyParts)
    (pageSize : Option Int32)
    (pagingState : Option Bytes) :
    KeepsRows rows
      (selectFrom hexDecode name.keyspace table sel binds pageSize pagingState :
        StorageProgram shards QueryFault (Executed shards)) := by
  refine (KeepsRows.ofExcept _).bind fun selected => ?_
  refine .ofExcept_bind ?_
  rintro ⟨filters, rest⟩ parsed
  dsimp only
  split
  · exact .of_never trivial
  · rename_i projection built
    obtain ⟨rfl, _⟩ := Projection.resolves_of_build built
    exact (selectRows_keepsRows addressable (keyFits filters rest parsed) pageSize
      sel.limit pagingState).internally.bind fun _ => .of_never trivial

end RhydaDB
