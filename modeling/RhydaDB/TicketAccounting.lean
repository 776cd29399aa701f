import RhydaDB.Server

namespace RhydaDB

open ByteStrings AtomicPrograms Storage

/-!
# Which tickets a statement hands back

A response is withheld until the tickets that the statement returned have
completed.  Every statement but one returns the tickets of all operations it
sent; DROP TABLE also queues the deletion of its mirror row and drops that
ticket.
-/

variable {shards : Nat}

/-- A program that sends nothing. -/
def Silent {Failure α : Type} (program : StorageProgram shards Failure α) : Prop :=
  ∀ sent, Program.Always recordSend (fun later _ => later = sent) sent program

/--
From a state in which the owed tickets were sent, the program returns when
exactly the tickets that `tickets` reads off its result were sent.
-/
def Returns
    {Failure α : Type}
    (owed : List (WriteTicket shards))
    (tickets : α → List (WriteTicket shards))
    (program : StorageProgram shards Failure α) :
    Prop :=
  ∀ sent,
    sent.map Prod.fst = owed →
    Program.Always recordSend
      (fun later value => later.map Prod.fst = tickets value)
      sent program

section Rules

variable {Failure OtherFailure α β : Type}

/-- Returning at once sends nothing. -/
theorem silent_return (value : α) :
    Silent (return value : StorageProgram shards Failure α) :=
  fun _ => rfl

/-- Failing sends nothing. -/
theorem silent_fail (failure : Failure) :
    Silent (.fail failure : StorageProgram shards Failure α) :=
  fun _ => trivial

/-- A finished computation sends nothing. -/
theorem silent_ofExcept (outcome : Except Failure α) :
    Silent (Program.ofExcept outcome : StorageProgram shards Failure α) :=
  fun _ => Program.Always.ofExcept fun _ _ => rfl

/-- Only sends are recorded. -/
theorem silent_atomically
    {action : StorageAction shards}
    (notSend : ∀ engine op, action ≠ .send engine op) :
    Silent
      (atomically action :
        StorageProgram shards Failure (StorageResponse action)) := by
  intro sent response
  cases action with
  | send engine op =>
      exact (notSend engine op rfl).elim
  | _ =>
      rfl

/-- Silent programs compose. -/
theorem Silent.bind
    {program : StorageProgram shards Failure α}
    {continuation : α → StorageProgram shards Failure β}
    (silent : Silent program)
    (later : ∀ value, Silent (continuation value)) :
    Silent (program >>= continuation) := by
  intro sent
  apply (silent sent).bind
  rintro _ value rfl
  exact later value _

/-- Translating failures keeps silence. -/
theorem Silent.mapFailure
    {program : StorageProgram shards Failure α}
    (silent : Silent program)
    (translate : Failure → OtherFailure) :
    Silent (program.mapFailure translate) :=
  fun sent => (silent sent).mapFailure translate

/-- A silent program owes what was owed before. -/
theorem Silent.returns
    {program : StorageProgram shards Failure α}
    (silent : Silent program)
    (owed : List (WriteTicket shards)) :
    Returns owed (fun _ => owed) program := by
  rintro sent rfl
  apply (silent sent).mono
  rintro _ value rfl
  rfl

/-- What is owed after the first part is owed at the start of the rest. -/
theorem Returns.bind
    {program : StorageProgram shards Failure α}
    {continuation : α → StorageProgram shards Failure β}
    {owed : List (WriteTicket shards)}
    {middle : α → List (WriteTicket shards)}
    {tickets : β → List (WriteTicket shards)}
    (returns : Returns owed middle program)
    (later : ∀ value, Returns (middle value) tickets (continuation value)) :
    Returns owed tickets (program >>= continuation) := by
  intro sent isOwed
  apply (returns sent isOwed).bind
  intro sent value isMiddle
  exact later value sent isMiddle

/-- Translating failures keeps the accounting. -/
theorem Returns.mapFailure
    {program : StorageProgram shards Failure α}
    {owed : List (WriteTicket shards)}
    {tickets : α → List (WriteTicket shards)}
    (returns : Returns owed tickets program)
    (translate : Failure → OtherFailure) :
    Returns owed tickets (program.mapFailure translate) :=
  fun sent isOwed => (returns sent isOwed).mapFailure translate

/-- A result accounts for what is owed when its tickets are just those. -/
theorem returns_return
    {owed : List (WriteTicket shards)}
    {tickets : α → List (WriteTicket shards)}
    {value : α}
    (same : owed = tickets value) :
    Returns owed tickets
      (return value : StorageProgram shards Failure α) := by
  rintro sent rfl
  exact same

/-- A failure owes nothing. -/
theorem returns_fail
    (owed : List (WriteTicket shards))
    (tickets : α → List (WriteTicket shards))
    (failure : Failure) :
    Returns owed tickets
      (.fail failure : StorageProgram shards Failure α) :=
  fun _ _ => trivial

/-- After a silent beginning, the rest starts with the same debt. -/
theorem Silent.bind_returns
    {program : StorageProgram shards Failure α}
    {continuation : α → StorageProgram shards Failure β}
    {owed : List (WriteTicket shards)}
    {tickets : β → List (WriteTicket shards)}
    (silent : Silent program)
    (later : ∀ value, Returns owed tickets (continuation value)) :
    Returns owed tickets (program >>= continuation) :=
  (silent.returns owed).bind later

/-- A send adds its ticket to what is owed, if the channel accepts it. -/
theorem returns_send
    (owed : List (WriteTicket shards))
    (engine : Fin shards)
    (op : WriteOp) :
    Returns owed (fun ticket => owed ++ ticket.toList)
      (atomically (.send engine op) :
        StorageProgram shards Failure (Option (WriteTicket shards))) := by
  rintro sent rfl response
  cases response with
  | none =>
      simp [Program.Always, recordSend]
  | some ticket =>
      simp [Program.Always, recordSend]

end Rules

/-! ## The store's programs -/

section Store

/-- A send through a pipeline owes its ticket. -/
theorem returns_sendOp
    (owed : List (WriteTicket shards))
    (engine : Fin shards)
    (op : WriteOp) :
    Returns owed (fun ticket => owed ++ [ticket]) (sendOp engine op) := by
  apply (returns_send owed engine op).bind
  intro response
  cases response with
  | none =>
      exact returns_fail _ _ _
  | some ticket =>
      exact returns_return rfl

/-- Sending to several engines owes all their tickets. -/
theorem returns_sendToEach
    (op : WriteOp)
    (engines : List (Fin shards))
    (owed : List (WriteTicket shards)) :
    Returns owed (fun tickets => owed ++ tickets) (sendToEach op engines) := by
  induction engines generalizing owed with
  | nil =>
      exact returns_return (by simp)
  | cons engine rest inductionHypothesis =>
      apply (returns_sendOp owed engine op).bind
      intro ticket
      apply (inductionHypothesis _).bind
      intro tickets
      exact returns_return (by simp)

/-- Sending deletions owes the tickets of those that were accepted. -/
theorem returns_sendDeletes
    (engine : Fin shards)
    (entries : List (Bytes × Bytes))
    (owed : List (WriteTicket shards)) :
    Returns owed (fun tickets => owed ++ tickets)
      (sendDeletes engine entries) := by
  induction entries generalizing owed with
  | nil =>
      exact returns_return (by simp)
  | cons entry rest inductionHypothesis =>
      apply (returns_send owed engine (.delete entry.1)).bind
      intro ticket
      apply (inductionHypothesis _).bind
      intro tickets
      exact returns_return (by simp)

/-- Sending deletions engine by engine owes all their tickets. -/
theorem returns_sendDeletesUnder
    (leading : Bytes)
    (engines : List (Fin shards))
    (owed : List (WriteTicket shards)) :
    Returns owed (fun tickets => owed ++ tickets)
      (sendDeletesUnder leading engines) := by
  induction engines generalizing owed with
  | nil =>
      exact returns_return (by simp)
  | cons engine rest inductionHypothesis =>
      apply (silent_atomically (by simp)).bind_returns
      intro entries
      apply (returns_sendDeletes engine entries owed).bind
      intro tickets
      apply (inductionHypothesis _).bind
      intro later
      exact returns_return (by simp)

/-- Removing a data range owes all the tickets it returns. -/
theorem returns_deleteDataPrefix
    (leading : Bytes)
    (owed : List (WriteTicket shards)) :
    Returns owed (fun tickets => owed ++ tickets)
      (deleteDataPrefix leading) := by
  have finishes :
      ∀ tickets,
        Returns (owed ++ tickets) (fun tickets => owed ++ tickets)
          (do
            if dtPrefix.isPrefixOf leading then
              atomically .cacheClear
            return tickets :
            StorageProgram shards Fault (List (WriteTicket shards))) := by
    intro tickets
    split
    · apply (silent_atomically (by simp)).bind_returns
      intro _
      exact returns_return rfl
    · exact returns_return rfl
  unfold deleteDataPrefix
  cases prefixUpperBound leading with
  | some stop =>
      exact (returns_sendToEach _ _ owed).bind finishes
  | none =>
      exact (returns_sendDeletesUnder _ _ owed).bind finishes

variable [NeZero shards]

/-- Metadata reads are silent. -/
theorem silent_get (key : Bytes) :
    Silent (get key : StorageProgram shards Fault (Option Bytes)) :=
  silent_atomically (by simp)

/-- Metadata deletions are silent. -/
theorem silent_delete (key : Bytes) :
    Silent (delete key : StorageProgram shards Fault Unit) :=
  silent_atomically (by simp)

omit [NeZero shards] in
/-- A scan of one engine is silent. -/
theorem silent_forEachOnEngine
    {σ : Type}
    (engine : Fin shards)
    (leading : Bytes)
    (visit : σ → Bytes → Bytes → σ × Bool)
    (state : σ) :
    Silent (forEachOnEngine engine leading visit state) :=
  (silent_atomically (by simp)).bind fun _ => silent_return _

omit [NeZero shards] in
/-- A scan of several engines is silent. -/
theorem silent_forEachOnEngines
    {σ : Type}
    (leading : Bytes)
    (visit : σ → Bytes → Bytes → σ × Bool)
    (engines : List (Fin shards))
    (state : σ) :
    Silent (forEachOnEngines leading visit engines state) := by
  induction engines generalizing state with
  | nil =>
      exact silent_return state
  | cons engine rest inductionHypothesis =>
      apply (silent_forEachOnEngine engine leading visit state).bind
      rintro ⟨next, goOn⟩
      cases goOn with
      | false =>
          exact silent_return next
      | true =>
          exact inductionHypothesis next

/-- A partition scan is silent. -/
theorem silent_forEachInPartition
    {σ : Type}
    (keyspace table : String)
    (partition : List Bytes)
    (visit : σ → Bytes → Bytes → σ × Bool)
    (state : σ) :
    Silent
      (forEachInPartition keyspace table partition visit state :
        StorageProgram shards Fault σ) :=
  (silent_forEachOnEngine _ _ visit state).bind fun _ => silent_return _

/-- Deleting metadata keys one by one is silent. -/
theorem silent_deleteEach (entries : List (Bytes × Bytes)) :
    Silent (deleteEach entries : StorageProgram shards Fault Unit) := by
  induction entries with
  | nil =>
      exact silent_return ()
  | cons entry rest inductionHypothesis =>
      exact (silent_delete entry.1).bind fun _ => inductionHypothesis

/-- Removing a metadata prefix is silent. -/
theorem silent_deletePrefix (leading : Bytes) :
    Silent (deletePrefix leading : StorageProgram shards Fault Unit) := by
  unfold deletePrefix
  split
  · exact silent_atomically (by simp)
  · refine Silent.bind ?_ fun entries => silent_deleteEach entries
    exact (silent_forEachOnEngine _ _ _ _).bind fun _ => silent_return _

/-- Looking a keyspace up is silent. -/
theorem silent_getKeyspace (json : CatalogJson) (name : String) :
    Silent
      (getKeyspace json name :
        StorageProgram shards Fault (Option KeyspaceDef)) := by
  apply (silent_atomically (by simp)).bind
  intro cached
  cases cached with
  | some keyspace =>
      exact silent_return _
  | none =>
      apply (silent_get _).bind
      intro stored
      cases stored with
      | none =>
          exact silent_return _
      | some bytes =>
          apply (silent_ofExcept _).bind
          intro keyspace
          exact (silent_atomically (by simp)).bind fun _ => silent_return _

/-- Looking a table up is silent. -/
theorem silent_getTable (json : CatalogJson) (keyspace table : String) :
    Silent
      (getTable json keyspace table :
        StorageProgram shards Fault (Option TableDef)) := by
  apply (silent_atomically (by simp)).bind
  intro cached
  cases cached with
  | some definition =>
      exact silent_return _
  | none =>
      apply (silent_get _).bind
      intro stored
      cases stored with
      | none =>
          exact silent_return _
      | some bytes =>
          apply (silent_ofExcept _).bind
          intro definition
          exact (silent_atomically (by simp)).bind fun _ => silent_return _

/-- Reading a row is silent. -/
theorem silent_getRow (keyspace table : String) (keyParts : List Bytes) :
    Silent
      (getRow keyspace table keyParts :
        StorageProgram shards Fault (Option Bytes)) := by
  have looksUp :
      Silent
        (cachedRow keyspace (rowKey keyspace table keyParts) :
          StorageProgram shards Fault (Option Bytes)) := by
    unfold cachedRow
    split
    · exact silent_atomically (by simp)
    · exact silent_return none
  have refills :
      ∀ found : Option Bytes,
        Silent
          (refillCache keyspace (rowKey keyspace table keyParts) found :
            StorageProgram shards Fault Unit) := by
    intro found
    unfold refillCache
    split
    · split
      · exact silent_atomically (by simp)
      · exact silent_return ()
    · exact silent_return ()
  apply looksUp.bind
  intro cached
  cases cached with
  | some value =>
      exact silent_return _
  | none =>
      apply (silent_atomically (by simp)).bind
      intro found
      exact (refills found).bind fun _ => silent_return _

/-- Writing a row owes one ticket. -/
theorem returns_putRow
    (keyspace table : String)
    (keyParts : List Bytes)
    (value : Bytes)
    (owed : List (WriteTicket shards)) :
    Returns owed (fun ticket => owed ++ [ticket])
      (putRow keyspace table keyParts value) := by
  unfold putRow
  split
  · exact (silent_atomically (by simp)).bind_returns
      fun _ => returns_sendOp owed _ _
  · exact returns_sendOp owed _ _

/-- Deleting a row owes one ticket. -/
theorem returns_deleteRow
    (keyspace table : String)
    (keyParts : List Bytes)
    (owed : List (WriteTicket shards)) :
    Returns owed (fun ticket => owed ++ [ticket])
      (deleteRow keyspace table keyParts) := by
  unfold deleteRow
  split
  · exact (silent_atomically (by simp)).bind_returns
      fun _ => returns_sendOp owed _ _
  · exact returns_sendOp owed _ _

/-- Deleting a row past its pipeline is silent. -/
theorem silent_deleteRowSync
    (keyspace table : String)
    (keyParts : List Bytes) :
    Silent
      (deleteRowSync keyspace table keyParts :
        StorageProgram shards Fault Unit) := by
  unfold deleteRowSync
  apply (silent_atomically (by simp)).bind
  intro _
  split
  · exact silent_atomically (by simp)
  · exact silent_return ()

/-- Removing a keyspace owes the tickets it returns. -/
theorem returns_deleteKeyspace
    (name : String)
    (owed : List (WriteTicket shards)) :
    Returns owed (fun tickets => owed ++ tickets) (deleteKeyspace name) := by
  apply (silent_delete _).bind_returns
  intro _
  apply (silent_deletePrefix _).bind_returns
  intro _
  apply (returns_deleteDataPrefix _ owed).bind
  intro tickets
  apply (silent_atomically (by simp)).bind_returns
  intro _
  apply (silent_atomically (by simp)).bind_returns
  intro _
  exact returns_return rfl

end Store

/-! ## Statements -/

section Statements

variable
  [NeZero shards]
  (json : CatalogJson)
  (hexDecode : HexDecode)
  (sessionKs : Option String)

/-- Resolving a table is silent. -/
theorem silent_resolveTable (name : FQName) :
    Silent
      (resolveTable json sessionKs name :
        StorageProgram shards QueryFault (String × TableDef)) := by
  apply (silent_ofExcept _).bind
  intro keyspace
  apply ((silent_getTable json keyspace _).mapFailure internalErr).bind
  intro found
  cases found with
  | some table =>
      exact silent_return _
  | none =>
      exact silent_fail _

/-- Scanning partitions is silent. -/
theorem silent_scanPartitions
    (keyspace table : String)
    (limit : Nat)
    (visit : ScanState → Bytes → Bytes → ScanState × Bool)
    (partitions : List (List Bytes))
    (state : ScanState) :
    Silent
      (scanPartitions keyspace table limit visit partitions state :
        StorageProgram shards Fault ScanState) := by
  induction partitions generalizing state with
  | nil =>
      exact silent_return state
  | cons partition rest inductionHypothesis =>
      apply (silent_forEachInPartition keyspace table partition visit _).bind
      intro next
      split
      · exact silent_return next
      · exact inductionHypothesis next

/-- Selecting rows is silent. -/
theorem silent_selectRows
    (projection : Projection)
    (keyspace : String)
    (filters : List Filter)
    (pageSize limit : Option Int32)
    (pagingState : Option Bytes) :
    Silent
      (selectRows projection keyspace filters pageSize limit pagingState :
        StorageProgram shards Fault
          (List (List Value) × List Bytes × Option Bytes)) := by
  unfold selectRows
  split
  · refine Silent.bind ?_ fun _ => silent_return _
    apply (silent_getRow keyspace _ _).bind
    intro found
    cases found with
    | none =>
        exact silent_return _
    | some bytes =>
        apply (silent_ofExcept _).bind
        intro projected
        cases projected <;> exact silent_return _
  · have scans :
        Silent
          (scanRowsMatching projection keyspace filters pagingState
            (pageLimit pageSize limit) :
            StorageProgram shards Fault ScanState) := by
      simp only [scanRowsMatching]
      split
      · exact silent_scanPartitions _ _ _ _ _ _
      · exact silent_forEachOnEngines _ _ _ _
    apply scans.bind
    intro state
    cases state.errorSlot with
    | some fault =>
        exact silent_fail fault
    | none =>
        exact silent_return _

/-- A SELECT sends nothing and returns no tickets. -/
theorem returns_execSelect
    (sel : Select)
    (binds : Binds)
    (pageSize : Option Int32)
    (pagingState : Option Bytes) :
    Returns [] Executed.gates
      (execSelect json hexDecode sessionKs sel binds pageSize pagingState :
        StorageProgram shards QueryFault (Executed shards)) := by
  have looksUp :
      Silent
        (missesVirtualTable json sessionKs sel.tableName :
          StorageProgram shards QueryFault Bool) := by
    unfold missesVirtualTable
    split
    · exact ((silent_getTable json _ _).mapFailure internalErr).bind
        fun _ => silent_return _
    · exact silent_return false
  apply looksUp.bind_returns
  intro misses
  cases misses with
  | true =>
      exact returns_return rfl
  | false =>
      apply (silent_resolveTable json sessionKs sel.tableName).bind_returns
      intro resolved
      apply (silent_ofExcept _).bind_returns
      intro selected
      apply (silent_ofExcept _).bind_returns
      rintro ⟨filters, next⟩
      simp only
      split
      · exact returns_fail _ _ _
      · refine Silent.bind_returns ?_ fun _ => returns_return rfl
        exact (silent_selectRows _ _ _ _ _ _).mapFailure internalErr

/-- An INSERT returns the ticket of its row. -/
theorem returns_execInsert (ins : Insert) (binds : Binds) :
    Returns [] Executed.gates
      (execInsert json hexDecode sessionKs ins binds :
        StorageProgram shards QueryFault (Executed shards)) := by
  apply (silent_resolveTable json sessionKs ins.tableName).bind_returns
  intro resolved
  apply (silent_ofExcept _).bind_returns
  intro _
  apply (silent_ofExcept _).bind_returns
  intro planned
  apply ((returns_putRow _ _ _ _ []).mapFailure internalErr).bind
  intro ticket
  exact returns_return rfl

/-- An UPDATE returns the ticket of its row. -/
theorem returns_execUpdate (upd : Update) (binds : Binds) :
    Returns [] Executed.gates
      (execUpdate json hexDecode sessionKs upd binds :
        StorageProgram shards QueryFault (Executed shards)) := by
  apply (silent_resolveTable json sessionKs upd.tableName).bind_returns
  intro resolved
  apply (silent_ofExcept _).bind_returns
  intro _
  apply (silent_ofExcept _).bind_returns
  intro planned
  have determines :
      Silent
        (updatedCells resolved.1 resolved.2 planned.1 planned.2.1 :
          StorageProgram shards QueryFault (List (UInt16 × Value))) := by
    unfold updatedCells
    split
    · exact silent_ofExcept _
    · exact ((silent_getRow _ _ _).mapFailure internalErr).bind
        fun _ => silent_ofExcept _
  apply determines.bind_returns
  intro cells
  apply ((returns_putRow _ _ _ _ []).mapFailure internalErr).bind
  intro ticket
  exact returns_return rfl

/-- A DELETE returns the ticket of its row. -/
theorem returns_execDelete (del : Delete) (binds : Binds) :
    Returns [] Executed.gates
      (execDelete json hexDecode sessionKs del binds :
        StorageProgram shards QueryFault (Executed shards)) := by
  apply (silent_resolveTable json sessionKs del.tableName).bind_returns
  intro resolved
  apply (silent_ofExcept _).bind_returns
  intro _
  apply (silent_ofExcept _).bind_returns
  intro planned
  apply ((returns_deleteRow _ _ _ []).mapFailure internalErr).bind
  intro ticket
  exact returns_return rfl

/-- A TRUNCATE returns the tickets of its range deletions. -/
theorem returns_execTruncate (name : FQName) (binds : Binds) :
    Returns [] Executed.gates
      (execTruncate json sessionKs name binds :
        StorageProgram shards QueryFault (Executed shards)) := by
  apply (silent_resolveTable json sessionKs name).bind_returns
  intro resolved
  apply (silent_ofExcept _).bind_returns
  intro _
  apply ((returns_deleteDataPrefix _ []).mapFailure internalErr).bind
  intro tickets
  exact returns_return (by simp)

/-- Deleting a partition of the schema mirror is silent. -/
theorem silent_deleteSystemSchemaPartition
    (table : String)
    (partitionKey : List Bytes) :
    Silent
      (deleteSystemSchemaPartition table partitionKey :
        StorageProgram shards Fault Unit) := by
  apply (silent_forEachInPartition "system_schema" table partitionKey _ _).bind
  intro entries
  induction entries with
  | nil =>
      exact silent_return ()
  | cons entry rest inductionHypothesis =>
      apply (silent_ofExcept _).bind
      intro parts
      exact (silent_deleteRowSync _ _ _).bind fun _ => inductionHypothesis

/-- A DROP KEYSPACE returns the tickets of its range deletions. -/
theorem returns_execDropKeyspace (drop : CommonDrop) (binds : Binds) :
    Returns [] Executed.gates
      (execDropKeyspace json drop binds :
        StorageProgram shards QueryFault (Executed shards)) := by
  apply ((silent_getKeyspace json _).mapFailure internalErr).bind_returns
  intro found
  cases found with
  | none =>
      simp only
      split
      · exact returns_return rfl
      · exact returns_fail _ _ _
  | some keyspace =>
      apply (silent_ofExcept _).bind_returns
      intro _
      apply ((returns_deleteKeyspace _ []).mapFailure internalErr).bind
      intro tickets
      refine Silent.bind_returns (Silent.mapFailure ?_ internalErr)
        fun _ => returns_return (by simp)
      apply (silent_deleteSystemSchemaPartition _ _).bind
      intro _
      apply (silent_deleteSystemSchemaPartition _ _).bind
      intro _
      apply (silent_deleteSystemSchemaPartition _ _).bind
      intro _
      exact silent_return ()

/-- Writing a row past its pipeline is silent. -/
theorem silent_putRowSync
    (keyspace table : String)
    (keyParts : List Bytes)
    (value : Bytes) :
    Silent
      (putRowSync keyspace table keyParts value :
        StorageProgram shards Fault Unit) := by
  unfold putRowSync
  apply (silent_atomically (by simp)).bind
  intro _
  split
  · exact silent_atomically (by simp)
  · exact silent_return ()

/-- Writing a row of the schema mirror is silent. -/
theorem silent_putSystemSchemaRow
    (table : String)
    (primaryKey : List String)
    (columns : List (String × Value)) :
    Silent
      (putSystemSchemaRow json table primaryKey columns :
        StorageProgram shards Fault Unit) := by
  apply (silent_getTable json "system_schema" table).bind
  intro found
  cases found with
  | none =>
      exact silent_fail _
  | some definition =>
      exact (silent_ofExcept _).bind fun _ => silent_putRowSync _ _ _ _

/-- Mirroring a table is silent. -/
theorem silent_mirrorTableMetadata (table : TableDef) :
    Silent
      (mirrorTableMetadata json table : StorageProgram shards Fault Unit) := by
  apply (silent_putSystemSchemaRow json _ _ _).bind
  intro _
  induction table.columns with
  | nil =>
      exact silent_return ()
  | cons column rest inductionHypothesis =>
      apply (silent_ofExcept _).bind
      intro role
      exact (silent_putSystemSchemaRow json _ _ _).bind
        fun _ => inductionHypothesis

/-- A USE sends nothing. -/
theorem returns_execUse (identifier : Identifier) (binds : Binds) :
    Returns [] Executed.gates
      (execUse json identifier binds :
        StorageProgram shards QueryFault (Executed shards)) := by
  apply ((silent_getKeyspace json _).mapFailure internalErr).bind_returns
  intro found
  cases found with
  | none =>
      exact returns_fail _ _ _
  | some keyspace =>
      exact returns_return rfl

/-- A CREATE KEYSPACE sends nothing. -/
theorem returns_execCreateKeyspace (create : CreateKeyspace) (binds : Binds) :
    Returns [] Executed.gates
      (execCreateKeyspace json create binds :
        StorageProgram shards QueryFault (Executed shards)) := by
  apply ((silent_getKeyspace json _).mapFailure internalErr).bind_returns
  intro found
  cases found with
  | some keyspace =>
      simp only
      split
      · exact returns_return rfl
      · exact returns_fail _ _ _
  | none =>
      simp only
      split
      · exact returns_fail _ _ _
      · refine Silent.bind_returns (Silent.mapFailure ?_ internalErr) fun _ => ?_
        · exact (silent_atomically (by simp)).bind
            fun _ => silent_atomically (by simp)
        · exact ((silent_putSystemSchemaRow json _ _ _).mapFailure
            internalErr).bind_returns fun _ => returns_return rfl

/-- A CREATE TABLE sends nothing. -/
theorem returns_execCreateTable (create : CreateTable) (binds : Binds) :
    Returns [] Executed.gates
      (execCreateTable json sessionKs create binds :
        StorageProgram shards QueryFault (Executed shards)) := by
  apply (silent_ofExcept _).bind_returns
  intro keyspace
  apply ((silent_getTable json _ _).mapFailure internalErr).bind_returns
  intro found
  cases found with
  | some table =>
      simp only
      split
      · exact returns_return rfl
      · exact returns_fail _ _ _
  | none =>
      apply (silent_ofExcept _).bind_returns
      intro definition
      refine Silent.bind_returns (Silent.mapFailure ?_ internalErr) fun _ => ?_
      · exact (silent_atomically (by simp)).bind
          fun _ => silent_atomically (by simp)
      · exact ((silent_mirrorTableMetadata json _).mapFailure
          internalErr).bind_returns fun _ => returns_return rfl

end Statements

/-- Whether a statement drops a table. -/
def Statement.isDropTable : Statement → Bool
  | .dropTable _ =>
      true
  | _ =>
      false

/-- Every statement but DROP TABLE returns the tickets of all it sends. -/
theorem returns_program
    [NeZero shards]
    (json : CatalogJson)
    (hexDecode : HexDecode)
    (request : Request)
    (awaited : request.statement.isDropTable = false) :
    Returns [] Executed.gates
      (request.program json hexDecode :
        StorageProgram shards QueryFault (Executed shards)) := by
  obtain ⟨sessionKs, statement, values, pageSize, pagingState⟩ := request
  cases statement with
  | use keyspace =>
      exact returns_execUse json keyspace _
  | createKeyspace create =>
      exact returns_execCreateKeyspace json create _
  | createTable create =>
      exact returns_execCreateTable json sessionKs create _
  | insert ins =>
      exact returns_execInsert json hexDecode sessionKs ins _
  | select sel =>
      exact returns_execSelect json hexDecode sessionKs sel _ _ _
  | delete del =>
      exact returns_execDelete json hexDecode sessionKs del _
  | update upd =>
      exact returns_execUpdate json hexDecode sessionKs upd _
  | truncate name =>
      exact returns_execTruncate json sessionKs name _
  | dropTable drop =>
      cases awaited
  | dropKeyspace drop =>
      exact returns_execDropKeyspace json drop _
  | other shortName =>
      exact returns_fail _ _ _

end RhydaDB
