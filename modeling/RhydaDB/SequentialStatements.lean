import RhydaDB.ConcurrentStatements
import RhydaDB.KeptRows
import RhydaDB.WrittenValues

namespace RhydaDB

open ByteStrings AtomicPrograms FiniteRuns Program Storage

/-!
# Statements one after the other

A client that awaits each response before its next request sees tables.  Every
statement has the effect of its command on the tables that the store shows, and
fails exactly when its command does; the step lemma is stated for the moment a
statement has run, before its operations have been written.
-/

variable
  {shards : Nat} [NeZero shards]
  {json : CatalogJson}
  {catalog : Catalog}
  {hexDecode : HexDecode}
  {store : Storage shards}
  {rows : RowMap}
  {tables : Tables}

/-- Every table has a partition key. -/
def Catalog.Keyed (catalog : Catalog) : Prop :=
  ∀ name table, catalog.tables name = some table → table.partitionKeys ≠ []

/-- The rows of a table of such a catalog have addresses. -/
theorem Catalog.Keyed.addressable
    (keyed : catalog.Keyed)
    (sound : catalog.Sound)
    {name : TableName}
    {table : TableDef}
    (exists_ : catalog.tables name = some table) :
    table.Addressable name :=
  ⟨sound.named name table exists_, keyed name table exists_⟩

/-- A quiet store that serves the catalog and holds the rows of these tables. -/
def Shows
    (json : CatalogJson)
    (catalog : Catalog)
    (store : Storage shards)
    (tables : Tables) :
    Prop :=
  Serves json catalog store ∧
    ∃ rows, Represents store rows ∧ Depicts catalog rows tables

/-- A store that holds the rows of these tables once its tickets are settled. -/
def WillShow
    (catalog : Catalog)
    (store : Storage shards)
    (tables : Tables)
    (gates : List (WriteTicket shards)) :
    Prop :=
  ∃ rows,
    Refines store rows ∧ Awaits gates store ∧ Depicts catalog rows tables

/-- A quiet store has nothing to await. -/
theorem Represents.willShow
    (represents : Represents store rows)
    (depicts : Depicts catalog rows tables) :
    WillShow catalog store tables [] := by
  refine ⟨rows, represents.toRefines, ⟨fun engine => ?_, ?_⟩, depicts⟩
  · exact .inl (represents.quiet engine)
  · intro ticket member
    cases member

/-- A statement fails as its command does, or is about to have its effect. -/
def Carries
    (catalog : Catalog)
    (tables : Tables)
    (ended : QueryOutcome (Executed shards) × Storage shards) :
    QueryOutcome TableCommand →
    Prop
  | .error fault =>
      ended.1 = .error fault ∧ WillShow catalog ended.2 tables []
  | .ok command =>
      ∃ executed,
        ended.1 = .ok executed ∧
          WillShow catalog ended.2 (command.apply tables) executed.gates

/-- A first part that writes nothing is followed by what its value leads to. -/
theorem Carries.after
    {α : Type}
    {outcome : QueryOutcome α}
    {command : α → QueryOutcome TableCommand}
    {program : StorageProgram shards QueryFault α}
    {continuation : α → StorageProgram shards QueryFault (Executed shards)}
    {middle : Storage shards}
    (ran : program.run answer store = (outcome, middle))
    (shows : WillShow catalog middle tables [])
    (later :
      ∀ value,
        outcome = .ok value →
        Carries catalog tables ((continuation value).run answer middle)
          (command value)) :
    Carries catalog tables ((program >>= continuation).run answer store)
      (outcome >>= command) := by
  rw [run_bind, ran]
  cases outcome with
  | error fault =>
      exact ⟨rfl, shows⟩
  | ok value =>
      exact later value rfl

/-! ## Rows of a table -/

/-- What a store that serves the catalog holds for a table are its rows. -/
theorem Serves.holdsTable
    (serves : Serves json catalog store)
    (represents : Represents store rows)
    {name : TableName}
    {table : TableDef}
    (exists_ : catalog.tables name = some table)
    (named : table.name = name.table) :
    rows.HoldsTable name.keyspace table := by
  intro address bytes sameKeyspace sameTable here
  have isName : address.toTableName = name :=
    TableName.ext_names sameKeyspace (sameTable.trans named)
  have found := represents.db_row address
  rw [here] at found
  have under : name.dataPrefix <+: address.key :=
    isName ▸ List.prefix_append _ _
  obtain ⟨row, sameKey, sameBytes⟩ :=
    serves.stored _ _ _ found name table exists_ under
  refine ⟨row, encodeKey_injective row.partsFit address.fits ?_, sameBytes⟩
  rw [TableRow.key, rowKey, RowAddress.key, rowKey, ← isName,
    show table.name = address.table from sameTable.symm] at sameKey
  exact List.append_cancel_left sameKey

/-- What stands under an address of a table is a row of the table, if anything. -/
theorem exists_existing
    (serves : Serves json catalog store)
    (represents : Represents store rows)
    (sound : catalog.Sound)
    {table : TableDef}
    {address : RowAddress}
    (exists_ : catalog.tables address.toTableName = some table) :
    ∃ existing : Option (TableRow table),
      rows address = existing.map TableRow.bytes ∧
        ∀ row, existing = some row → row.keyParts = address.keyParts := by
  have named := sound.named _ table exists_
  cases here : rows address with
  | none =>
      refine ⟨none, rfl, ?_⟩
      rintro _ ⟨⟩
  | some bytes =>
      obtain ⟨row, sameParts, rfl⟩ :=
        serves.holdsTable represents exists_ named address bytes rfl named.symm here
      refine ⟨some row, rfl, ?_⟩
      rintro _ ⟨⟩
      exact sameParts

namespace Depicts

variable
  (sound : catalog.Sound)
  (depicts : Depicts catalog rows tables)
  {name : TableName}
  {table : TableDef}
  (exists_ : catalog.tables name = some table)

include sound depicts exists_

/-- The tables have the row of an address under its key. -/
theorem lookup
    {address : RowAddress}
    (ofName : address.toTableName = name)
    {key : List Value}
    (held : List.Forall₂ table.KeyHolds table.keyNames key)
    (keyParts : key.map Value.rawBytes = address.keyParts)
    {existing : Option (TableRow table)}
    (stored : rows address = existing.map TableRow.bytes)
    (underKey : ∀ row, existing = some row → row.keyParts = address.keyParts) :
    tables name.keyspace name.table key = existing.map TableRow.value := by
  have isTable := sound.named name table exists_
  cases existing with
  | none =>
      cases found : tables name.keyspace name.table key with
      | none =>
          rfl
      | some values =>
          obtain ⟨row, isStored, rfl, _⟩ :=
            (depicts name table exists_ key values).mp found
          obtain ⟨there, sameName, sameParts, _, here⟩ :=
            isStored.exists_address isTable.symm
          have isAddress : there = address :=
            RowAddress.ext_parts (sameName.trans ofName.symm)
              (sameParts.trans keyParts)
          rw [isAddress, stored] at here
          cases here
  | some row =>
      have parts := underKey row rfl
      refine (depicts name table exists_ key row.value).mpr
        ⟨row, ⟨address, ?_, ?_, parts.symm, stored⟩, ?_, rfl⟩
      · rw [ofName]
      · rw [ofName, isTable]
      · exact keyHolds_unique (sound.wellFormed name table exists_) row.keysHeld
          held (parts.trans keyParts.symm)

end Depicts

/-- A table that a name resolves to is the catalog's under that name. -/
theorem Catalog.owner_of_resolve
    {sessionKs : Option String}
    {name : FQName}
    {keyspace : String}
    {table : TableDef}
    (resolved : catalog.resolve sessionKs name = .ok (keyspace, table)) :
    ∃ owner : TableName,
      owner.keyspace = keyspace ∧
        owner.table = normId name.name ∧
        catalog.tables owner = some table := by
  obtain ⟨found, _, looked⟩ := Fallible.bind_eq_ok.mp resolved
  split at looked
  · rename_i definition isFound
    cases looked
    exact Catalog.find_eq_some.mp isFound
  · cases looked

/-- Resolving a name finds the catalog's table and leaves the rows as they are. -/
theorem resolveTable_run_serving
    (roundTrips : json.RoundTrips)
    (serves : Serves json catalog store)
    (represents : Represents store rows)
    (sessionKs : Option String)
    (name : FQName) :
    ∃ middle,
      (resolveTable json sessionKs name).run answer store =
          (catalog.resolve sessionKs name, middle) ∧
        Serves json catalog middle ∧
        Represents middle rows := by
  obtain ⟨kept, returned, failed⟩ :=
    (resolveTable_serving roundTrips sessionKs name).run serves
  refine ⟨_, Prod.ext ?_ rfl, kept,
    resolveTable_keepsRows json sessionKs name store represents⟩
  cases outcome : ((resolveTable json sessionKs name).run answer store).1 with
  | error fault =>
      exact (failed fault outcome).symm
  | ok found =>
      exact (returned found outcome).symm

/-! ## Statements that write -/

/-- What a planned DELETE has read of its WHERE clause. -/
theorem planDelete_eq_ok
    {table : TableDef}
    {del : Delete}
    {binds rest : Binds}
    {keyParts : List Bytes}
    (planned : planDelete hexDecode table del binds = .ok (keyParts, rest)) :
    ∃ filters,
      parseFilters hexDecode table del.whereClause binds = .ok (filters, rest) ∧
        keyPartsFromFilters table filters = .ok keyParts := by
  unfold planDelete at planned
  split at planned
  · cases planned
  · obtain ⟨⟨filters, next⟩, parsed, later⟩ := Fallible.bind_eq_ok.mp planned
    obtain ⟨parts, fixed, same⟩ := Fallible.bind_eq_ok.mp later
    cases same
    exact ⟨filters, parsed, fixed⟩

/-- The WHERE clause of a DELETE fits a frame and its key its length fields. -/
def Delete.KeyFits
    (catalog : Catalog)
    (hexDecode : HexDecode)
    (sessionKs : Option String)
    (binds : Binds)
    (del : Delete) :
    Prop :=
  (∀ relation ∈ del.whereClause, relation.FitsFrame) ∧
    binds.FitFrame ∧
    ∀ keyspace table,
      catalog.resolve sessionKs del.tableName = .ok (keyspace, table) →
      ∀ keyParts rest,
        planDelete hexDecode table del binds = .ok (keyParts, rest) →
        PartsFit keyParts

omit [NeZero shards] in
/-- A finished computation in two parts is performed part by part. -/
theorem ofExcept_bind
    {α β : Type}
    (outcome : QueryOutcome α)
    (next : α → QueryOutcome β) :
    (Program.ofExcept (outcome >>= next) : StorageProgram shards QueryFault β) =
      Program.ofExcept outcome >>= fun value => Program.ofExcept (next value) := by
  cases outcome <;> rfl

/-- A statement that ends by queueing operations is about to have their effect. -/
theorem carries_performs
    {command : TableCommand}
    {after : RowMap}
    {program : StorageProgram shards Fault (List (WriteTicket shards))}
    (performs : Performs program store after)
    (depicts : Depicts catalog after (command.apply tables))
    (rest : Binds) :
    Carries catalog tables
      ((internally program >>= fun tickets =>
        return ⟨.void, tickets, rest⟩).run answer store)
      (.ok command) := by
  obtain ⟨tickets, sent, ran, refines, awaits⟩ := performs
  have ranInside : (internally program).run answer store = (.ok tickets, sent) :=
    (run_mapFailure_eq_ok answer).mpr ran
  rw [run_bind_of_ok answer ranInside]
  exact ⟨_, rfl, after, refines, awaits, depicts⟩

/-- So is one that ends by queueing a single operation. -/
theorem carries_queues
    {command : TableCommand}
    {after : RowMap}
    {program : StorageProgram shards Fault (WriteTicket shards)}
    (performs : Performs (program >>= fun ticket => return [ticket]) store after)
    (depicts : Depicts catalog after (command.apply tables))
    (rest : Binds) :
    Carries catalog tables
      ((internally program >>= fun ticket =>
        return ⟨.void, [ticket], rest⟩).run answer store)
      (.ok command) := by
  obtain ⟨tickets, sent, ran, refines, awaits⟩ := performs
  obtain ⟨ticket, middle, ranFirst, same⟩ := (run_bind_eq_ok answer).mp ran
  cases same
  have ranInside : (internally program).run answer store = (.ok ticket, sent) :=
    (run_mapFailure_eq_ok answer).mpr ranFirst
  rw [run_bind_of_ok answer ranInside]
  exact ⟨_, rfl, after, refines, awaits, depicts⟩

section Writes

variable
  (roundTrips : json.RoundTrips)
  (halves : hexDecode.Halves)
  (sound : catalog.Sound)
  (keyed : catalog.Keyed)
  (serves : Serves json catalog store)
  (represents : Represents store rows)
  (depicts : Depicts catalog rows tables)
  {sessionKs : Option String}
  {binds : Binds}

/-- The cells of an UPDATE are those of a merged row, unless it counts a key column. -/
theorem updatedCells_row
    (sound : catalog.Sound)
    (depicts : Depicts catalog rows tables)
    (serves : Serves json catalog store)
    (represents : Represents store rows)
    {table : TableDef}
    {address : RowAddress}
    (exists_ : catalog.tables address.toTableName = some table)
    {key : List Value}
    (held : List.Forall₂ table.KeyHolds table.keyNames key)
    (keyParts : key.map Value.rawBytes = address.keyParts)
    {newValues : List (Nat × Value)}
    (assigned : AssignedStorable table newValues)
    {names : List String}
    (found :
      List.Forall₂ (fun name index => table.columnIndex name = some index)
        names (newValues.map Prod.fst))
    (notCounted :
      ¬ (coversAllRegular table newValues = true ∧
        ∃ index ∈ newValues.map Prod.fst, index ∉ table.regularIndexes)) :
    ∃ (row : TableRow table) (after : Storage shards),
      (updatedCells address.keyspace table newValues address.keyParts).run answer
            store =
          (.ok (table.cells row.valueOf), after) ∧
        Represents after rows ∧
        row.keyValues = key ∧
        row.value =
          mergedRow table.keyNames key (names.zip (newValues.map Prod.snd))
            (tables address.keyspace address.table key) := by
  have wellFormed := sound.wellFormed _ _ exists_
  have columnsFit := sound.columnsFit _ _ exists_
  obtain ⟨existing, stored, underKey⟩ :=
    exists_existing serves represents sound exists_
  obtain ⟨row, isKey, merges, isMerged⟩ :=
    exists_mergedRow wellFormed columnsFit held assigned found existing
  obtain ⟨read, previous, readKept⟩ := represents.getRow address
  rw [← sound.named _ _ exists_] at previous
  have earlier :
      ∀ bytes,
        rows address = some bytes →
        ∃ valueOf,
          table.Holds valueOf ∧
            bytes = encodeRowColumns (table.cells valueOf) := by
    intro bytes isStored
    rw [stored] at isStored
    obtain ⟨old, _, rfl⟩ := Option.map_eq_some_iff.mp isStored
    exact ⟨old.valueOf, old.held, rfl⟩
  obtain ⟨cells, mergesToo, _, ran⟩ :=
    exists_updatedCells columnsFit assigned earlier notCounted previous
  rw [stored] at mergesToo
  cases merges.symm.trans mergesToo
  have isRow := depicts.lookup sound exists_ rfl held keyParts stored underKey
  rw [isRow]
  rcases ran with ran | ran
  · exact ⟨row, store, ran, represents, isKey, isMerged⟩
  · exact ⟨row, read, ran, readKept, isKey, isMerged⟩

/-- Writing a row sets it under its key. -/
theorem putRow_carries
    (sound : catalog.Sound)
    (represents : Represents store rows)
    (depicts : Depicts catalog rows tables)
    {table : TableDef}
    {address : RowAddress}
    (exists_ : catalog.tables address.toTableName = some table)
    {row : TableRow table}
    (ofRow : row.keyParts = address.keyParts)
    {command : TableCommand}
    (sets :
      command.apply tables =
        tables.set address.keyspace table.name row.keyValues (some row.value))
    (rest : Binds) :
    Carries catalog tables
      ((internally
          (putRow address.keyspace table.name row.keyParts row.bytes) >>=
        fun ticket => return ⟨.void, [ticket], rest⟩).run answer store)
      (.ok command) := by
  have named := sound.named _ _ exists_
  rw [named] at sets ⊢
  rw [ofRow]
  refine carries_queues
    (represents.performs_queueRow (setsRow_put address row.bytes)
      (fun entries key => setsRow_put address row.bytes entries key)
      (run_bind_of_ok answer (putRow_run represents.isOpen address row.bytes)))
    ?_ rest
  have underKey :
      ∀ other, some row = some other → other.keyValues = row.keyValues := by
    rintro _ ⟨⟩
    rfl
  rw [sets]
  exact depicts.set sound exists_ rfl row.keysHeld ofRow underKey

include roundTrips sound keyed serves represents depicts

include halves in
/-- An INSERT puts its row. -/
theorem execInsert_carries
    (ins : Insert)
    (fits : Statement.Fits catalog hexDecode sessionKs binds (.insert ins)) :
    Carries catalog tables
      ((execInsert json hexDecode sessionKs ins binds).run answer store)
      (ins.command catalog hexDecode sessionKs binds) := by
  obtain ⟨middle, resolves, servesMiddle, kept⟩ :=
    resolveTable_run_serving roundTrips serves represents sessionKs ins.tableName
  have shows := kept.willShow depicts
  refine .after resolves shows ?_
  rintro ⟨keyspace, table⟩ resolved
  refine .after (run_ofExcept answer _ _) shows fun _ _ => ?_
  refine .after (run_ofExcept answer _ _) shows ?_
  rintro ⟨keyParts, cells, rest⟩ planned
  obtain ⟨owner, rfl, _, exists_⟩ := Catalog.owner_of_resolve resolved
  obtain ⟨row, rfl, sameBytes, isKey, isRow⟩ :=
    ins.exists_row halves (sound.wellFormed owner table exists_) fits.1 planned
      (fits.2 _ _ resolved _ _ _ planned)
  have nonempty := (keyed.addressable sound exists_).nonempty row.keysHeld
  let address : RowAddress :=
    ⟨owner, row.keyParts, mt List.map_eq_nil_iff.mp nonempty, row.partsFit⟩
  have here : catalog.tables address.toTableName = some table := exists_
  dsimp only
  rw [← sameBytes]
  refine putRow_carries sound kept depicts here rfl ?_ rest
  rw [isKey, isRow]
  rfl

/-- A DELETE removes the row under its key. -/
theorem execDelete_carries
    (halves : hexDecode.Halves)
    (del : Delete)
    (fits : del.KeyFits catalog hexDecode sessionKs binds) :
    Carries catalog tables
      ((execDelete json hexDecode sessionKs del binds).run answer store)
      (del.command catalog hexDecode sessionKs binds) := by
  obtain ⟨middle, resolves, servesMiddle, kept⟩ :=
    resolveTable_run_serving roundTrips serves represents sessionKs del.tableName
  have shows := kept.willShow depicts
  refine .after resolves shows ?_
  rintro ⟨keyspace, table⟩ resolved
  refine .after (run_ofExcept answer _ _) shows fun _ _ => ?_
  refine .after (run_ofExcept answer _ _) shows ?_
  rintro ⟨keyParts, rest⟩ planned
  obtain ⟨owner, rfl, _, exists_⟩ := Catalog.owner_of_resolve resolved
  have partsFit := fits.2.2 _ _ resolved _ _ planned
  obtain ⟨filters, parsed, fixed⟩ := planDelete_eq_ok planned
  have fitTable := parseFilters_fitTable halves fits.1 fits.2.1 parsed
  obtain ⟨held, sameParts⟩ := fixedKey_held fitTable fixed partsFit
  have nonempty :=
    (keyed.addressable sound exists_).nonempty
      (pointKey_eq_some.mp (keyPartsFromFilters_eq_ok.mp fixed))
  let address : RowAddress := ⟨owner, keyParts, nonempty, partsFit⟩
  have named := sound.named owner table exists_
  rw [parsed]
  change
    Carries catalog tables
      ((internally (deleteRow owner.keyspace table.name keyParts) >>= fun ticket =>
        return ⟨.void, [ticket], rest⟩).run answer middle)
      (.ok (.remove owner.keyspace table.name (fixedKey table filters)))
  rw [named]
  refine carries_queues
    (kept.performs_queueRow (setsRow_delete address)
      (fun entries key => setsRow_delete address entries key)
      (run_bind_of_ok answer (deleteRow_run kept.isOpen address)))
    ?_ rest
  have noRow :
      ∀ row : TableRow table,
        none = some row → row.keyValues = fixedKey table filters := by
    rintro _ ⟨⟩
  exact depicts.set sound exists_ rfl held sameParts noRow

/-- An UPDATE merges its values into the row under its key. -/
theorem execUpdate_carries
    (halves : hexDecode.Halves)
    (upd : Update)
    (fits : Statement.Fits catalog hexDecode sessionKs binds (.update upd)) :
    Carries catalog tables
      ((execUpdate json hexDecode sessionKs upd binds).run answer store)
      (upd.command catalog hexDecode sessionKs binds) := by
  obtain ⟨middle, resolves, servesMiddle, kept⟩ :=
    resolveTable_run_serving roundTrips serves represents sessionKs upd.tableName
  have shows := kept.willShow depicts
  refine .after resolves shows ?_
  rintro ⟨keyspace, table⟩ resolved
  refine .after (run_ofExcept answer _ _) shows fun _ _ => ?_
  simp only [planUpdate, ofExcept_bind, Program.bind_assoc]
  refine .after (run_ofExcept answer _ _) shows ?_
  rintro ⟨newValues, next⟩ assigned
  refine .after (run_ofExcept answer _ _) shows ?_
  rintro ⟨filters, rest⟩ parsed
  refine .after (run_ofExcept answer _ _) shows fun keyParts fixed => ?_
  have planned :
      planUpdate hexDecode table upd binds = .ok (newValues, keyParts, rest) := by
    simp only [planUpdate, assigned, parsed, fixed, Bind.bind, Except.bind]
    rfl
  obtain ⟨owner, rfl, _, exists_⟩ := Catalog.owner_of_resolve resolved
  have wellFormed := sound.wellFormed owner table exists_
  have partsFit := fits.2 _ _ resolved _ _ _ planned
  have nextFits : next.FitFrame := by
    rw [Binds.FitFrame,
      (assignedValues_storable halves fits.1.1 fits.1.2.2 assigned).2]
    exact fits.1.2.2
  obtain ⟨held, sameParts⟩ :=
    fixedKey_held (parseFilters_fitTable halves fits.1.2.1 nextFits parsed) fixed
      partsFit
  have nonempty :=
    (keyed.addressable sound exists_).nonempty
      (pointKey_eq_some.mp (keyPartsFromFilters_eq_ok.mp fixed))
  let address : RowAddress := ⟨owner, keyParts, nonempty, partsFit⟩
  have here : catalog.tables address.toTableName = some table := exists_
  have named := sound.named owner table exists_
  change
    Carries catalog tables
      ((updatedCells owner.keyspace table newValues keyParts >>= fun cells =>
          internally
            (putRow owner.keyspace table.name keyParts
              (encodeRowColumns cells)) >>= fun ticket =>
          return ⟨.void, [ticket], rest⟩).run answer middle)
      (if upd.CountsKeyAsRegular table then
        .error .panic
      else
        .ok (.merge owner.keyspace table.name table.keyNames
          (fixedKey table filters)
          (upd.assignedNames.zip (newValues.map Prod.snd))))
  by_cases counts : upd.CountsKeyAsRegular table
  · obtain ⟨covers, keyAssigned⟩ :=
      (countsKeyAsRegular_iff wellFormed planned).mp counts
    have panics :
        (updatedCells owner.keyspace table newValues keyParts :
          StorageProgram shards QueryFault _).run answer middle =
          (.error .panic, middle) := by
      rw [updatedCells, if_pos covers, run_ofExcept,
        coveredCells_panics covers keyAssigned]
    rw [if_pos counts, run_bind, panics]
    exact ⟨rfl, shows⟩
  · obtain ⟨row, after, ran, keptAfter, isKey, isMerged⟩ :=
      updatedCells_row sound depicts servesMiddle kept here held sameParts
        (planUpdate_storable halves fits.1 planned) (planUpdate_indexes planned)
        (mt (countsKeyAsRegular_iff wellFormed planned).mpr counts)
    have ofRow : row.keyParts = keyParts := by
      rw [TableRow.keyParts, isKey, sameParts]
    rw [if_neg counts, run_bind_of_ok answer ran, ← ofRow]
    refine putRow_carries sound keptAfter depicts here ofRow ?_ rest
    rw [TableCommand.apply, isKey, isMerged, named]

omit keyed in
/-- A TRUNCATE clears its table. -/
theorem execTruncate_carries (name : FQName) :
    Carries catalog tables
      ((execTruncate json sessionKs name binds).run answer store)
      (truncateCommand catalog sessionKs name) := by
  obtain ⟨middle, resolves, servesMiddle, kept⟩ :=
    resolveTable_run_serving roundTrips serves represents sessionKs name
  have shows := kept.willShow depicts
  refine .after resolves shows ?_
  rintro ⟨keyspace, table⟩ resolved
  refine .after (run_ofExcept answer _ _) shows fun _ _ => ?_
  obtain ⟨owner, rfl, sameTable, exists_⟩ := Catalog.owner_of_resolve resolved
  rw [← sameTable]
  refine carries_performs (kept.performs_removeTable owner) ?_ binds
  rw [TableCommand.apply, sound.named owner table exists_]
  exact depicts.clear sound exists_

end Writes

/-! ## Statements that read -/

section Reads

variable
  (roundTrips : json.RoundTrips)
  (sound : catalog.Sound)
  (keyed : catalog.Keyed)
  (serves : Serves json catalog store)
  (represents : Represents store rows)
  {sessionKs : Option String}
  {binds : Binds}

/-- A statement that keeps the rows ends with its verdict and changes no table. -/
theorem carries_of_kept
    (serves : Serves json catalog store)
    {verdict : QueryOutcome Verdict}
    {program : StorageProgram shards QueryFault (Executed shards)}
    (served : ServesVerdict json catalog verdict program)
    (kept : Represents (program.run answer store).2 rows)
    (noGates : program.Yields fun executed => executed.gates = [])
    (depicts : Depicts catalog rows tables) :
    Carries catalog tables (program.run answer store)
      (verdict.map fun _ => .nothing) := by
  obtain ⟨_, returned, failed⟩ := Guarantees.run served serves
  have shows := kept.willShow depicts
  cases outcome : (program.run answer store).1 with
  | error fault =>
      rw [failed fault outcome]
      exact ⟨outcome, shows⟩
  | ok executed =>
      obtain ⟨said, rfl, _⟩ := returned executed outcome
      refine ⟨executed, outcome, ?_⟩
      rw [noGates.run outcome]
      exact shows

include roundTrips sound keyed serves represents

/-- A SELECT keeps the rows. -/
theorem execSelect_kept
    (sel : Select)
    (fits : Statement.Fits catalog hexDecode sessionKs binds (.select sel))
    (pageSize : Option Int32)
    (pagingState : Option Bytes) :
    Represents
      ((execSelect json hexDecode sessionKs sel binds pageSize pagingState).run
        answer store).2
      rows := by
  have looks :
      Serving json catalog
        (missesVirtualTable json sessionKs sel.tableName :
          StorageProgram shards QueryFault Bool)
        (fun _ => True) (fun _ => False) := by
    unfold missesVirtualTable
    split
    · exact .bind (serving_internally (getTable_serving roundTrips _ _))
        fun _ _ => trivial
    · trivial
  obtain ⟨servesMiddle, _⟩ := looks.run serves
  have kept :=
    missesVirtualTable_keepsRows json sessionKs sel.tableName store represents
  rw [execSelect, run_bind]
  rcases looked :
      (missesVirtualTable json sessionKs sel.tableName).run answer store with
    ⟨fault | missed, middle⟩
  · rw [looked] at kept
    exact kept
  · rw [looked] at kept servesMiddle
    cases missed with
    | true =>
        exact kept
    | false =>
        obtain ⟨next, resolves, servesNext, keptNext⟩ :=
          resolveTable_run_serving roundTrips servesMiddle kept sessionKs
            sel.tableName
        dsimp only
        rw [if_neg Bool.false_ne_true, run_bind, resolves]
        cases resolved : catalog.resolve sessionKs sel.tableName with
        | error fault =>
            exact keptNext
        | ok found =>
            obtain ⟨keyspace, table⟩ := found
            obtain ⟨owner, rfl, _, exists_⟩ := Catalog.owner_of_resolve resolved
            exact selectFrom_keepsRows (keyed.addressable sound exists_)
              (fun filters rest parsed keyParts =>
                fits _ _ resolved filters rest keyParts parsed)
              pageSize pagingState next keptNext

end Reads

/-- A SELECT has nothing to await. -/
theorem execSelect_yields
    {sessionKs : Option String}
    {binds : Binds}
    (sel : Select)
    (pageSize : Option Int32)
    (pagingState : Option Bytes) :
    (execSelect json hexDecode sessionKs sel binds pageSize pagingState :
      StorageProgram shards QueryFault (Executed shards)).Yields
        fun executed => executed.gates = [] := by
  refine Yields.bind _ fun missed => ?_
  cases missed with
  | true =>
      exact rfl
  | false =>
      refine Yields.bind _ fun resolved => ?_
      refine Yields.bind _ fun selected => ?_
      refine Yields.bind _ fun parsed => ?_
      dsimp only
      split
      · trivial
      · exact Yields.bind _ fun found => rfl

/-- The filters of the statement fit a frame, and the key of a DELETE its fields. -/
def Statement.FiltersFit
    (catalog : Catalog)
    (hexDecode : HexDecode)
    (sessionKs : Option String)
    (binds : Binds) :
    Statement →
    Prop
  | .delete del =>
      del.KeyFits catalog hexDecode sessionKs binds
  | .select sel =>
      (∀ relation ∈ sel.whereClause, relation.FitsFrame) ∧ binds.FitFrame
  | _ =>
      True

/-- A statement that leaves the catalog alone is carried out as its command says. -/
theorem executeStatement_carries
    (roundTrips : json.RoundTrips)
    (halves : hexDecode.Halves)
    (sound : catalog.Sound)
    (keyed : catalog.Keyed)
    (serves : Serves json catalog store)
    (represents : Represents store rows)
    (depicts : Depicts catalog rows tables)
    {sessionKs : Option String}
    {binds : Binds}
    {statement : Statement}
    (leaves :
      (statement.verdict? catalog hexDecode sessionKs binds).isSome = true)
    (fits : statement.Fits catalog hexDecode sessionKs binds)
    (filtersFit : statement.FiltersFit catalog hexDecode sessionKs binds)
    (pageSize : Option Int32)
    (pagingState : Option Bytes) :
    Carries catalog tables
      ((executeStatement json hexDecode sessionKs binds pageSize pagingState
        statement).run answer store)
      (statement.command catalog hexDecode sessionKs binds) := by
  cases statement with
  | use identifier =>
      refine carries_of_kept serves (execUse_serving roundTrips identifier)
        (execUse_keepsRows json identifier binds store represents) ?_ depicts
      refine Yields.bind _ fun found => ?_
      cases found <;> trivial
  | insert ins =>
      exact execInsert_carries roundTrips halves sound keyed serves represents
        depicts ins fits
  | select sel =>
      refine carries_of_kept serves
        (execSelect_serving roundTrips sound sel fits pageSize pagingState)
        (execSelect_kept roundTrips sound keyed serves represents sel fits pageSize
          pagingState)
        ?_ depicts
      exact execSelect_yields sel pageSize pagingState
  | delete del =>
      exact execDelete_carries roundTrips sound keyed serves represents depicts
        halves del filtersFit
  | update upd =>
      exact execUpdate_carries roundTrips sound keyed serves represents depicts
        halves upd fits
  | truncate name =>
      exact execTruncate_carries roundTrips sound serves represents depicts name
  | other shortName =>
      exact ⟨rfl, represents.willShow depicts⟩
  | createKeyspace create =>
      cases leaves
  | createTable create =>
      cases leaves
  | dropTable drop =>
      cases leaves
  | dropKeyspace drop =>
      cases leaves

/-! ## Settled requests -/

/-- What a request does to the tables. -/
def Request.command
    (catalog : Catalog)
    (hexDecode : HexDecode)
    (request : Request) :
    QueryOutcome TableCommand :=
  request.statement.command catalog hexDecode request.sessionKs
    (.new request.values)

/-- The tables after a request; one that fails changes nothing. -/
noncomputable def Request.apply
    (catalog : Catalog)
    (hexDecode : HexDecode)
    (tables : Tables)
    (request : Request) :
    Tables :=
  match request.command catalog hexDecode with
  | .error _ =>
      tables
  | .ok command =>
      command.apply tables

/-- The request leaves the catalog alone and fits its formats, filters included. -/
def Request.ActsOnTables
    (catalog : Catalog)
    (hexDecode : HexDecode)
    (request : Request) :
    Prop :=
  request.LeavesCatalog catalog hexDecode ∧
    request.statement.FiltersFit catalog hexDecode request.sessionKs
      (.new request.values)

/-- The tickets that a response waits for. -/
def pendingGates : QueryOutcome (Executed shards) → List (WriteTicket shards)
  | .error _ =>
      []
  | .ok executed =>
      executed.gates

/-- A request together with the thread steps taken until it is answered. -/
structure SettledRequest (shards : Nat) where
  request : Request
  schedule : List (Fin shards × PipelineLabel)

/-- Run a request, then the threads, until all of its tickets have completed. -/
def settledRequest?
    (json : CatalogJson)
    (hexDecode : HexDecode)
    (store : Storage shards)
    (step : SettledRequest shards) :
    Option (Storage shards) :=
  let ended := (step.request.program json hexDecode).run answer store
  (run? backgroundStep? ended.2 step.schedule).bind fun settled =>
    if (pendingGates ended.1).all settled.isComplete then
      some settled
    else
      none

/-- The tables after a sequence of requests. -/
noncomputable def tablesAfter
    (catalog : Catalog)
    (hexDecode : HexDecode)
    (tables : Tables)
    (steps : List (SettledRequest shards)) :
    Tables :=
  steps.foldl (fun tables step => step.request.apply catalog hexDecode tables)
    tables

/-- Background threads keep the store serving its catalog. -/
theorem Serves.settles
    {final : Storage shards}
    {schedule : List (Fin shards × PipelineLabel)}
    (serves : Serves json catalog store)
    (ran : run? backgroundStep? store schedule = some final) :
    Serves json catalog final := by
  induction schedule generalizing store with
  | nil =>
      cases ran
      exact serves
  | cons step rest inductionHypothesis =>
      simp only [run?, Option.bind_eq_some_iff] at ran
      obtain ⟨middle, first, later⟩ := ran
      unfold backgroundStep? at first
      split at first
      · rename_i background
        obtain ⟨pipeline, taken, rfl⟩ := Option.map_eq_some_iff.mp first
        exact inductionHypothesis
          (serves.thread (Bool.and_eq_true_iff.mp background).1 taken) later
      · cases first

namespace Request

variable
  (roundTrips : json.RoundTrips)
  (halves : hexDecode.Halves)
  (sound : catalog.Sound)
  (keyed : catalog.Keyed)
  {request : Request}
  (acts : request.ActsOnTables catalog hexDecode)

include roundTrips halves sound acts

/-- The store serves its catalog once a request has run. -/
theorem serves_run (serves : Serves json catalog store) :
    Serves json catalog
      ((request.program json hexDecode).run answer store).2 := by
  obtain ⟨verdict, judged⟩ := Option.isSome_iff_exists.mp acts.1.1
  exact (Guarantees.run
    (executeStatement_serving roundTrips halves sound judged acts.1.2 _ _)
    serves).1

include keyed

/-- Once a request has run the store will show the tables after it. -/
theorem willShow_run (shows : Shows json catalog store tables) :
    WillShow catalog ((request.program json hexDecode).run answer store).2
      (request.apply catalog hexDecode tables)
      (pendingGates ((request.program json hexDecode).run answer store).1) := by
  obtain ⟨serves, rows, represents, depicts⟩ := shows
  have carries :
      Carries catalog tables ((request.program json hexDecode).run answer store)
        (request.command catalog hexDecode) :=
    executeStatement_carries roundTrips halves sound keyed serves represents depicts
      acts.1.1 acts.1.2 acts.2 _ _
  unfold Request.apply
  cases isCommand : request.command catalog hexDecode with
  | error fault =>
      rw [isCommand] at carries
      rw [carries.1]
      exact carries.2
  | ok command =>
      rw [isCommand] at carries
      obtain ⟨executed, outcome, shows⟩ := carries
      rw [outcome]
      exact shows

/-- A settled request leaves a store that shows the tables after it. -/
theorem shows_settled
    (shows : Shows json catalog store tables)
    {schedule : List (Fin shards × PipelineLabel)}
    {next : Storage shards}
    (taken : settledRequest? json hexDecode store ⟨request, schedule⟩ = some next) :
    Shows json catalog next (request.apply catalog hexDecode tables) := by
  obtain ⟨rows, refines, awaits, depicts⟩ :=
    willShow_run roundTrips halves sound keyed acts shows
  obtain ⟨settled, background, done⟩ := Option.bind_eq_some_iff.mp taken
  split at done
  · rename_i complete
    cases done
    exact ⟨(serves_run roundTrips halves sound acts shows.1).settles background,
      rows, refines.settle awaits (refines.isOpen.settles background) complete,
      depicts⟩
  · cases done

/-- Every request can be settled. -/
theorem exists_settled (shows : Shows json catalog store tables) :
    ∃ schedule next,
      settledRequest? json hexDecode store ⟨request, schedule⟩ = some next := by
  obtain ⟨rows, refines, awaits, _⟩ :=
    willShow_run roundTrips halves sound keyed acts shows
  obtain ⟨schedule, final, background, complete⟩ :=
    refines.isOpen.exists_completion awaits.accepted
  exact ⟨schedule, final, Option.bind_eq_some_iff.mpr
    ⟨final, background, if_pos complete⟩⟩

end Request

end RhydaDB
