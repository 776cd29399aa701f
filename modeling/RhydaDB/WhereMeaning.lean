import RhydaDB.ClusteringOrder
import RhydaDB.SelectColumns
import RhydaDB.WriteFilters

namespace RhydaDB

open ByteStrings AtomicPrograms Storage

/-!
# What WHERE selects

A WHERE clause of `=` and IN selects the rows that pass all its filters.  A
SELECT looks at the row under one key, at the partitions that its filters list,
or at the whole table; whichever plan it takes, the entries it looks at hold
every selected row, and the check behind the plan lets no other row through.
-/

/-! ## Equality of values without floats -/

namespace Value

/-- Lists of values that are equal to those they are compared with. -/
theorem eq_of_eqAllWith
    {firsts seconds : List Value}
    (each :
      ∀ second ∈ seconds,
        ∀ first : Value, first.partialEq second = true → first = second)
    (same : eqAllWith floatEq doubleEq firsts seconds = true) :
    firsts = seconds := by
  induction seconds generalizing firsts with
  | nil =>
      cases firsts with
      | nil =>
          rfl
      | cons first rest =>
          cases same
  | cons second rest inductionHypothesis =>
      cases firsts with
      | nil =>
          cases same
      | cons first others =>
          rw [eqAllWith, Bool.and_eq_true] at same
          rw [each second List.mem_cons_self first same.1,
            inductionHypothesis
              (fun other member => each other (List.mem_cons_of_mem _ member))
              same.2]

/-- Lists of entries whose parts are equal to those they are compared with. -/
theorem eq_of_eqEntriesWith
    {firsts seconds : List (Value × Value)}
    (each :
      ∀ second ∈ seconds,
        ∀ first : Value × Value,
          first.1.partialEq second.1 = true →
          first.2.partialEq second.2 = true →
          first = second)
    (same : eqEntriesWith floatEq doubleEq firsts seconds = true) :
    firsts = seconds := by
  induction seconds generalizing firsts with
  | nil =>
      cases firsts with
      | nil =>
          rfl
      | cons first rest =>
          cases same
  | cons second rest inductionHypothesis =>
      cases firsts with
      | nil =>
          cases same
      | cons first others =>
          rw [eqEntriesWith, Bool.and_eq_true, Bool.and_eq_true] at same
          obtain ⟨⟨sameKey, sameValue⟩, sameRest⟩ := same
          rw [each second List.mem_cons_self first sameKey sameValue,
            inductionHypothesis
              (fun other member => each other (List.mem_cons_of_mem _ member))
              sameRest]

/-- What equals a value without floats is that value. -/
theorem WellTyped.eq_of_partialEq
    {columnType : ColumnType}
    (floatFree : columnType.FloatFree)
    {first second : Value}
    (typed : second.WellTyped columnType)
    (same : first.partialEq second = true) :
    first = second := by
  induction columnType generalizing first second with
  | float =>
      exact floatFree.elim
  | double =>
      exact floatFree.elim
  | set element inductionHypothesis =>
      cases second with
      | set seconds =>
          cases first with
          | set firsts =>
              rw [eq_of_eqAllWith
                (fun item member _ => inductionHypothesis floatFree
                  (typed item member)) same]
          | _ =>
              cases same
      | _ =>
          exact typed.elim
  | list element inductionHypothesis =>
      cases second with
      | list seconds =>
          cases first with
          | list firsts =>
              rw [eq_of_eqAllWith
                (fun item member _ => inductionHypothesis floatFree
                  (typed item member)) same]
          | _ =>
              cases same
      | _ =>
          exact typed.elim
  | map keyType valueType keyHypothesis valueHypothesis =>
      cases second with
      | map seconds =>
          cases first with
          | map firsts =>
              rw [eq_of_eqEntriesWith
                (fun entry member _ sameKey sameValue =>
                  Prod.ext
                    (keyHypothesis floatFree.1 (typed entry member).1 sameKey)
                    (valueHypothesis floatFree.2 (typed entry member).2
                      sameValue))
                same]
          | _ =>
              cases same
      | _ =>
          exact typed.elim
  | _ =>
      cases second <;>
        first
        | exact typed.elim
        | cases first <;> simp_all [partialEq, eqWith]

end Value

/-! ## Rows that pass -/

/-- Two lists beside the same items agree where what stands beside an item does. -/
theorem map_eq_of_forall₂
    {α β γ : Type}
    {items : List α}
    {firsts : List β}
    {seconds : List γ}
    {image : β → γ}
    {firstBeside : α → β → Prop}
    {secondBeside : α → γ → Prop}
    (first : List.Forall₂ firstBeside items firsts)
    (second : List.Forall₂ secondBeside items seconds)
    (agree :
      ∀ item ∈ items,
        ∀ left right,
          firstBeside item left → secondBeside item right → image left = right) :
    firsts.map image = seconds := by
  induction first generalizing seconds with
  | nil =>
      rw [List.forall₂_nil_left_iff.mp second]
      rfl
  | @cons item left items lefts here _ inductionHypothesis =>
      obtain ⟨right, rights, beside, others, rfl⟩ :=
        List.forall₂_cons_left_iff.mp second
      rw [List.map_cons, agree item List.mem_cons_self left right here beside,
        inductionHypothesis others fun other member =>
          agree other (List.mem_cons_of_mem _ member)]

/-- The value of a key name is the key value that stands beside it. -/
theorem lookup_zip_nodup
    {names : List String}
    {values : List Value}
    {related : String → Value → Prop}
    (distinct : names.Nodup)
    (beside : List.Forall₂ related names values) :
    List.Forall₂ (fun name value => (names.zip values).lookup name = some value)
      names values := by
  induction beside with
  | nil =>
      exact .nil
  | @cons name value names values _ _ inductionHypothesis =>
      obtain ⟨new, others⟩ := List.nodup_cons.mp distinct
      have later :
          List.Forall₂
            (fun other value =>
              other ∈ names ∧ (names.zip values).lookup other = some value)
            names values :=
        (List.forall₂_and_left _ _).mpr
          ⟨fun _ member => member, inductionHypothesis others⟩
      refine .cons (by simp) (later.imp ?_)
      rintro other found ⟨member, here⟩
      have differs : (other == name) = false :=
        beq_eq_false_iff_ne.mpr fun same => new (same ▸ member)
      rw [List.zip_cons_cons, List.lookup_cons, differs]
      exact here

namespace TableRow

variable {table : TableDef}

/-- In a well-formed table the key columns have the row's key values. -/
theorem values_keyNames
    (wellFormed : table.WellFormed)
    (row : TableRow table) :
    List.Forall₂
      (fun name value => table.KeyHolds name value ∧ row.value name = value)
      table.keyNames row.keyValues := by
  have found := lookup_zip_nodup wellFormed.keysNodup row.keysHeld
  refine List.Forall₂.mp (fun name keyValue holds here => ?_) row.keysHeld found
  refine ⟨holds, ?_⟩
  rw [value, here]
  rfl

end TableRow

section Listed

variable {table : TableDef} {filters : List Filter}

/-- The filters list every part that they let pass for a column without floats. -/
theorem mem_listedParts
    {columnType : ColumnType}
    (floatFree : columnType.FloatFree)
    {row : TableRow table}
    {name : String}
    (typed : (row.value name).WellTyped columnType)
    (restricted : filters.any (·.restricts name) = true)
    (passes : ∀ filter ∈ filters, filter.Passes row) :
    (row.value name).rawBytes ∈ listedParts filters name := by
  obtain ⟨filter, member, restricts⟩ := List.any_eq_true.mp restricted
  have passed := passes filter member
  refine List.mem_flatMap.mpr ⟨filter, member, ?_⟩
  cases filter with
  | eq column value =>
      cases beq_iff_eq.mp restricts
      have same := typed.eq_of_partialEq floatFree passed
      simp [same]
  | isIn column values =>
      cases beq_iff_eq.mp restricts
      obtain ⟨value, isListed, equal⟩ := passed
      have same := typed.eq_of_partialEq floatFree equal
      simp only [if_true]
      exact List.mem_map.mpr ⟨value, isListed, by rw [same]⟩

/-- Every combination of listed parts is a listed partition. -/
theorem mem_listedPartitions
    {names : List String}
    {partition : List Bytes}
    (listed :
      List.Forall₂ (fun name part => part ∈ listedParts filters name) names
        partition) :
    partition ∈ listedPartitions filters names := by
  induction names using List.reverseRecOn generalizing partition with
  | nil =>
      rw [List.forall₂_nil_left_iff.mp listed]
      exact List.mem_singleton_self _
  | append_singleton names name inductionHypothesis =>
      have isCombo := List.forall₂_take names.length listed
      have isLast := List.forall₂_drop names.length listed
      rw [List.take_left] at isCombo
      rw [List.drop_left] at isLast
      obtain ⟨part, rest, isPart, noMore, lastShape⟩ :=
        List.forall₂_cons_left_iff.mp isLast
      cases List.forall₂_nil_left_iff.mp noMore
      rw [listedPartitions, List.foldl_append,
        ← List.take_append_drop names.length partition, lastShape]
      exact List.mem_flatMap.mpr
        ⟨_, inductionHypothesis isCombo, List.mem_map_of_mem isPart⟩

end Listed

/-! ## The entries that a plan looks at -/

/-- No float occurs in the type of a key column. -/
def TableDef.KeysFloatFree (table : TableDef) : Prop :=
  ∀ column ∈ table.columns,
    column.name ∈ table.keyNames → column.colType.FloatFree

/-- The row map holds the row under its key. -/
def RowMap.Stores
    (rows : RowMap)
    (keyspace : String)
    {table : TableDef}
    (row : TableRow table) :
    Prop :=
  ∃ address : RowAddress,
    address.keyspace = keyspace ∧
      address.table = table.name ∧
      address.keyParts = row.keyParts ∧
      rows address = some row.bytes

/-- What a WHERE clause selects: the stored rows that pass all its filters. -/
def RowMap.selects
    (rows : RowMap)
    (keyspace : String)
    (table : TableDef)
    (filters : List Filter) :
    Set (TableRow table) :=
  {row | rows.Stores keyspace row ∧ ∀ filter ∈ filters, filter.Passes row}

section Entries

variable
  {shards : Nat} [NeZero shards]
  {store : Storage shards}
  {rows : RowMap}
  {name : TableName}
  {table : TableDef}
  (ofTable : name.table = table.name)
  {filters : List Filter}

include ofTable

omit [NeZero shards] in
/-- The address of a stored row. -/
theorem RowMap.Stores.exists_address
    {row : TableRow table}
    (stored : rows.Stores name.keyspace row) :
    ∃ address : RowAddress,
      address.toTableName = name ∧
        address.keyParts = row.keyParts ∧
        address.key = row.key name.keyspace ∧
        rows address = some row.bytes := by
  obtain ⟨address, sameKeyspace, sameTable, sameParts, here⟩ := stored
  refine ⟨address,
    TableName.ext_names sameKeyspace (sameTable.trans ofTable.symm), sameParts,
    ?_, here⟩
  rw [RowAddress.key, TableRow.key, sameKeyspace, sameTable, sameParts]

omit [NeZero shards] in
/-- An entry of a table of rows is a stored row. -/
theorem exists_row_of_isTableEntry
    (holds : rows.HoldsTable name.keyspace table)
    {key bytes : Bytes}
    (isEntry : IsTableEntry rows name key bytes) :
    ∃ row : TableRow table,
      rows.Stores name.keyspace row ∧
        row.key name.keyspace = key ∧ row.bytes = bytes := by
  obtain ⟨address, rfl, rfl, here⟩ := isEntry
  obtain ⟨row, sameParts, rfl⟩ := holds address bytes rfl ofTable here
  refine ⟨row, ⟨address, rfl, ofTable, sameParts.symm, here⟩, ?_, rfl⟩
  rw [RowAddress.key, TableRow.key, ofTable, sameParts]

/-- A plan looks at entries of its table only. -/
theorem isTableEntry_of_plan
    (represents : Represents store rows)
    {key bytes : Bytes}
    (planned : (key, bytes) ∈ planEntries store table name.keyspace filters) :
    IsTableEntry rows name key bytes := by
  unfold planEntries at planned
  rw [← ofTable] at planned
  split at planned
  · obtain ⟨partition, _, inside⟩ := List.mem_flatMap.mp planned
    obtain ⟨under, here⟩ := mem_partitionEntries.mp inside
    have inTable : name.dataPrefix <+: key :=
      (List.prefix_append _ _).trans under
    obtain ⟨address, rfl, _, stored⟩ :=
      (represents.db_eq_some_iff _ (Represents.isData_of_table inTable)).mp here
    exact ⟨address, ((dataPrefix_prefix_key_iff name address).mp inTable).symm,
      rfl, stored⟩
  · exact (represents.mem_tableEntries name key bytes).mp planned

/-- A plan looks at every row that its filters select. -/
theorem mem_planEntries_of_selected
    (represents : Represents store rows)
    (wellFormed : table.WellFormed)
    (keyed : table.partitionKeys ≠ [])
    (floatFree : table.KeysFloatFree)
    {row : TableRow table}
    (selected : row ∈ rows.selects name.keyspace table filters) :
    (row.key name.keyspace, row.bytes) ∈
      planEntries store table name.keyspace filters := by
  obtain ⟨stored, passes⟩ := selected
  obtain ⟨address, sameName, sameParts, sameKey, here⟩ :=
    stored.exists_address ofTable
  unfold planEntries
  rw [← ofTable]
  split
  · rename_i restricted
    have listed :
        List.Forall₂ (fun name part => part ∈ listedParts filters name)
          table.partitionKeys (row.keyParts.take table.partitionKeys.length) := by
      have values :=
        List.forall₂_take table.partitionKeys.length
          (row.values_keyNames wellFormed)
      rw [TableDef.keyNames, List.take_left] at values
      rw [TableRow.keyParts, ← List.map_take, List.forall₂_map_right_iff]
      have members := (List.forall₂_and_left _ _).mpr ⟨fun _ member => member, values⟩
      refine members.imp ?_
      rintro keyName value ⟨isPartition, ⟨column, member, named, typed, _⟩, rfl⟩
      have isKey : column.name ∈ table.keyNames := by
        rw [named]
        exact List.mem_append_left _ isPartition
      exact mem_listedParts (floatFree column member isKey) typed
        (List.all_eq_true.mp restricted keyName isPartition) passes
    have nonempty : row.keyParts.take table.partitionKeys.length ≠ [] := by
      intro empty
      rw [empty] at listed
      exact keyed (List.forall₂_nil_right_iff.mp listed)
    have fits : PartsFit (row.keyParts.take table.partitionKeys.length) :=
      fun part member => row.partsFit part (List.mem_of_mem_take member)
    refine List.mem_flatMap.mpr ⟨_, mem_listedPartitions listed, ?_⟩
    refine (represents.mem_partitionEntries name nonempty fits _ _).mpr ?_
    exact ⟨address, sameName, sameParts ▸ List.take_prefix _ _, sameKey, here⟩
  · exact (represents.mem_tableEntries name _ _).mpr
      ⟨address, sameName, sameKey, here⟩

end Entries

/-! ## The rows that a plan streams -/

/-- Without a null among them, `=` filters fix the key of the rows that pass. -/
theorem TableRow.keyParts_of_pointKey
    {table : TableDef}
    (wellFormed : table.WellFormed)
    (floatFree : table.KeysFloatFree)
    {filters : List Filter}
    {keyParts : List Bytes}
    (isPoint : pointKey table filters = some keyParts)
    {row : TableRow table}
    (passes : ∀ filter ∈ filters, filter.Passes row) :
    row.keyParts = keyParts := by
  refine map_eq_of_forall₂ (row.values_keyNames wellFormed)
    (pointKey_eq_some.mp isPoint) ?_
  rintro name isKey value part ⟨⟨column, member, named, typed, _⟩, rfl⟩
    ⟨fixed, isFixed, _, rfl⟩
  obtain ⟨filter, isFilter, fixes⟩ := List.exists_of_findSome?_eq_some isFixed
  have passed := passes filter isFilter
  have onKey : column.name ∈ table.keyNames := by
    rwa [named]
  cases filter with
  | eq other expected =>
      by_cases same : other = name
      · simp only [if_pos same, Option.some.injEq] at fixes
        rw [same, fixes] at passed
        rw [typed.eq_of_partialEq (floatFree column member onKey) passed]
      · simp only [if_neg same, reduceCtorEq] at fixes
  | isIn other values =>
      cases fixes

/-- A stream of the selected rows: each item is one, and each of them is an item. -/
structure AnswersWhere
    (rows : RowMap)
    (keyspace : String)
    (projection : Projection)
    (filters : List Filter)
    (stream : List (List Value × Bytes) × Option Fault) :
    Prop where
  noFault :
    stream.2 = none
  each :
    ∀ item ∈ stream.1,
      ∃ row ∈ rows.selects keyspace projection.table filters,
        item = (projection.project row.values, row.key keyspace)
  all :
    ∀ row ∈ rows.selects keyspace projection.table filters,
      (projection.project row.values, row.key keyspace) ∈ stream.1

section Streams

variable
  {shards : Nat} [NeZero shards]
  {store : Storage shards}
  {rows : RowMap}
  {name : TableName}
  {projection : Projection}
  (wellFormed : projection.table.WellFormed)
  (columnsFit : projection.table.columns.length ≤ 2 ^ 16)
  {selected : List (String × ColumnType)}
  {filters : List Filter}
  (built : Projection.build projection.table selected filters = some projection)

include wellFormed columnsFit built

omit [NeZero shards] in
/-- Entries that store rows are streamed without a fault. -/
theorem emitted_noFault
    {keyspace : String}
    {entries : List (Bytes × Bytes)}
    (rowsOnly :
      ∀ entry ∈ entries,
        ∃ row : TableRow projection.table,
          rows.Stores keyspace row ∧
            row.key keyspace = entry.1 ∧ row.bytes = entry.2) :
    (emitted projection keyspace entries).2 = none := by
  have resolves := (Projection.resolves_of_build built).2
  induction entries with
  | nil =>
      rfl
  | cons entry rest inductionHypothesis =>
      obtain ⟨key, value⟩ := entry
      obtain ⟨row, _, rfl, rfl⟩ := rowsOnly (key, value) List.mem_cons_self
      have later :=
        inductionHypothesis fun other member =>
          rowsOnly other (List.mem_cons_of_mem _ member)
      rw [emitted, entryRow_row wellFormed columnsFit resolves keyspace row]
      cases projection.accepts row.values with
      | false =>
          exact later
      | true =>
          exact later

omit [NeZero shards] in
/-- Entries of stored rows that include the selected ones stream these. -/
theorem emitted_answers
    {keyspace : String}
    {entries : List (Bytes × Bytes)}
    (rowsOnly :
      ∀ entry ∈ entries,
        ∃ row : TableRow projection.table,
          rows.Stores keyspace row ∧
            row.key keyspace = entry.1 ∧ row.bytes = entry.2)
    (covers :
      ∀ row ∈ rows.selects keyspace projection.table filters,
        (row.key keyspace, row.bytes) ∈ entries) :
    AnswersWhere rows keyspace projection filters
      (emitted projection keyspace entries) := by
  have resolves := (Projection.resolves_of_build built).2
  have decoded := entryRow_row wellFormed columnsFit resolves keyspace
  have noFault := emitted_noFault wellFormed columnsFit built rowsOnly
  refine ⟨noFault, fun item member => ?_, fun row selected => ?_⟩
  · obtain ⟨value, isEntry, passed⟩ := exists_entry_of_emitted member
    obtain ⟨row, stored, sameKey, sameBytes⟩ := rowsOnly _ isEntry
    simp only at sameKey sameBytes
    rw [← sameKey, ← sameBytes, decoded row] at passed
    cases accepted : projection.accepts row.values with
    | false =>
        rw [accepted] at passed
        cases passed
    | true =>
        rw [accepted] at passed
        refine ⟨row, ⟨stored, (accepts_values_iff built row).mp accepted⟩, ?_⟩
        exact Prod.ext (Option.some.inj (Except.ok.inj passed)).symm sameKey.symm
  · refine mem_emitted noFault (covers row selected) ?_
    rw [decoded row, (accepts_values_iff built row).mpr selected.2]
    rfl

variable
  (ofTable : name.table = projection.table.name)
  (keyed : projection.table.partitionKeys ≠ [])
  (floatFree : projection.table.KeysFloatFree)
  (represents : Represents store rows)
  (holds : rows.HoldsTable name.keyspace projection.table)

include ofTable keyed floatFree represents holds

/-- A scan streams the selected rows. -/
theorem scan_answers :
    AnswersWhere rows name.keyspace projection filters
      (emitted projection name.keyspace
        (planEntries store projection.table name.keyspace filters)) := by
  refine emitted_answers wellFormed columnsFit built (fun entry member => ?_)
    fun row selected => ?_
  · exact exists_row_of_isTableEntry ofTable holds
      (isTableEntry_of_plan ofTable represents member)
  · exact mem_planEntries_of_selected ofTable represents wellFormed keyed
      floatFree selected

/-- So does a lookup of one row. -/
theorem point_answers
    (fitTable : ∀ filter ∈ filters, filter.FitsTable projection.table)
    {keyParts : List Bytes}
    (isPoint : pointKey projection.table filters = some keyParts)
    (fits : PartsFit keyParts) :
    AnswersWhere rows name.keyspace projection filters
      (pointRows projection name.keyspace keyParts
        (((getRow name.keyspace projection.table.name keyParts).run answer
          store).1.toOption.join)) := by
  have resolves := (Projection.resolves_of_build built).2
  have sameLength := (pointKey_eq_some.mp isPoint).length_eq
  have nonempty : keyParts ≠ [] := by
    rintro rfl
    rw [TableDef.keyNames, List.length_append, List.length_nil] at sameLength
    exact keyed (List.length_eq_zero_iff.mp (Nat.eq_zero_of_add_eq_zero_right sameLength))
  let address : RowAddress := ⟨name, keyParts, nonempty, fits⟩
  obtain ⟨_, looked, _⟩ := represents.getRow address
  have onlyHere :
      ∀ row ∈ rows.selects name.keyspace projection.table filters,
        row.keyParts = keyParts ∧ rows address = some row.bytes := by
    rintro row ⟨stored, passes⟩
    have sameParts :=
      row.keyParts_of_pointKey wellFormed floatFree isPoint passes
    obtain ⟨other, sameName, otherParts, _, here⟩ :=
      stored.exists_address ofTable
    have isAddress : other = address :=
      RowAddress.ext_parts sameName (otherParts.trans sameParts)
    exact ⟨sameParts, isAddress ▸ here⟩
  rw [show address.table = projection.table.name from ofTable] at looked
  rw [looked]
  cases found : rows address with
  | none =>
      refine ⟨rfl, fun item member => (List.not_mem_nil member).elim, ?_⟩
      intro row selected
      cases found.symm.trans (onlyHere row selected).2
  | some bytes =>
      obtain ⟨row, sameParts, rfl⟩ := holds address bytes rfl ofTable found
      have stored : rows.Stores name.keyspace row :=
        ⟨address, rfl, ofTable, sameParts.symm, found⟩
      have theRow :
          ∀ other ∈ rows.selects name.keyspace projection.table filters,
            other.key name.keyspace = row.key name.keyspace ∧
              other.values = row.values := by
        intro other selected
        obtain ⟨otherParts, here⟩ := onlyHere other selected
        have parts : other.keyParts = row.keyParts := by
          rw [otherParts, sameParts]
        exact ⟨by rw [TableRow.key, TableRow.key, parts],
          TableRow.values_unique wellFormed columnsFit parts
            (Option.some.inj (here.symm.trans found))⟩
      have isPointRow : pointKey projection.table filters = some row.keyParts := by
        rw [isPoint, sameParts]
      have checked :
          (projection.fast || projection.accepts row.values) = true ↔
            ∀ filter ∈ filters, filter.Passes row := by
        rw [← accepts_values_iff built row, Bool.or_eq_true]
        exact ⟨fun either => either.elim
          (fun isFast => accepts_of_fast built wellFormed floatFree fitTable isFast
            isPointRow) id, .inr⟩
      have projected := projectPoint_row wellFormed columnsFit resolves row
      have streamed :
          pointRows projection name.keyspace keyParts (some row.bytes) =
            if projection.fast || projection.accepts row.values then
              ([(projection.project row.values, row.key name.keyspace)], none)
            else
              ([], none) := by
        rw [show keyParts = row.keyParts from sameParts.symm, pointRows, projected]
        cases projection.fast || projection.accepts row.values <;> rfl
      simp only [Except.toOption, Option.join_some, streamed]
      by_cases passes : ∀ filter ∈ filters, filter.Passes row
      · rw [if_pos (checked.mpr passes)]
        refine ⟨rfl, fun item member => ?_, fun other selected => ?_⟩
        · exact ⟨row, ⟨stored, passes⟩, List.mem_singleton.mp member⟩
        · obtain ⟨sameKey, sameValues⟩ := theRow other selected
          rw [sameKey, sameValues]
          exact List.mem_singleton_self _
      · rw [if_neg fun returned => passes (checked.mp returned)]
        refine ⟨rfl, fun item member => (List.not_mem_nil member).elim, ?_⟩
        intro other selected
        have accepted := (accepts_values_iff built other).mpr selected.2
        rw [(theRow other selected).2, accepts_values_iff built row] at accepted
        exact (passes accepted).elim

/-- Every plan streams the selected rows. -/
theorem streamPlan_answers
    (fitTable : ∀ filter ∈ filters, filter.FitsTable projection.table)
    (keyFits :
      ∀ keyParts,
        pointKey projection.table filters = some keyParts → PartsFit keyParts) :
    AnswersWhere rows name.keyspace projection filters
      (streamPlan store projection name.keyspace filters) := by
  unfold streamPlan
  cases isPoint : pointKey projection.table filters with
  | some keyParts =>
      exact point_answers wellFormed columnsFit built ofTable keyed floatFree
        represents holds fitTable isPoint (keyFits keyParts isPoint)
  | none =>
      exact scan_answers wellFormed columnsFit built ofTable keyed floatFree
        represents holds

end Streams

/-! ## SELECT -/

/-- A stream without a fault is cut off at the cap. -/
theorem cappedRows_noFault
    {cap : Nat}
    {stream : List (List Value × Bytes) × Option Fault}
    (noFault : stream.2 = none) :
    cappedRows cap stream =
      .ok ((stream.1.take cap).map Prod.fst, (stream.1.take cap).map Prod.snd,
        none) := by
  unfold cappedRows
  rw [noFault, ite_self]

/-- A lookup of one row streams at most one. -/
theorem length_pointRows_le
    (projection : Projection)
    (keyspace : String)
    (keyParts : List Bytes)
    (existing : Option Bytes) :
    (pointRows projection keyspace keyParts existing).1.length ≤ 1 := by
  unfold pointRows
  split
  · exact Nat.zero_le 1
  · split
    · exact Nat.le_refl 1
    · exact Nat.zero_le 1
    · exact Nat.zero_le 1

/--
A SELECT without paging streams selected rows with the keys they are stored
under, and all of them unless a scan comes to its LIMIT or its cap.
-/
theorem PlannedSelect.streams_selected
    {shards : Nat}
    [NeZero shards]
    {json : CatalogJson}
    {hexDecode : HexDecode}
    {store middle : Storage shards}
    {sessionKs : Option String}
    {sel : Select}
    {binds rest : Binds}
    {name : TableName}
    {selected : List (String × ColumnType)}
    {filters : List Filter}
    {projection : Projection}
    {rows : RowMap}
    (planned :
      PlannedSelect json hexDecode store sessionKs sel binds middle name.keyspace
        selected filters rest projection)
    (ofTable : name.table = projection.table.name)
    (halves : hexDecode.Halves)
    (whereFits : ∀ relation ∈ sel.whereClause, relation.FitsFrame)
    (bindsFit : binds.FitFrame)
    (wellFormed : projection.table.WellFormed)
    (columnsFit : projection.table.columns.length ≤ 2 ^ 16)
    (keyed : projection.table.partitionKeys ≠ [])
    (floatFree : projection.table.KeysFloatFree)
    (keyFits :
      ∀ keyParts,
        pointKey projection.table filters = some keyParts → PartsFit keyParts)
    (represents : Represents middle rows)
    (holds : rows.HoldsTable name.keyspace projection.table) :
    ∃ (items : List (List Value × Bytes)) (final : Storage shards),
      (execSelect json hexDecode sessionKs sel binds none none).run answer
          store =
          (.ok ⟨.rows name.keyspace name.table selected (items.map Prod.fst)
              (items.map Prod.snd) none, [], rest⟩,
            final) ∧
        (∀ item ∈ items,
          ∃ row ∈ rows.selects name.keyspace projection.table filters,
            item =
              ((selected.map Prod.fst).map row.value, row.key name.keyspace)) ∧
        ((pointKey projection.table filters = none →
            items.length < pageLimit none sel.limit) →
          ∀ row ∈ rows.selects name.keyspace projection.table filters,
            ((selected.map Prod.fst).map row.value, row.key name.keyspace) ∈
              items) := by
  have answers :=
    streamPlan_answers wellFormed columnsFit planned.built ofTable keyed floatFree
      represents holds (parseFilters_fitTable halves whereFits bindsFit planned.parsed)
      keyFits
  obtain ⟨final, ran⟩ := planned.execSelect_run
  rw [planRows, cappedRows_noFault answers.noFault, ← ofTable] at ran
  refine ⟨_, final, ran, fun item member => ?_, fun room row isSelected => ?_⟩
  · obtain ⟨row, isSelected, rfl⟩ := answers.each item (List.mem_of_mem_take member)
    exact ⟨row, isSelected, by rw [project_values planned.built row]⟩
  · have whole :
        (streamPlan middle projection name.keyspace filters).1.take
            (if (pointKey projection.table filters).isSome then 1
              else pageLimit none sel.limit) =
          (streamPlan middle projection name.keyspace filters).1 := by
      refine List.take_of_length_le ?_
      cases isPoint : pointKey projection.table filters with
      | some keyParts =>
          rw [streamPlan, isPoint]
          exact length_pointRows_le projection name.keyspace keyParts _
      | none =>
          have fewer := room isPoint
          simp only [isPoint, Option.isSome_none, Bool.false_eq_true, if_false,
            List.length_take] at fewer ⊢
          omega
    rw [whole, ← project_values planned.built row]
    exact answers.all row isSelected

/--
A SELECT without paging succeeds whichever plan it takes and returns rows that
its WHERE clause selects, each with the values of the selected columns; it
returns all of them unless a scan comes to its LIMIT or its cap.
-/
theorem select_answers_where
    {shards : Nat}
    [NeZero shards]
    {json : CatalogJson}
    {hexDecode : HexDecode}
    {store middle : Storage shards}
    {sessionKs : Option String}
    {sel : Select}
    {binds rest : Binds}
    {name : TableName}
    {selected : List (String × ColumnType)}
    {filters : List Filter}
    {projection : Projection}
    {rows : RowMap}
    (planned :
      PlannedSelect json hexDecode store sessionKs sel binds middle name.keyspace
        selected filters rest projection)
    (ofTable : name.table = projection.table.name)
    (halves : hexDecode.Halves)
    (whereFits : ∀ relation ∈ sel.whereClause, relation.FitsFrame)
    (bindsFit : binds.FitFrame)
    (wellFormed : projection.table.WellFormed)
    (columnsFit : projection.table.columns.length ≤ 2 ^ 16)
    (keyed : projection.table.partitionKeys ≠ [])
    (floatFree : projection.table.KeysFloatFree)
    (keyFits :
      ∀ keyParts,
        pointKey projection.table filters = some keyParts → PartsFit keyParts)
    (represents : Represents middle rows)
    (holds : rows.HoldsTable name.keyspace projection.table) :
    ∃ executed outputs sources final,
      (execSelect json hexDecode sessionKs sel binds none none).run answer
          store =
          (.ok executed, final) ∧
        executed.response =
          .rows name.keyspace name.table selected outputs sources none ∧
        List.Forall₂
          (fun output source =>
            ∃ row ∈ rows.selects name.keyspace projection.table filters,
              row.key name.keyspace = source ∧
                output = (selected.map Prod.fst).map row.value)
          outputs sources ∧
        ((pointKey projection.table filters = none →
            sources.length < pageLimit none sel.limit) →
          ∀ row ∈ rows.selects name.keyspace projection.table filters,
            row.key name.keyspace ∈ sources) := by
  obtain ⟨items, final, ran, each, all⟩ :=
    planned.streams_selected ofTable halves whereFits bindsFit wellFormed columnsFit
      keyed floatFree keyFits represents holds
  refine ⟨_, _, _, final, ran, rfl, ?_, fun room row isSelected => ?_⟩
  · rw [List.forall₂_map_left_iff, List.forall₂_map_right_iff, List.forall₂_same]
    intro item member
    obtain ⟨row, isSelected, rfl⟩ := each item member
    exact ⟨row, isSelected, rfl, rfl⟩
  · rw [List.length_map] at room
    exact List.mem_map_of_mem (all room row isSelected)

/-- `SELECT * FROM bench.kv WHERE k = 1 AND v = 'a'` returns the row `(1, 'a')`. -/
theorem select_answers_where_kv :
    ∃ executed outputs sources final,
      (execSelect cachedJson (fun _ => none) none (kvDeleteWhere "'a'").asSelect
            .none none none).run answer kvSingle =
          (.ok executed, final) ∧
        executed.response =
          .rows "bench" "kv" [("k", .int), ("v", .text)] outputs sources none ∧
        List.Forall₂
          (fun output source =>
            ∃ row ∈ kvRows.selects "bench" kvTable
                [.eq "k" (.int 1), .eq "v" (.text "a")],
              row.key "bench" = source ∧
                output = ["k", "v"].map row.value)
          outputs sources ∧
        kvAddress.key ∈ sources := by
  have halves : HexDecode.Halves fun _ => none := by
    intro text bytes decoded
    cases decoded
  have floatFree : kvTable.KeysFloatFree := by
    intro column member _
    simp only [kvTable, List.mem_cons, List.not_mem_nil, or_false] at member
    rcases member with rfl | rfl <;> trivial
  have known : kvSingle.tables ("bench", "kv") = some kvTable := by
    simp [kvSingle, storeHolding, storeWith, kvTable]
  have resolved :
      (resolveTable cachedJson none kvName).run answer kvSingle =
        (.ok ("bench", kvTable), kvSingle) :=
    resolveTable_run_cached (by decide) known
  have planned :
      PlannedSelect cachedJson (fun _ => none) kvSingle none
        (kvDeleteWhere "'a'").asSelect .none kvSingle kvAddress.keyspace
        [("k", .int), ("v", .text)] [.eq "k" (.int 1), .eq "v" (.text "a")] .none
        ⟨kvTable, [0, 1], [(0, .int 1), (1, .text "a")], [], [0]⟩ :=
    ⟨resolved, rfl, rfl, rfl⟩
  have bindsFit : Binds.none.FitFrame := by
    simp [Binds.FitFrame, Binds.none, Binds.new]
  have represents : Represents kvSingle kvRows :=
    represents_storeHolding kvTable kvAddress rfl rfl kvRow.bytes
  have isPoint :
      pointKey kvTable [.eq "k" (.int 1), .eq "v" (.text "a")] =
        some [[0, 0, 0, 1]] := by
    decide +kernel
  have keyFits :
      ∀ keyParts,
        pointKey kvTable [.eq "k" (.int 1), .eq "v" (.text "a")] =
            some keyParts →
          PartsFit keyParts := by
    intro keyParts isKey
    cases isPoint.symm.trans isKey
    decide
  obtain ⟨executed, outputs, sources, final, ran, response, sound, complete⟩ :=
    select_answers_where planned rfl halves kvWhere_fits bindsFit
      (by decide +kernel) (by decide) (by decide) floatFree keyFits represents
      kvRows_holdsTable
  have stored : kvRows.Stores "bench" kvRow :=
    ⟨kvAddress, rfl, rfl, rfl, by rw [kvRows, Function.update_self]⟩
  have found :=
    complete (fun noPoint => by cases isPoint.symm.trans noPoint) kvRow
      ⟨stored, kvRow_passes rfl rfl⟩
  exact ⟨executed, outputs, sources, final, ran, response, sound, found⟩

end RhydaDB
