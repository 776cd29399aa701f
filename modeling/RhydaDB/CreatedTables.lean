import RhydaDB.CatalogIntegrity
import RhydaDB.WellFormedTables

namespace RhydaDB

open ByteStrings

/-!
# Definitions that CREATE TABLE accepts

`build_table_def` takes the key flags from inline markers and from the key
clause, the key lists from the clause alone unless it is empty, and compares
none of them.  A definition is therefore as good as its statement: it is
well-formed exactly when the declared names are distinct, the clause names
distinct declared columns, and the inline markers say nothing else.
-/

namespace CreateTable

/-- The stored names of the declared columns. -/
def columnNames (create : CreateTable) : List String :=
  create.columns.map fun definition => normId definition.name

/-- The stored names of the partition part of the key clause. -/
def partitionNames (create : CreateTable) : List String :=
  ((create.key.map fun key => key.partition).getD []).map normId

/-- The stored names of the clustering part of the key clause. -/
def clusteringNames (create : CreateTable) : List String :=
  ((create.key.map fun key => key.clustering).getD []).map normId

/-- The stored names of the columns marked inline. -/
def markedNames (create : CreateTable) : List String :=
  (create.columns.filter fun definition => definition.primaryKey).map
    fun definition => normId definition.name

/-- The statement declares each name once and says one thing about each column. -/
structure Coherent (create : CreateTable) : Prop where
  columnsDistinct :
    create.columnNames.Nodup
  clauseDistinct :
    (create.partitionNames ++ create.clusteringNames).Nodup
  clauseDeclared :
    ∀ name ∈ create.partitionNames ++ create.clusteringNames,
      name ∈ create.columnNames
  markersAgree :
    ∀ name ∈ create.markedNames,
      (create.partitionNames = [] ∨ name ∈ create.partitionNames) ∧
        name ∉ create.clusteringNames
  columnsFit :
    create.columns.length ≤ 2 ^ 16

/-- The coherence of a concrete statement can be evaluated. -/
instance decidableCoherent (create : CreateTable) : Decidable create.Coherent :=
  decidable_of_iff
    (create.columnNames.Nodup ∧
      (create.partitionNames ++ create.clusteringNames).Nodup ∧
      (∀ name ∈ create.partitionNames ++ create.clusteringNames,
        name ∈ create.columnNames) ∧
      (∀ name ∈ create.markedNames,
        (create.partitionNames = [] ∨ name ∈ create.partitionNames) ∧
          name ∉ create.clusteringNames) ∧
      create.columns.length ≤ 2 ^ 16)
    ⟨fun facts =>
      ⟨facts.1, facts.2.1, facts.2.2.1, facts.2.2.2.1, facts.2.2.2.2⟩,
    fun coherent =>
      ⟨coherent.columnsDistinct, coherent.clauseDistinct,
        coherent.clauseDeclared, coherent.markersAgree, coherent.columnsFit⟩⟩

/-- In a coherent statement only a marked column has a marked name. -/
theorem Coherent.marked_of_name
    {create : CreateTable}
    (coherent : create.Coherent)
    {declared : ColumnDefinition}
    (isDeclared : declared ∈ create.columns)
    (marked : normId declared.name ∈ create.markedNames) :
    declared.primaryKey = true := by
  obtain ⟨other, member, sameName⟩ := List.mem_map.mp marked
  obtain ⟨otherDeclared, otherMarked⟩ := List.mem_filter.mp member
  have same :=
    List.inj_on_of_nodup_map coherent.columnsDistinct otherDeclared isDeclared
      sameName
  rwa [← same]

end CreateTable

section Built

variable
  {keyspace tableName : String}
  {create : CreateTable}
  {definition : TableDef}

/-- A declared column becomes this column of the definition. -/
structure DeclaresAs
    (create : CreateTable)
    (declared : ColumnDefinition)
    (column : ColumnDef) :
    Prop where
  name :
    column.name = normId declared.name
  isPartitionKey :
    column.isPartitionKey =
      (declared.primaryKey || create.partitionNames.contains column.name)
  isClustering :
    column.isClustering =
      (!column.isPartitionKey && create.clusteringNames.contains column.name)

/-- The lists of a built definition, in terms of its statement. -/
structure BuiltFrom (create : CreateTable) (definition : TableDef) : Prop where
  columns :
    List.Forall₂ (DeclaresAs create) create.columns definition.columns
  partitionKeys :
    definition.partitionKeys =
      if create.partitionNames = [] then
        create.markedNames
      else
        create.partitionNames
  clusteringKeys :
    definition.clusteringKeys = create.clusteringNames

/-- A built column carries its name and the flags of both sources. -/
theorem buildColumnDef_declaresAs
    {declared : ColumnDefinition}
    {column : ColumnDef}
    (built :
      buildColumnDef create.partitionNames create.clusteringNames declared =
        some column) :
    DeclaresAs create declared column := by
  unfold buildColumnDef at built
  obtain ⟨_, _, same⟩ := Option.bind_eq_some_iff.mp built
  cases same
  exact ⟨rfl, rfl, rfl⟩

/-- Without a partition part the flagged columns are the marked ones. -/
theorem flaggedNames_eq_markedNames
    (noClause : create.partitionNames = [])
    {declared : List ColumnDefinition}
    {columns : List ColumnDef}
    (declares : List.Forall₂ (DeclaresAs create) declared columns) :
    (columns.filter (·.isPartitionKey)).map (·.name) =
      (declared.filter fun definition => definition.primaryKey).map
        fun definition => normId definition.name := by
  induction declares with
  | nil =>
      rfl
  | @cons first column _ _ declaresFirst _ inductionHypothesis =>
      have flag : column.isPartitionKey = first.primaryKey := by
        rw [declaresFirst.isPartitionKey, noClause]
        simp
      rw [List.filter_cons, List.filter_cons, flag]
      split
      · rw [List.map_cons, List.map_cons, declaresFirst.name,
          inductionHypothesis]
      · exact inductionHypothesis

/-- What a built definition is made of. -/
theorem buildTableDef_builtFrom
    (built : buildTableDef keyspace tableName create = some definition) :
    BuiltFrom create definition := by
  unfold buildTableDef at built
  obtain ⟨columns, mapped, same⟩ := Option.bind_eq_some_iff.mp built
  cases same
  have declares : List.Forall₂ (DeclaresAs create) create.columns columns :=
    (Fallible.mapM_eq_some.mp mapped).imp fun _ _ => buildColumnDef_declaresAs
  refine ⟨declares, ?_, rfl⟩
  by_cases noClause : create.partitionNames = []
  · rw [if_pos noClause]
    exact (if_pos (List.isEmpty_iff.mpr noClause)).trans
      (flaggedNames_eq_markedNames noClause declares)
  · rw [if_neg noClause]
    exact if_neg (mt List.isEmpty_iff.mp noClause)

namespace BuiltFrom

variable (from_ : BuiltFrom create definition)

include from_

/-- The definition's columns have the declared names. -/
theorem columnNames : definition.columnNames = create.columnNames := by
  have declares := from_.columns
  unfold TableDef.columnNames CreateTable.columnNames
  generalize create.columns = declared at declares
  generalize definition.columns = columns at declares
  induction declares with
  | nil =>
      rfl
  | cons declaresFirst _ inductionHypothesis =>
      rw [List.map_cons, List.map_cons, declaresFirst.name, inductionHypothesis]

/-- Each column of the definition was declared. -/
theorem exists_declared
    {column : ColumnDef}
    (member : column ∈ definition.columns) :
    ∃ declared ∈ create.columns, DeclaresAs create declared column := by
  obtain ⟨index, here⟩ := List.mem_iff_getElem?.mp member
  obtain ⟨inside, same⟩ := List.getElem?_eq_some_iff.mp here
  have lengths := from_.columns.length_eq
  refine ⟨create.columns[index], List.getElem_mem _, ?_⟩
  have declares := List.forall₂_iff_get.mp from_.columns
  rw [← same]
  exact declares.2 index (by omega) inside

/-- Each declared column is one of the definition's. -/
theorem exists_column
    {declared : ColumnDefinition}
    (member : declared ∈ create.columns) :
    ∃ column ∈ definition.columns, DeclaresAs create declared column := by
  obtain ⟨index, here⟩ := List.mem_iff_getElem?.mp member
  obtain ⟨inside, same⟩ := List.getElem?_eq_some_iff.mp here
  have lengths := from_.columns.length_eq
  refine ⟨definition.columns[index], List.getElem_mem _, ?_⟩
  have declares := List.forall₂_iff_get.mp from_.columns
  rw [← same]
  exact declares.2 index inside (by omega)

/-- A marked name stands in the definition's partition key unless a clause hides it. -/
theorem marked_flagged
    {name : String}
    (marked : name ∈ create.markedNames) :
    ∃ column ∈ definition.columns,
      column.name = name ∧ column.isPartitionKey = true := by
  obtain ⟨declared, member, rfl⟩ := List.mem_map.mp marked
  obtain ⟨isDeclared, isMarked⟩ := List.mem_filter.mp member
  obtain ⟨column, isColumn, declares⟩ := from_.exists_column isDeclared
  exact ⟨column, isColumn, declares.name,
    by rw [declares.isPartitionKey, isMarked, Bool.true_or]⟩

/-- A well-formed definition comes from a coherent statement. -/
theorem coherent
    (wellFormed : definition.WellFormed)
    (fits : definition.columns.length ≤ 2 ^ 16) :
    create.Coherent := by
  have keysNodup := wellFormed.keysNodup
  have keysNamed := wellFormed.keysNamed
  rw [TableDef.keyNames, from_.clusteringKeys] at keysNodup keysNamed
  have clause :
      create.partitionNames = [] ∨
        definition.partitionKeys = create.partitionNames := by
    by_cases noClause : create.partitionNames = []
    · exact .inl noClause
    · exact .inr (from_.partitionKeys.trans (if_neg noClause))
  refine ⟨?_, ?_, ?_, ?_, ?_⟩
  · rw [← from_.columnNames]
    exact wellFormed.namesNodup
  · rcases clause with noClause | same
    · rw [noClause]
      exact (List.nodup_append.mp keysNodup).2.1
    · rwa [← same]
  · rw [← from_.columnNames]
    rcases clause with noClause | same
    · rw [noClause]
      intro name isNamed
      exact keysNamed name (List.mem_append_right _ isNamed)
    · rwa [← same]
  · intro name marked
    obtain ⟨column, isColumn, rfl, flagged⟩ := from_.marked_flagged marked
    have isKey := (wellFormed.partitionFlag column isColumn).mp flagged
    refine ⟨?_, ?_⟩
    · rcases clause with noClause | same
      · exact .inl noClause
      · exact .inr (same ▸ isKey)
    · intro isClustering
      exact (List.nodup_append.mp keysNodup).2.2 _ isKey _ isClustering rfl
  · rw [from_.columns.length_eq]
    exact fits

/-- A coherent statement gives a well-formed definition. -/
theorem wellFormed (coherent : create.Coherent) : definition.WellFormed := by
  obtain ⟨partitionNodup, clusteringNodup, apart⟩ :=
    List.nodup_append.mp coherent.clauseDistinct
  have markedDeclared : create.markedNames.Sublist create.columnNames :=
    List.filter_sublist.map _
  -- the key lists, with and without a partition part of the clause
  have keys :
      definition.keyNames.Nodup ∧
        (∀ name ∈ definition.keyNames, name ∈ create.columnNames) ∧
        ∀ name ∈ create.markedNames, name ∈ definition.partitionKeys := by
    rw [TableDef.keyNames, from_.clusteringKeys, from_.partitionKeys]
    split
    · refine ⟨List.nodup_append.mpr ⟨coherent.columnsDistinct.sublist
        markedDeclared, clusteringNodup, ?_⟩, ?_, fun _ marked => marked⟩
      · rintro name marked _ isClustering rfl
        exact (coherent.markersAgree name marked).2 isClustering
      · intro name isKey
        rcases List.mem_append.mp isKey with marked | isClustering
        · exact markedDeclared.subset marked
        · exact coherent.clauseDeclared name
            (List.mem_append_right _ isClustering)
    · rename_i hasClause
      refine ⟨coherent.clauseDistinct, coherent.clauseDeclared, ?_⟩
      intro name marked
      exact (coherent.markersAgree name marked).1.resolve_left hasClause
  have notClustering :
      ∀ column ∈ definition.columns,
        column.isPartitionKey = true → column.name ∉ create.clusteringNames := by
    intro column member flagged isClustering
    obtain ⟨declared, isDeclared, declares⟩ := from_.exists_declared member
    rw [declares.isPartitionKey, Bool.or_eq_true] at flagged
    rcases flagged with marked | inClause
    · have isMarked : normId declared.name ∈ create.markedNames :=
        List.mem_map_of_mem (List.mem_filter.mpr ⟨isDeclared, marked⟩)
      rw [← declares.name] at isMarked
      exact (coherent.markersAgree _ isMarked).2 isClustering
    · exact apart _ (List.contains_iff_mem.mp inClause) _ isClustering rfl
  refine ⟨?_, ?_, keys.1, ?_, ?_⟩
  · rw [from_.columnNames]
    exact coherent.columnsDistinct
  · rw [from_.columnNames]
    exact keys.2.1
  · intro column member
    obtain ⟨declared, isDeclared, declares⟩ := from_.exists_declared member
    constructor
    · intro flagged
      rw [declares.isPartitionKey, Bool.or_eq_true] at flagged
      rcases flagged with marked | inClause
      · rw [declares.name]
        exact keys.2.2 _
          (List.mem_map_of_mem (List.mem_filter.mpr ⟨isDeclared, marked⟩))
      · have named := List.contains_iff_mem.mp inClause
        rw [from_.partitionKeys, if_neg (List.ne_nil_of_mem named)]
        exact named
    · intro isKey
      rw [declares.isPartitionKey, Bool.or_eq_true]
      rw [from_.partitionKeys] at isKey
      split at isKey
      · rw [declares.name] at isKey
        exact .inl (coherent.marked_of_name isDeclared isKey)
      · exact .inr (List.contains_iff_mem.mpr isKey)
  · intro column member
    obtain ⟨declared, isDeclared, declares⟩ := from_.exists_declared member
    rw [declares.isClustering, from_.clusteringKeys, Bool.and_eq_true,
      Bool.not_eq_true', List.contains_iff_mem]
    constructor
    · intro flagged
      exact flagged.2
    · intro isClustering
      refine ⟨?_, isClustering⟩
      by_contra flagged
      exact notClustering column member (by simpa using flagged) isClustering

end BuiltFrom

end Built

/-- A select list element reports the name of a column. -/
def SelectElement.ReportsColumn (table : TableDef) : SelectElement → Prop
  | .column name aliased =>
      normId (aliased.getD name) ∈ table.columnNames
  | _ =>
      True

/--
The lookups by name that later statements unwrap.

The mirror unwraps the position of a flagged column in its key list.  A SELECT
unwraps the index of every reported name, filter and key name; its aliases are
names too, so they have to be names of columns here.
-/
structure TableDef.Unwraps (table : TableDef) : Prop where
  mirror :
    ∀ column ∈ table.columns, columnRole table column ≠ .error .panic
  select :
    ∀ (hexDecode : HexDecode) (sel : Select) (binds rest : Binds)
      (selected : List (String × ColumnType)) (filters : List Filter),
      selectColumns table sel.columns = .ok selected →
      parseFilters hexDecode table sel.whereClause binds = .ok (filters, rest) →
      (∀ element ∈ sel.columns, element.ReportsColumn table) →
      Projection.build table selected filters ≠ none

/-- The names that a select list reports are names of columns. -/
theorem selectColumns_named
    {table : TableDef}
    {elements : List SelectElement}
    {selected : List (String × ColumnType)}
    (accepted : selectColumns table elements = .ok selected)
    (reports : ∀ element ∈ elements, element.ReportsColumn table) :
    ∀ entry ∈ selected, entry.1 ∈ table.columnNames := by
  obtain ⟨chosen, mapped, same⟩ := Fallible.map_eq_ok.mp accepted
  intro entry member
  rw [← same] at member
  split at member
  · obtain ⟨column, isColumn, rfl⟩ := List.mem_map.mp member
    exact List.mem_map_of_mem isColumn
  · obtain ⟨found, isChosen, rfl⟩ := List.mem_filterMap.mp member
    obtain ⟨index, here⟩ := List.mem_iff_getElem?.mp isChosen
    obtain ⟨inside, atIndex⟩ := List.getElem?_eq_some_iff.mp here
    have pairs := List.forall₂_iff_get.mp (Fallible.mapM_eq_ok.mp mapped)
    have reported := reports (elements[index]) (List.getElem_mem (by omega))
    have step := pairs.2 index (by omega) inside
    simp only [List.get_eq_getElem, atIndex] at step
    cases element : elements[index] with
    | star =>
        simp [element, selectColumn] at step
    | function text =>
        simp [element, selectColumn] at step
    | column name aliased =>
        rw [element] at step reported
        simp only [selectColumn] at step
        split at step
        · cases step
          exact reported
        · cases step

namespace TableDef.WellFormed

variable {table : TableDef} (wellFormed : table.WellFormed)

include wellFormed

/-- The mirror finds the position of every key column. -/
theorem columnRole_ne_panic
    {column : ColumnDef}
    (member : column ∈ table.columns) :
    columnRole table column ≠ .error .panic := by
  unfold columnRole
  split
  · rename_i flagged
    have isKey := (wellFormed.partitionFlag column member).mp flagged
    cases position : table.partitionKeys.idxOf? column.name with
    | some index =>
        simp
    | none =>
        exact absurd isKey (List.idxOf?_eq_none_iff.mp position)
  · split
    · rename_i flagged
      have isKey := (wellFormed.clusteringFlag column member).mp flagged
      cases position : table.clusteringKeys.idxOf? column.name with
      | some index =>
          simp
      | none =>
          exact absurd isKey (List.idxOf?_eq_none_iff.mp position)
    · simp

/-- On a well-formed table the unwrapped lookups succeed. -/
theorem unwraps : table.Unwraps := by
  refine ⟨fun column member => wellFormed.columnRole_ne_panic member, ?_⟩
  intro hexDecode sel binds rest selected filters accepted parsed reports
  obtain ⟨projection, built⟩ :=
    Projection.exists_build wellFormed.keysNamed (parseFilters_named parsed)
      (selectColumns_named accepted reports)
  rw [built]
  exact Option.some_ne_none projection

end TableDef.WellFormed

/--
An accepted definition is well-formed, fits the row index and keeps the lookups
of later statements from panicking exactly when its statement is coherent.
-/
theorem created_table_wellFormed_iff
    {keyspace tableName : String}
    {create : CreateTable}
    {definition : TableDef}
    (planned : planCreateTable keyspace tableName create = .ok definition) :
    (definition.WellFormed ∧
        definition.columns.length ≤ 2 ^ 16 ∧
        definition.Unwraps) ↔
      create.Coherent := by
  obtain ⟨_, built, _⟩ := planCreateTable_eq_ok planned
  have from_ := buildTableDef_builtFrom built
  constructor
  · rintro ⟨wellFormed, fits, _⟩
    exact from_.coherent wellFormed fits
  · intro coherent
    have wellFormed := from_.wellFormed coherent
    refine ⟨wellFormed, ?_, wellFormed.unwraps⟩
    rw [← from_.columns.length_eq]
    exact coherent.columnsFit

/-- `CREATE TABLE t (a int PRIMARY KEY, b int, PRIMARY KEY (b))`. -/
def markedBesideClause : CreateTable where
  ifNotExists := false
  name := ⟨none, .unquoted "t"⟩
  columns :=
    [⟨.unquoted "a", ⟨.int, []⟩, true⟩, ⟨.unquoted "b", ⟨.int, []⟩, false⟩]
  key := some ⟨[.unquoted "b"], []⟩

/-- The definition it is accepted with: both columns are flagged, one is a key. -/
def markedBesideClauseTable : TableDef where
  keyspace := "app"
  name := "t"
  columns := [⟨"a", .int, true, false⟩, ⟨"b", .int, true, false⟩]
  partitionKeys := ["b"]
  clusteringKeys := []

/-- A marker beside a clause that names another column makes the mirror panic. -/
theorem marked_beside_clause_panics :
    planCreateTable "app" "t" markedBesideClause = .ok markedBesideClauseTable ∧
      ¬ markedBesideClauseTable.WellFormed ∧
      columnRole markedBesideClauseTable ⟨"a", .int, true, false⟩ =
        .error .panic := by
  decide +kernel

/-- `CREATE TABLE t (k int, c text, v blob, PRIMARY KEY (k, c))`. -/
def clusteredTable : CreateTable where
  ifNotExists := false
  name := ⟨none, .unquoted "t"⟩
  columns :=
    [⟨.unquoted "k", ⟨.int, []⟩, false⟩, ⟨.unquoted "c", ⟨.text, []⟩, false⟩,
      ⟨.unquoted "v", ⟨.blob, []⟩, false⟩]
  key := some ⟨[.unquoted "k"], [.unquoted "c"]⟩

/-- A key clause over declared columns gives a well-formed table. -/
theorem created_table_wellFormed_iff_clustered :
    ∃ definition,
      planCreateTable "app" "t" clusteredTable = .ok definition ∧
        clusteredTable.Coherent ∧
        definition.WellFormed := by
  have coherent : clusteredTable.Coherent := by
    decide +kernel
  obtain ⟨definition, planned⟩ :
      ∃ definition,
        planCreateTable "app" "t" clusteredTable = .ok definition :=
    ⟨_, rfl⟩
  exact ⟨definition, planned, coherent,
    ((created_table_wellFormed_iff planned).mpr coherent).1⟩

end RhydaDB
