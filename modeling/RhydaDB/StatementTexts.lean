import RhydaDB.BindMetadata
import RhydaDB.ErrorTexts

namespace RhydaDB

open ByteStrings Fallible

/-!
# The texts a rejected statement is quoted with

A statement is checked piece by piece, and the first piece that is rejected is
quoted.  For each check this module states when its error can be reported; a
piece is looked at only if those before it were accepted.
-/

/-- An identifier that is looked up by its name and can be reported. -/
def ColumnFits (table : TableDef) (identifier : Identifier) : Prop :=
  table.column (normId identifier) = none →
    Quotable 22 [normId identifier]

/-- An identifier resolves to an index just if it resolves to a column. -/
theorem TableDef.resolveIndex_eq_none
    {table : TableDef}
    {identifier : Identifier} :
    table.resolveIndex identifier = none ↔ table.resolve identifier = none := by
  simp [resolveIndex, resolve]

/-- A name has an index just if it has a column. -/
theorem TableDef.columnIndex_eq_none
    {table : TableDef}
    {name : String} :
    table.columnIndex name = none ↔ table.column name = none := by
  simp [columnIndex, column]

/-- The index an identifier resolves to holds a column. -/
theorem TableDef.getElem?_resolveIndex
    {table : TableDef}
    {identifier : Identifier}
    {index : Nat}
    (found : table.resolveIndex identifier = some index) :
    ∃ column,
      table.columns[index]? = some column ∧
        table.resolve identifier = some column := by
  obtain ⟨bound, _, _⟩ := List.findIdx?_eq_some_iff_getElem.mp found
  have atIndex := List.getElem?_eq_getElem bound
  exact ⟨_, atIndex, resolve_of_resolveIndex found atIndex⟩

section Checks

variable {hexDecode : HexDecode}

/-! ## INSERT -/

/-- A supplied value that can be reported if it is rejected. -/
def SuppliedFits
    (hexDecode : HexDecode)
    (table : TableDef)
    (supplied : Identifier × Operand) :
    Prop :=
  match table.resolve supplied.1 with
  | none =>
      Quotable 22 [normId supplied.1]
  | some column =>
      OperandFits hexDecode supplied.2 column.colType

/-- The supplied values fit in turn. -/
def SuppliedFit
    (hexDecode : HexDecode)
    (table : TableDef)
    (supplied : List (Identifier × Operand))
    (binds : Binds) :
    Prop :=
  InTurn
    (fun binds supplied later =>
      ∃ column value,
        table.resolve supplied.1 = some column ∧
          operandToValue hexDecode supplied.2 column binds = .ok (value, later))
    (fun _ => SuppliedFits hexDecode table) supplied binds

/-- Placing the values fails with a reportable error just if they fit. -/
theorem resolveValues_reportable
    (table : TableDef)
    (supplied : List (Identifier × Operand))
    (resolved : List (Option Value))
    (binds : Binds) :
    FailsWith QueryFault.Reportable
        (resolveValues hexDecode table supplied resolved binds) ↔
      SuppliedFit hexDecode table supplied binds := by
  induction supplied generalizing resolved binds with
  | nil =>
      exact iff_of_true (.ok _) trivial
  | cons first rest inductionHypothesis =>
      obtain ⟨identifier, operand⟩ := first
      rw [resolveValues, SuppliedFit, InTurn, SuppliedFits]
      cases found : table.resolveIndex identifier with
      | none =>
          rw [TableDef.resolveIndex_eq_none.mp found]
          refine (failsWith_quoting (quoting_last (by decide))).trans
            (and_iff_left ?_).symm
          rintro later ⟨column, _, isColumn, _⟩
          cases isColumn
      | some index =>
          obtain ⟨column, atIndex, isColumn⟩ :=
            TableDef.getElem?_resolveIndex found
          simp only [atIndex, isColumn]
          refine FailsWith.bind_iff.trans
            (and_congr (operandToValue_reportable operand column binds) ?_)
          constructor
          · rintro each later ⟨_, value, ⟨⟩, accepted⟩
            exact (inductionHypothesis _ later).mp
              (each (value, later) accepted)
          · rintro each ⟨value, later⟩ accepted
            exact (inductionHypothesis _ later).mpr
              (each later ⟨column, value, rfl, accepted⟩)

/-- A null key column is reported by its name. -/
theorem nonNull_reportable (value : Value) (name : String) :
    FailsWith QueryFault.Reportable
        (if value.partialEq .null then
          .error (invalidErr s!"Invalid null value for key part {name}")
        else
          .ok value.rawBytes) ↔
      (value.partialEq .null = true → Quotable 32 [name]) := by
  split
  · rename_i isNull
    rw [imp_iff_right isNull]
    exact failsWith_quoting (quoting_last (by decide))
  · rename_i notNull
    exact iff_of_true (.ok _) fun isNull => absurd isNull notNull

/-- A key column's supplied value that can be reported if it is rejected. -/
def KeySuppliedFits
    (table : TableDef)
    (resolved : List (Option Value))
    (name : String) :
    Prop :=
  ∀ index,
    table.columnIndex name = some index →
    match resolved.getD index none with
    | none =>
        Quotable 28 [name]
    | some value =>
        value.partialEq .null = true → Quotable 32 [name]

/-- A key column fails with a reportable error just if it fits. -/
theorem insertKeyPart_reportable
    (table : TableDef)
    (resolved : List (Option Value))
    (name : String) :
    FailsWith QueryFault.Reportable (insertKeyPart table resolved name) ↔
      KeySuppliedFits table resolved name := by
  unfold insertKeyPart KeySuppliedFits
  cases table.columnIndex name with
  | none =>
      exact iff_of_true (.error (by decide)) (by simp)
  | some index =>
      simp only [Option.some.injEq, forall_eq']
      cases resolved.getD index none with
      | none =>
          exact failsWith_quoting (quoting_last (by decide))
      | some value =>
          exact nonNull_reportable value name

/-- The key columns' supplied values fit in turn. -/
def KeysSuppliedFit (table : TableDef) (resolved : List (Option Value)) : Prop :=
  InTurn
    (fun _ name _ => ∃ part, insertKeyPart table resolved name = .ok part)
    (fun _ => KeySuppliedFits table resolved) table.keyNames ()

/-- An INSERT that can be reported if it is rejected at its table. -/
def InsertFits
    (hexDecode : HexDecode)
    (table : TableDef)
    (ins : Insert)
    (binds : Binds) :
    Prop :=
  ∀ operands,
    ins.values = .values operands →
    ins.columns.length = operands.length →
    SuppliedFit hexDecode table (ins.columns.zip operands) binds ∧
      ∀ resolved later,
        resolveValues hexDecode table (ins.columns.zip operands)
            (List.replicate table.columns.length none) binds =
          .ok (resolved, later) →
        KeysSuppliedFit table resolved

/-- Planning an INSERT fails with a reportable error just if it fits. -/
theorem planInsert_reportable
    (table : TableDef)
    (ins : Insert)
    (binds : Binds) :
    FailsWith QueryFault.Reportable (planInsert hexDecode table ins binds) ↔
      InsertFits hexDecode table ins binds := by
  unfold planInsert InsertFits
  cases ins.values with
  | json text =>
      exact iff_of_true (.error (by decide)) (by simp)
  | values operands =>
      simp only [InsertValues.values.injEq, forall_eq']
      by_cases sameLength : ins.columns.length = operands.length
      · simp only [sameLength, ne_eq, not_true_eq_false, if_false, forall_const]
        refine FailsWith.bind_iff.trans
          (and_congr (resolveValues_reportable table _ _ binds) ?_)
        constructor
        · intro each resolved later accepted
          exact (FailsWith.mapM_iff (insertKeyPart_reportable table resolved)).mp
            (FailsWith.bind_iff.mp (each (resolved, later) accepted)).1
        · rintro each ⟨resolved, later⟩ accepted
          refine ((FailsWith.mapM_iff
            (insertKeyPart_reportable table resolved)).mpr
              (each resolved later accepted)).bind fun keyParts _ => ?_
          exact .ok _
      · simp only [sameLength, ne_eq, not_false_eq_true, if_true, false_implies,
          iff_true]
        exact .error (by decide)

/-! ## Restrictions of the key -/

/-- The fixed value of a key column that can be reported if it is rejected. -/
def KeyFixedFits (filters : List Filter) (name : String) : Prop :=
  match eqValue filters name with
  | none =>
      Quotable 41 [name]
  | some value =>
      value.partialEq .null = true → Quotable 32 [name]

/-- The fixed values of the key columns fit in turn. -/
def KeysFixedFit (table : TableDef) (filters : List Filter) : Prop :=
  InTurn
    (fun _ name _ => ∃ part, keyPartFromFilters filters name = .ok part)
    (fun _ => KeyFixedFits filters) table.keyNames ()

/-- A fixed key column fails with a reportable error just if it fits. -/
theorem keyPartFromFilters_reportable
    (filters : List Filter)
    (name : String) :
    FailsWith QueryFault.Reportable (keyPartFromFilters filters name) ↔
      KeyFixedFits filters name := by
  unfold keyPartFromFilters KeyFixedFits
  cases eqValue filters name with
  | none =>
      exact failsWith_quoting (quoting_last (by decide))
  | some value =>
      exact nonNull_reportable value name

/-- A WHERE clause that has to fix the key fits. -/
def WhereFits
    (hexDecode : HexDecode)
    (table : TableDef)
    (relations : List RelationElement)
    (binds : Binds) :
    Prop :=
  RelationsFit hexDecode table relations binds ∧
    ∀ filters later,
      parseFilters hexDecode table relations binds = .ok (filters, later) →
      KeysFixedFit table filters

/-- Fixing the key fails with a reportable error just if the clause fits. -/
theorem fixedKey_reportable
    {α : Type}
    (table : TableDef)
    (relations : List RelationElement)
    (binds : Binds)
    (result : List Bytes → Binds → α) :
    FailsWith QueryFault.Reportable (do
        let (filters, later) ← parseFilters hexDecode table relations binds
        let keyParts ← keyPartsFromFilters table filters
        return result keyParts later) ↔
      WhereFits hexDecode table relations binds := by
  refine FailsWith.bind_iff.trans
    (and_congr (parseFilters_reportable table relations binds) ?_)
  constructor
  · intro each filters later accepted
    exact (FailsWith.mapM_iff (keyPartFromFilters_reportable filters)).mp
      (FailsWith.bind_iff.mp (each (filters, later) accepted)).1
  · rintro each ⟨filters, later⟩ accepted
    exact ((FailsWith.mapM_iff (keyPartFromFilters_reportable filters)).mpr
      (each filters later accepted)).bind fun keyParts _ => .ok _

/-- Planning a DELETE fails with a reportable error just if its clause fits. -/
theorem planDelete_reportable
    (table : TableDef)
    (del : Delete)
    (binds : Binds) :
    FailsWith QueryFault.Reportable (planDelete hexDecode table del binds) ↔
      (del.columns = [] → WhereFits hexDecode table del.whereClause binds) := by
  unfold planDelete
  split
  · rename_i hasColumns
    exact iff_of_true (.error (by decide))
      fun none => absurd none hasColumns
  · rename_i noColumns
    rw [imp_iff_right (not_not.mp noColumns)]
    exact fixedKey_reportable table del.whereClause binds fun keyParts later =>
      (keyParts, later)

/-! ## UPDATE -/

/-- An assignment that can be reported if it is rejected. -/
def AssignmentFits
    (hexDecode : HexDecode)
    (table : TableDef)
    (assignment : AssignmentElement) :
    Prop :=
  assignment.operator = none →
    match table.column (normId assignment.column) with
    | none =>
        Quotable 22 [normId assignment.column]
    | some column =>
        OperandFits hexDecode assignment.value column.colType

/-- The assignments fit in turn. -/
def AssignmentsFit
    (hexDecode : HexDecode)
    (table : TableDef)
    (assignments : List AssignmentElement)
    (binds : Binds) :
    Prop :=
  InTurn
    (fun binds assignment later =>
      assignment.operator = none ∧
        ∃ column value,
          table.column (normId assignment.column) = some column ∧
            operandToValue hexDecode assignment.value column binds =
              .ok (value, later))
    (fun _ => AssignmentFits hexDecode table) assignments binds

/-- Reading the assignments fails with a reportable error just if they fit. -/
theorem assignedValues_reportable
    (table : TableDef)
    (assignments : List AssignmentElement)
    (binds : Binds) :
    FailsWith QueryFault.Reportable
        (assignedValues hexDecode table assignments binds) ↔
      AssignmentsFit hexDecode table assignments binds := by
  induction assignments generalizing binds with
  | nil =>
      exact iff_of_true (.ok _) trivial
  | cons assignment rest inductionHypothesis =>
      rw [assignedValues, AssignmentsFit, InTurn, AssignmentFits]
      cases operator : assignment.operator with
      | some operand =>
          refine iff_of_true (.error (by decide)) ⟨by simp, ?_⟩
          rintro later ⟨⟨⟩, _⟩
      | none =>
          simp only [Option.isSome_none, Bool.false_eq_true, if_false,
            forall_const, true_and]
          cases found : table.column (normId assignment.column) with
          | none =>
              refine (failsWith_quoting (quoting_last (by decide))).trans
                (and_iff_left ?_).symm
              rintro later ⟨column, _, isColumn, _⟩
              cases isColumn
          | some column =>
              have indexed :
                  table.columnIndex (normId assignment.column) ≠ none := by
                rw [ne_eq, TableDef.columnIndex_eq_none, found]
                exact Option.some_ne_none column
              obtain ⟨index, atIndex⟩ := Option.ne_none_iff_exists'.mp indexed
              rw [atIndex]
              refine FailsWith.bind_iff.trans
                (and_congr (operandToValue_reportable _ column binds) ?_)
              constructor
              · rintro each later ⟨_, value, ⟨⟩, accepted⟩
                exact (inductionHypothesis later).mp
                  (FailsWith.bind_iff.mp (each (value, later) accepted)).1
              · rintro each ⟨value, later⟩ accepted
                exact ((inductionHypothesis later).mpr
                  (each later ⟨column, value, rfl, accepted⟩)).bind
                    fun values _ => .ok _

/-- An UPDATE that can be reported if it is rejected at its table. -/
def UpdateFits
    (hexDecode : HexDecode)
    (table : TableDef)
    (upd : Update)
    (binds : Binds) :
    Prop :=
  AssignmentsFit hexDecode table upd.assignments binds ∧
    ∀ values later,
      assignedValues hexDecode table upd.assignments binds = .ok (values, later) →
      WhereFits hexDecode table upd.whereClause later

/-- Planning an UPDATE fails with a reportable error just if it fits. -/
theorem planUpdate_reportable
    (table : TableDef)
    (upd : Update)
    (binds : Binds) :
    FailsWith QueryFault.Reportable (planUpdate hexDecode table upd binds) ↔
      UpdateFits hexDecode table upd binds := by
  refine FailsWith.bind_iff.trans
    (and_congr (assignedValues_reportable table upd.assignments binds) ?_)
  constructor
  · intro each values later accepted
    exact (fixedKey_reportable table upd.whereClause later fun keyParts last =>
      (values, keyParts, last)).mp (each (values, later) accepted)
  · rintro each ⟨values, later⟩ accepted
    exact (fixedKey_reportable table upd.whereClause later fun keyParts last =>
      (values, keyParts, last)).mpr (each values later accepted)

/-- The cells of an update that covers its row fail without a text. -/
theorem coveredCells_reportable
    (table : TableDef)
    (values : List (Nat × Value)) :
    FailsWith QueryFault.Reportable (coveredCells table values) := by
  refine .mapM fun index _ => ?_
  split
  · exact .ok _
  · exact .error trivial

/-- Merging into a stored row fails with an error that can be reported. -/
theorem mergedCells_reportable
    (table : TableDef)
    (values : List (Nat × Value))
    (existing : Option Bytes) :
    FailsWith QueryFault.Reportable (mergedCells table values existing) := by
  unfold mergedCells
  cases existing with
  | some bytes =>
      refine FailsWith.bind (.mapError fun fault failed => ?_)
        fun row _ => .ok _
      exact Fault.Short.internalErr
        (decodeCells_failsShort table _ _ _ fault failed)
  | none =>
      exact .ok _

/-! ## Metadata -/

/-- A selected column that can be reported if it is rejected. -/
def SelectElementFits (table : TableDef) (element : SelectElement) : Prop :=
  ∀ name aliased, element = .column name aliased → ColumnFits table name

/-- The select list fits in turn. -/
def SelectListFits (table : TableDef) (elements : List SelectElement) : Prop :=
  InTurn
    (fun _ element _ => ∃ selected, selectColumn table element = .ok selected)
    (fun _ => SelectElementFits table) elements ()

/-- A select list fails with a reportable error just if it fits. -/
theorem selectColumns_reportable
    (table : TableDef)
    (elements : List SelectElement) :
    FailsWith QueryFault.Reportable (selectColumns table elements) ↔
      SelectListFits table elements := by
  refine FailsWith.map_iff.trans (FailsWith.mapM_iff fun element => ?_)
  unfold SelectElementFits ColumnFits
  cases element with
  | star =>
      exact iff_of_true (.ok none) (by simp)
  | function text =>
      exact iff_of_true (.error (by decide)) (by simp)
  | column name aliased =>
      simp only [SelectElement.column.injEq, and_imp, forall_apply_eq_imp_iff,
        forall_eq', selectColumn]
      cases table.column (normId name) with
      | none =>
          exact (failsWith_quoting (quoting_last (by decide))).trans
            (imp_iff_right rfl).symm
      | some column =>
          exact iff_of_true (.ok _) (by simp)

/-- Announcing a column fails with a reportable error just if it fits. -/
theorem columnSpec_reportable (table : TableDef) (identifier : Identifier) :
    FailsWith QueryFault.Reportable (columnSpec table identifier) ↔
      ColumnFits table identifier := by
  unfold columnSpec ColumnFits
  cases table.column (normId identifier) with
  | none =>
      exact (failsWith_quoting (quoting_last (by decide))).trans
        (imp_iff_right rfl).symm
  | some column =>
      exact iff_of_true (.ok _) (by simp)

/-- Identifiers looked up by their names fit in turn. -/
def AnnouncedColumnsFit (table : TableDef) (identifiers : List Identifier) : Prop :=
  InTurn
    (fun _ identifier _ => ∃ spec, columnSpec table identifier = .ok spec)
    (fun _ => ColumnFits table) identifiers ()

/-- Announcing columns fails with a reportable error just if they fit. -/
theorem columnSpecs_reportable
    (table : TableDef)
    (identifiers : List Identifier) :
    FailsWith QueryFault.Reportable (identifiers.mapM (columnSpec table)) ↔
      AnnouncedColumnsFit table identifiers :=
  FailsWith.mapM_iff (columnSpec_reportable table)

/-- The restrictions that announce bind variables fit in turn. -/
def AnnouncedFit (table : TableDef) (relations : List RelationElement) : Prop :=
  InTurn
    (fun _ relation _ => ∃ specs, relationBinds table relation = .ok specs)
    (fun _ relation =>
      ∀ identifier,
        relation.obj = .column identifier →
        ColumnFits table identifier) relations ()

/-- Announcing a clause fails with a reportable error just if it fits. -/
theorem collectWhereBinds_reportable
    (table : TableDef)
    (relations : List RelationElement) :
    FailsWith QueryFault.Reportable (collectWhereBinds table relations) ↔
      AnnouncedFit table relations := by
  have each :
      ∀ relation,
        FailsWith QueryFault.Reportable (relationBinds table relation) ↔
          ∀ identifier,
            relation.obj = .column identifier →
            ColumnFits table identifier := by
    intro relation
    unfold relationBinds
    cases relation.obj with
    | column identifier =>
        simp [FailsWith.map_iff, columnSpec_reportable]
    | _ =>
        exact iff_of_true (.error (by decide)) (by simp)
  induction relations with
  | nil =>
      exact iff_of_true (.ok []) trivial
  | cons relation rest inductionHypothesis =>
      rw [collectWhereBinds, AnnouncedFit, InTurn]
      refine FailsWith.bind_iff.trans (and_congr (each relation) ?_)
      constructor
      · rintro later ⟨⟩ ⟨specs, accepted⟩
        exact inductionHypothesis.mp
          (FailsWith.bind_iff.mp (later specs accepted)).1
      · intro later specs accepted
        exact (inductionHypothesis.mpr (later () ⟨specs, accepted⟩)).bind
          fun others _ => .ok _

end Checks

/-! ## Names -/

/-- A missing keyspace is reported without a name. -/
theorem nameKeyspace_reportable (sessionKs : Option String) (name : FQName) :
    FailsWith QueryFault.Reportable (nameKeyspace sessionKs name) := by
  unfold nameKeyspace
  split
  · exact .ok _
  · exact .ok _
  · exact .error (by decide)

/-- A protected keyspace has one of three names. -/
theorem checkWritable_reportable (keyspace : String) :
    FailsWith QueryFault.Reportable (checkWritable keyspace) := by
  unfold checkWritable
  split
  · rename_i isSystem
    refine .error ?_
    simp only [systemKeyspaces, List.mem_cons, List.not_mem_nil, or_false]
      at isSystem
    rcases isSystem with rfl | rfl | rfl <;> decide
  · exact .ok ()

/-- A table that cannot be created is reported without its name. -/
theorem planCreateTable_reportable
    (keyspace table : String)
    (create : CreateTable) :
    FailsWith QueryFault.Reportable (planCreateTable keyspace table create) := by
  refine (checkWritable_reportable keyspace).bind fun _ _ => ?_
  split
  · exact .error (by decide +kernel)
  · split
    · exact .error (by decide)
    · exact .ok _

end RhydaDB
