import Mathlib.Data.String.Basic
import RhydaDB.StatementSpec

namespace RhydaDB

open ByteStrings AtomicPrograms Fallible Storage

/-!
# Bind metadata against execution

PREPARE announces bind variables by one traversal of the statement and
execution takes bind values by another.  The traversals differ in two ways:
PREPARE announces a variable for every INSERT column and every assignment,
marker or not, and it resolves identifiers by folding them first, while INSERT
columns and restrictions are resolved case-insensitively in place.
-/

/-- The bind variable that decoding a value for a column stands for. -/
def ColumnDef.spec (column : ColumnDef) : String × ColumnType :=
  (column.name, column.colType)

namespace TableDef

/-- Both ways to resolve an identifier find the same column. -/
def SameColumn (table : TableDef) (identifier : Identifier) : Prop :=
  table.resolve identifier = table.column (normId identifier)

instance (table : TableDef) (identifier : Identifier) :
    Decidable (table.SameColumn identifier) :=
  inferInstanceAs (Decidable (_ = _))

end TableDef

/-- Folding a folded name changes nothing. -/
theorem toAsciiLowercase_idem (text : String) :
    toAsciiLowercase (toAsciiLowercase text) = toAsciiLowercase text := by
  have fold : Char.toLower ∘ Char.toLower = Char.toLower :=
    funext Char.toLower_toLower_eq_toLower
  simp [toAsciiLowercase, fold]

/-- The folded spelling of an identifier is equal to the identifier. -/
theorem identEq_normId (identifier : Identifier) :
    identEq identifier (normId identifier) = true := by
  cases identifier with
  | quoted text =>
      simp [identEq, normId]
  | unquoted text =>
      simp [identEq, normId, toAsciiLowercase_idem]

/-- A column looked up by name has that name. -/
theorem TableDef.column_name
    {table : TableDef}
    {name : String}
    {column : ColumnDef}
    (found : table.column name = some column) :
    column.name = name := by
  simpa using List.find?_some found

/-- Resolved columns announce the same variable when they are the same. -/
theorem TableDef.spec_eq_iff
    {table : TableDef}
    {identifier : Identifier}
    {resolved named : ColumnDef}
    (byIdentifier : table.resolve identifier = some resolved)
    (byName : table.column (normId identifier) = some named) :
    resolved.spec = (normId identifier, named.colType) ↔
      table.SameColumn identifier := by
  constructor
  · intro same
    have name : resolved.name = normId identifier := congrArg Prod.fst same
    obtain ⟨_, before, after, columns, earlier⟩ :=
      List.find?_eq_some_iff_append.mp byIdentifier
    rw [SameColumn, byIdentifier, eq_comm]
    apply List.find?_eq_some_iff_append.mpr
    refine ⟨by simpa using name, before, after, columns, ?_⟩
    intro other member
    have different := earlier other member
    simp only [Bool.not_eq_eq_eq_not, Bool.not_true, beq_eq_false_iff_ne]
    intro sameName
    simp [sameName, identEq_normId] at different
  · intro same
    rw [SameColumn, byIdentifier, byName] at same
    cases same
    rw [ColumnDef.spec, column_name byName]

namespace Binds

/-- From one position to another, values were taken for the listed columns. -/
structure Takes
    (binds : Binds)
    (specs : List (String × ColumnType))
    (next : Binds) : Prop where
  taken : next.taken = binds.taken ++ specs
  position : next.next = binds.next + specs.length
  values : next.values = binds.values

namespace Takes

variable {first second third : Binds}

/-- Nothing is taken without moving. -/
theorem refl (binds : Binds) : binds.Takes [] binds where
  taken := by simp
  position := rfl
  values := rfl

/-- Takings add up. -/
theorem trans
    {specs otherSpecs : List (String × ColumnType)}
    (before : first.Takes specs second)
    (after : second.Takes otherSpecs third) :
    first.Takes (specs ++ otherSpecs) third where
  taken := by rw [after.taken, before.taken, List.append_assoc]
  position := by
    rw [after.position, before.position, List.length_append, Nat.add_assoc]
  values := after.values.trans before.values

end Takes

/-- A successful `take` takes one value for its column. -/
theorem takes_of_take
    {binds next : Binds}
    {column : ColumnDef}
    {value : Value}
    (taken : binds.take column = .ok (value, next)) :
    binds.Takes [column.spec] next := by
  have advanced : binds.advance column = next := by
    unfold take at taken
    split at taken
    · cases taken
    · cases taken
      rfl
    · obtain ⟨_, _, same⟩ := map_eq_ok.mp taken
      exact congrArg Prod.snd same
  rw [← advanced]
  exact ⟨rfl, rfl, rfl⟩

end Binds

section Operands

variable {hexDecode : HexDecode}

/-- An operand takes a value exactly when it is a marker. -/
theorem takes_of_operandToValue
    {operand : Operand}
    {column : ColumnDef}
    {binds next : Binds}
    {value : Value}
    (evaluated :
      operandToValue hexDecode operand column binds = .ok (value, next)) :
    binds.Takes (if operand.isParam then [column.spec] else []) next := by
  cases operand with
  | param text =>
      exact Binds.takes_of_take evaluated
  | _ =>
      simp only [operandToValue] at evaluated
      obtain ⟨_, _, same⟩ := map_eq_ok.mp evaluated
      cases same
      exact Binds.Takes.refl binds

/-- A restriction's value takes one bind value if it is a marker. -/
theorem takes_of_filterValue
    {operand : Operand}
    {column : ColumnDef}
    {binds next : Binds}
    {value : Value}
    (evaluated : filterValue hexDecode operand column binds = .ok (value, next)) :
    operand.markers = (if operand.isParam then 1 else 0) ∧
      binds.Takes (List.replicate operand.markers column.spec) next := by
  cases operand with
  | param text =>
      exact ⟨rfl, Binds.takes_of_take evaluated⟩
  | const text =>
      obtain ⟨_, _, same⟩ := map_eq_ok.mp evaluated
      cases same
      exact ⟨rfl, Binds.Takes.refl binds⟩
  | _ =>
      cases evaluated

/-- An IN list takes one bind value per marker in it. -/
theorem takes_of_filterValues
    {items : List Operand}
    {column : ColumnDef}
    {binds next : Binds}
    {values : List Value}
    (evaluated :
      filterValues hexDecode column items binds = .ok (values, next)) :
    binds.Takes (List.replicate (items.countP Operand.isParam) column.spec)
      next := by
  induction items generalizing binds values with
  | nil =>
      cases evaluated
      exact Binds.Takes.refl next
  | cons item rest inductionHypothesis =>
      obtain ⟨⟨value, middle⟩, first, later⟩ := bind_eq_ok.mp evaluated
      obtain ⟨⟨others, final⟩, second, same⟩ := bind_eq_ok.mp later
      cases same
      obtain ⟨markers, taken⟩ := takes_of_filterValue first
      have whole := taken.trans (inductionHypothesis second)
      rw [List.replicate_append_replicate, markers] at whole
      rw [List.countP_cons, Nat.add_comm]
      exact whole

/-- The values of an IN restriction take one bind value per marker. -/
theorem takes_of_inValues
    {operand : Operand}
    {column : ColumnDef}
    {binds next : Binds}
    {values : List Value}
    (evaluated : inValues hexDecode operand column binds = .ok (values, next)) :
    binds.Takes (List.replicate operand.markers column.spec) next := by
  cases operand with
  | tuple items =>
      exact takes_of_filterValues evaluated
  | _ =>
      simp only [inValues] at evaluated
      obtain ⟨⟨value, final⟩, first, same⟩ := map_eq_ok.mp evaluated
      cases same
      exact (takes_of_filterValue first).2

/-- A restriction takes its values for the column its identifier resolves to. -/
theorem takes_of_parseFilter
    {table : TableDef}
    {relation : RelationElement}
    {filter : Filter}
    {binds next : Binds}
    (parsed :
      parseFilter hexDecode table relation binds = .ok (filter, next)) :
    ∃ identifier column,
      relation.obj = .column identifier ∧
        table.resolve identifier = some column ∧
          binds.Takes (List.replicate relation.value.markers column.spec)
            next := by
  unfold parseFilter at parsed
  split at parsed
  · rename_i identifier object
    split at parsed
    · cases parsed
    · rename_i column resolved
      refine ⟨identifier, column, object, resolved, ?_⟩
      split at parsed
      · rename_i value
        cases parsed
        rw [value]
        exact Binds.Takes.refl binds
      · obtain ⟨⟨value, final⟩, first, same⟩ := map_eq_ok.mp parsed
        cases same
        exact (takes_of_filterValue first).2
      · obtain ⟨⟨values, final⟩, first, same⟩ := map_eq_ok.mp parsed
        cases same
        exact takes_of_inValues first
      · cases parsed
  · cases parsed

end Operands

/-! ## What PREPARE announces -/

/-- A named column is announced with its type. -/
theorem columnSpec_eq_ok
    {table : TableDef}
    {identifier : Identifier}
    {spec : String × ColumnType}
    (announced : columnSpec table identifier = .ok spec) :
    ∃ column,
      table.column (normId identifier) = some column ∧
        spec = (normId identifier, column.colType) := by
  unfold columnSpec at announced
  split at announced
  · rename_i column found
    cases announced
    exact ⟨column, found, rfl⟩
  · cases announced

/-- A restriction whose marker values go to the column announced for them. -/
def RelationElement.BindsAgree (table : TableDef) (relation : RelationElement) : Prop :=
  relation.value.markers = 0 ∨
    ∃ identifier,
      relation.obj = .column identifier ∧ table.SameColumn identifier

/--
The values a WHERE clause takes are as many as are announced, and they are
those announced exactly when its restrictions with markers agree.
-/
theorem whereClause_takes
    {hexDecode : HexDecode}
    {table : TableDef}
    {whereClause : List RelationElement}
    {filters : List Filter}
    {binds next : Binds}
    {specs : List (String × ColumnType)}
    (announced : collectWhereBinds table whereClause = .ok specs)
    (parsed :
      parseFilters hexDecode table whereClause binds = .ok (filters, next)) :
    ∃ taken,
      binds.Takes taken next ∧
        taken.length = specs.length ∧
          (taken = specs ↔
            ∀ relation ∈ whereClause, relation.BindsAgree table) := by
  induction whereClause generalizing binds filters specs with
  | nil =>
      cases announced
      cases parsed
      exact ⟨[], Binds.Takes.refl next, rfl, by simp⟩
  | cons relation rest inductionHypothesis =>
      obtain ⟨firstSpecs, firstAnnounced, later⟩ := bind_eq_ok.mp announced
      obtain ⟨restSpecs, restAnnounced, same⟩ := bind_eq_ok.mp later
      cases same
      obtain ⟨⟨filter, middle⟩, firstParsed, laterParsed⟩ :=
        bind_eq_ok.mp parsed
      obtain ⟨⟨others, final⟩, restParsed, same⟩ :=
        bind_eq_ok.mp laterParsed
      cases same
      obtain ⟨identifier, column, object, resolved, firstTakes⟩ :=
        takes_of_parseFilter firstParsed
      obtain ⟨restTaken, restTakes, restLength, restAgrees⟩ :=
        inductionHypothesis restAnnounced restParsed
      simp only [relationBinds, object] at firstAnnounced
      obtain ⟨spec, named, rfl⟩ := map_eq_ok.mp firstAnnounced
      obtain ⟨namedColumn, byName, rfl⟩ := columnSpec_eq_ok named
      refine ⟨_, firstTakes.trans restTakes, by simp [restLength], ?_⟩
      have agrees :
          relation.BindsAgree table ↔
            relation.value.markers = 0 ∨ table.SameColumn identifier := by
        simp [RelationElement.BindsAgree, object]
      rw [List.forall_mem_cons, agrees, ← restAgrees,
        ← TableDef.spec_eq_iff resolved byName]
      constructor
      · intro same
        obtain ⟨heads, tails⟩ := List.append_inj same (by simp)
        exact ⟨List.replicate_inj.mp heads |>.2, tails⟩
      · rintro ⟨empty | heads, rfl⟩
        · simp [empty]
        · rw [heads]

/-- Taking for some positions what is announced for all of them. -/
theorem taken_eq_cons_iff
    {isMarker : Bool}
    {column announced : String × ColumnType}
    {taken specs : List (String × ColumnType)}
    (atMost : taken.length ≤ specs.length) :
    (if isMarker then [column] else []) ++ taken = announced :: specs ↔
      isMarker = true ∧ column = announced ∧ taken = specs := by
  cases isMarker with
  | true =>
      simp
  | false =>
      simp only [Bool.false_eq_true, ↓reduceIte, List.nil_append, false_and,
        iff_false]
      rintro rfl
      simp at atMost

/-- A position that may take a value takes at most the announced one. -/
theorem length_taken_le
    (isMarker : Bool)
    {column announced : String × ColumnType}
    {taken specs : List (String × ColumnType)}
    (atMost : taken.length ≤ specs.length) :
    ((if isMarker then [column] else []) ++ taken).length ≤
      (announced :: specs).length := by
  cases isMarker with
  | true =>
      simpa using atMost
  | false =>
      simpa using Nat.le_succ_of_le atMost

/-- The column at the index an identifier resolves to. -/
theorem TableDef.resolve_of_resolveIndex
    {table : TableDef}
    {identifier : Identifier}
    {index : Nat}
    {column : ColumnDef}
    (found : table.resolveIndex identifier = some index)
    (atIndex : table.columns[index]? = some column) :
    table.resolve identifier = some column := by
  obtain ⟨bound, isColumn, earlier⟩ :=
    List.findIdx?_eq_some_iff_getElem.mp found
  obtain ⟨_, same⟩ := List.getElem?_eq_some_iff.mp atIndex
  rw [TableDef.resolve, List.find?_eq_some_iff_getElem]
  refine ⟨by rwa [← same], index, bound, same, ?_⟩
  intro before smaller
  simpa using earlier before smaller

/--
An INSERT takes at most the announced values, and all of them for the
announced columns exactly when every operand is a marker and every column
resolves the same way.
-/
theorem insert_takes
    {hexDecode : HexDecode}
    {table : TableDef}
    {columns : List Identifier}
    {operands : List Operand}
    {start resolved : List (Option Value)}
    {binds next : Binds}
    {specs : List (String × ColumnType)}
    (lengths : columns.length = operands.length)
    (announced : columns.mapM (columnSpec table) = .ok specs)
    (evaluated :
      resolveValues hexDecode table (columns.zip operands) start binds =
        .ok (resolved, next)) :
    ∃ taken,
      binds.Takes taken next ∧
        taken.length ≤ specs.length ∧
          (taken = specs ↔
            (∀ operand ∈ operands, operand.isParam = true) ∧
              ∀ identifier ∈ columns, table.SameColumn identifier) := by
  have each := mapM_eq_ok.mp announced
  clear announced
  induction each generalizing operands start binds with
  | nil =>
      obtain rfl : operands = [] := List.length_eq_zero_iff.mp lengths.symm
      cases evaluated
      exact ⟨[], Binds.Takes.refl next, le_rfl, by simp⟩
  | @cons identifier spec restColumns restSpecs named _ inductionHypothesis =>
      cases operands with
      | nil =>
          cases lengths
      | cons operand restOperands =>
          simp only [List.zip_cons_cons, resolveValues] at evaluated
          split at evaluated
          · cases evaluated
          · rename_i index found
            split at evaluated
            · cases evaluated
            · rename_i column atIndex
              obtain ⟨⟨value, middle⟩, first, later⟩ :=
                bind_eq_ok.mp evaluated
              obtain ⟨restTaken, restTakes, atMost, restAgrees⟩ :=
                inductionHypothesis (Nat.succ.inj lengths) later
              obtain ⟨namedColumn, byName, rfl⟩ := columnSpec_eq_ok named
              have byIdentifier :=
                TableDef.resolve_of_resolveIndex found atIndex
              refine ⟨_, (takes_of_operandToValue first).trans restTakes,
                length_taken_le _ atMost, ?_⟩
              rw [taken_eq_cons_iff atMost, restAgrees,
                TableDef.spec_eq_iff byIdentifier byName,
                List.forall_mem_cons, List.forall_mem_cons]
              tauto

/-- An UPDATE's assignments take the announced values when all are markers. -/
theorem assignments_take
    {hexDecode : HexDecode}
    {table : TableDef}
    {assignments : List AssignmentElement}
    {newValues : List (Nat × Value)}
    {binds next : Binds}
    {specs : List (String × ColumnType)}
    (announced :
      (assignments.mapM fun assignment =>
        columnSpec table assignment.column) = .ok specs)
    (evaluated :
      assignedValues hexDecode table assignments binds =
        .ok (newValues, next)) :
    ∃ taken,
      binds.Takes taken next ∧
        taken.length ≤ specs.length ∧
          (taken = specs ↔
            ∀ assignment ∈ assignments,
              assignment.value.isParam = true) := by
  have each := mapM_eq_ok.mp announced
  clear announced
  induction each generalizing newValues binds with
  | nil =>
      cases evaluated
      exact ⟨[], Binds.Takes.refl next, le_rfl, by simp⟩
  | @cons assignment spec rest restSpecs named _ inductionHypothesis =>
      obtain ⟨namedColumn, byName, rfl⟩ := columnSpec_eq_ok named
      simp only [assignedValues] at evaluated
      split at evaluated
      · cases evaluated
      · split at evaluated
        · cases evaluated
        · cases evaluated
        · rename_i column index found _
          rw [byName, Option.some.injEq] at found
          subst found
          obtain ⟨⟨value, middle⟩, first, later⟩ := bind_eq_ok.mp evaluated
          obtain ⟨⟨values, final⟩, second, same⟩ := bind_eq_ok.mp later
          cases same
          obtain ⟨restTaken, restTakes, atMost, restAgrees⟩ :=
            inductionHypothesis second
          have sameSpec :
              namedColumn.spec =
                (normId assignment.column, namedColumn.colType) := by
            rw [ColumnDef.spec, TableDef.column_name byName]
          refine ⟨_, (takes_of_operandToValue first).trans restTakes,
            length_taken_le _ atMost, ?_⟩
          rw [taken_eq_cons_iff atMost, restAgrees, List.forall_mem_cons]
          simp [sameSpec]

/-! ## Statements -/

namespace Statement

/-- The table a statement that can be prepared names. -/
def tableName : Statement → Option FQName
  | .insert ins =>
      some ins.tableName
  | .select sel =>
      some sel.tableName
  | .delete del =>
      some del.tableName
  | .update upd =>
      some upd.tableName
  | _ =>
      none

/--
When every announced bind variable is one that execution takes: values and
assignments are markers throughout, and the columns of an INSERT and of
restrictions with markers resolve the same way in both traversals.
-/
def BindsAgree (table : TableDef) : Statement → Prop
  | .insert ins =>
      (match ins.values with
        | .values operands =>
            ∀ operand ∈ operands, operand.isParam = true
        | .json _ =>
            True) ∧
        ∀ identifier ∈ ins.columns, table.SameColumn identifier
  | .select sel =>
      ∀ relation ∈ sel.whereClause, relation.BindsAgree table
  | .delete del =>
      ∀ relation ∈ del.whereClause, relation.BindsAgree table
  | .update upd =>
      (∀ assignment ∈ upd.assignments, assignment.value.isParam = true) ∧
        ∀ relation ∈ upd.whereClause, relation.BindsAgree table
  | _ =>
      True

/-- In a store, a statement's table name stands for a table. -/
def ResolvesTo
    {shards : Nat} [NeZero shards]
    (json : CatalogJson)
    (sessionKs : Option String)
    (store : Storage shards)
    (table : TableDef)
    (statement : Statement) :
    Prop :=
  ∃ name keyspace next,
    statement.tableName = some name ∧
      (resolveTable json sessionKs name).run answer store =
        (.ok (keyspace, table), next)

end Statement

/-- The i-th value of the request was used for the i-th listed variable. -/
def Binds.Follows (binds : Binds) (specs : List (String × ColumnType)) : Prop :=
  binds.taken = specs ∧ binds.next = specs.length

/-- Values taken from the start follow a list when they are the list. -/
theorem Binds.Takes.follows_iff
    {values : List (Option Bytes)}
    {taken specs : List (String × ColumnType)}
    {next : Binds}
    (takes : (Binds.new values).Takes taken next) :
    next.Follows specs ↔ taken = specs := by
  have same : next.taken = taken := by
    simpa [Binds.new] using takes.taken
  have position : next.next = taken.length := by
    simpa [Binds.new] using takes.position
  rw [Binds.Follows, same, position]
  constructor
  · exact And.left
  · rintro rfl
    exact ⟨rfl, rfl⟩

section Prepared

variable
  {shards : Nat} [NeZero shards]
  {json : CatalogJson}
  {hexDecode : HexDecode}
  {shortNames : Statement → String}
  {sessionKs : Option String}
  {keyspace laterKeyspace : String}
  {table : TableDef}
  {values : List (Option Bytes)}
  {info : PreparedInfo}
  {executed : Executed shards}
  {store resolved prepared later resolvedLater final : Storage shards}

/-- An INSERT follows its metadata exactly when it agrees. -/
theorem insert_follows_iff
    {ins : Insert}
    (found :
      (resolveTable json sessionKs ins.tableName).run answer store =
        (.ok (keyspace, table), resolved))
    (foundLater :
      (resolveTable json sessionKs ins.tableName).run answer later =
        (.ok (laterKeyspace, table), resolvedLater))
    (prepares :
      (preparedInfo json shortNames sessionKs (.insert ins)).run answer store =
        (.ok info, prepared))
    (executes :
      (execInsert json hexDecode sessionKs ins (.new values)).run answer
          later =
        (.ok executed, final)) :
    executed.binds.Follows info.bindSpecs ↔
      (Statement.insert ins).BindsAgree table := by
  rw [preparedInfo, Program.run_bind_of_ok answer found] at prepares
  simp only [Program.run_bind_eq_ok, Program.run_ofExcept, Program.run_return,
    Prod.mk.injEq, Except.ok.injEq] at prepares
  obtain ⟨specs, _, ⟨announced, rfl⟩, rfl, rfl⟩ := prepares
  obtain ⟨_, _, _, keyParts, cells, next, ticket, again, _, planned, _, rfl⟩ :=
    execInsert_eq_ok executes
  rw [foundLater] at again
  cases again
  unfold planInsert at planned
  cases inserted : ins.values with
  | json text =>
      simp [inserted] at planned
  | values operands =>
      simp only [inserted] at planned
      split at planned
      · cases planned
      · rename_i lengths
        obtain ⟨⟨row, taken⟩, evaluated, rest⟩ := bind_eq_ok.mp planned
        obtain ⟨_, _, same⟩ := bind_eq_ok.mp rest
        cases same
        obtain ⟨_, takes, _, agrees⟩ :=
          insert_takes (not_not.mp lengths) announced evaluated
        simp only [takes.follows_iff, agrees, Statement.BindsAgree, inserted]

/-- An UPDATE follows its metadata exactly when it agrees. -/
theorem update_follows_iff
    {upd : Update}
    (found :
      (resolveTable json sessionKs upd.tableName).run answer store =
        (.ok (keyspace, table), resolved))
    (foundLater :
      (resolveTable json sessionKs upd.tableName).run answer later =
        (.ok (laterKeyspace, table), resolvedLater))
    (prepares :
      (preparedInfo json shortNames sessionKs (.update upd)).run answer store =
        (.ok info, prepared))
    (executes :
      (execUpdate json hexDecode sessionKs upd (.new values)).run answer
          later =
        (.ok executed, final)) :
    executed.binds.Follows info.bindSpecs ↔
      (Statement.update upd).BindsAgree table := by
  rw [preparedInfo, Program.run_bind_of_ok answer found] at prepares
  simp only [Program.run_bind_eq_ok, Program.run_ofExcept, Program.run_return,
    Prod.mk.injEq, Except.ok.injEq] at prepares
  obtain ⟨assigned, _, ⟨announced, rfl⟩, restricted, _,
    ⟨restrictions, rfl⟩, rfl, rfl⟩ := prepares
  obtain ⟨_, _, _, newValues, keyParts, next, _, _, ticket, again, _,
    planned, _, _, rfl⟩ := execUpdate_eq_ok executes
  rw [foundLater] at again
  cases again
  obtain ⟨⟨_, middle⟩, evaluated, rest⟩ := bind_eq_ok.mp planned
  obtain ⟨⟨filters, last⟩, parsed, rest⟩ := bind_eq_ok.mp rest
  obtain ⟨_, _, same⟩ := bind_eq_ok.mp rest
  cases same
  obtain ⟨first, firstTakes, _, firstAgrees⟩ :=
    assignments_take announced evaluated
  obtain ⟨second, secondTakes, lengths, secondAgrees⟩ :=
    whereClause_takes restrictions parsed
  simp only [(firstTakes.trans secondTakes).follows_iff,
    Statement.BindsAgree, ← firstAgrees, ← secondAgrees]
  constructor
  · intro same
    exact List.append_inj' same lengths
  · rintro ⟨rfl, rfl⟩
    rfl

/-- A DELETE follows its metadata exactly when it agrees. -/
theorem delete_follows_iff
    {del : Delete}
    (found :
      (resolveTable json sessionKs del.tableName).run answer store =
        (.ok (keyspace, table), resolved))
    (foundLater :
      (resolveTable json sessionKs del.tableName).run answer later =
        (.ok (laterKeyspace, table), resolvedLater))
    (prepares :
      (preparedInfo json shortNames sessionKs (.delete del)).run answer store =
        (.ok info, prepared))
    (executes :
      (execDelete json hexDecode sessionKs del (.new values)).run answer
          later =
        (.ok executed, final)) :
    executed.binds.Follows info.bindSpecs ↔
      (Statement.delete del).BindsAgree table := by
  rw [preparedInfo, Program.run_bind_of_ok answer found] at prepares
  simp only [Program.run_bind_eq_ok, Program.run_ofExcept, Program.run_return,
    Prod.mk.injEq, Except.ok.injEq] at prepares
  obtain ⟨specs, _, ⟨announced, rfl⟩, rfl, rfl⟩ := prepares
  obtain ⟨_, _, _, keyParts, next, ticket, again, _, planned, _, rfl⟩ :=
    execDelete_eq_ok executes
  rw [foundLater] at again
  cases again
  unfold planDelete at planned
  split at planned
  · cases planned
  · obtain ⟨⟨filters, last⟩, parsed, rest⟩ := bind_eq_ok.mp planned
    obtain ⟨_, _, same⟩ := bind_eq_ok.mp rest
    cases same
    obtain ⟨_, takes, _, agrees⟩ := whereClause_takes announced parsed
    simp only [takes.follows_iff, agrees, Statement.BindsAgree]

/-- A SELECT follows its metadata exactly when it agrees. -/
theorem select_follows_iff
    {sel : Select}
    {pageSize : Option Int32}
    {pagingState : Option Bytes}
    (found :
      (resolveTable json sessionKs sel.tableName).run answer store =
        (.ok (keyspace, table), resolved))
    (foundLater :
      (resolveTable json sessionKs sel.tableName).run answer later =
        (.ok (laterKeyspace, table), resolvedLater))
    (prepares :
      (preparedInfo json shortNames sessionKs (.select sel)).run answer store =
        (.ok info, prepared))
    (executes :
      (execSelect json hexDecode sessionKs sel (.new values) pageSize
          pagingState).run answer later =
        (.ok executed, final)) :
    executed.binds.Follows info.bindSpecs ↔
      (Statement.select sel).BindsAgree table := by
  rw [preparedInfo, Program.run_bind_of_ok answer found] at prepares
  simp only [Program.run_bind_eq_ok, Program.run_ofExcept, Program.run_return,
    Prod.mk.injEq, Except.ok.injEq] at prepares
  obtain ⟨specs, _, ⟨announced, rfl⟩, _, _, ⟨_, rfl⟩, rfl, rfl⟩ := prepares
  rw [execSelect_run foundLater] at executes
  obtain ⟨_, filters, next, _, _, _, _, _, parsed, _, _, rfl⟩ :=
    selectFrom_eq_ok executes
  obtain ⟨_, takes, _, agrees⟩ := whereClause_takes announced parsed
  simp only [takes.follows_iff, agrees, Statement.BindsAgree]

/-- A statement on one table follows its metadata exactly when it agrees. -/
theorem statement_follows_iff
    {statement : Statement}
    {name : FQName}
    {pageSize : Option Int32}
    {pagingState : Option Bytes}
    (named : statement.tableName = some name)
    (found :
      (resolveTable json sessionKs name).run answer store =
        (.ok (keyspace, table), resolved))
    (foundLater :
      (resolveTable json sessionKs name).run answer later =
        (.ok (laterKeyspace, table), resolvedLater))
    (prepares :
      (preparedInfo json shortNames sessionKs statement).run answer store =
        (.ok info, prepared))
    (executes :
      (executeStatement json hexDecode sessionKs (.new values) pageSize
          pagingState statement).run answer later =
        (.ok executed, final)) :
    executed.binds.Follows info.bindSpecs ↔ statement.BindsAgree table := by
  cases statement with
  | insert ins =>
      cases named
      exact insert_follows_iff found foundLater prepares executes
  | select sel =>
      cases named
      exact select_follows_iff found foundLater prepares executes
  | delete del =>
      cases named
      exact delete_follows_iff found foundLater prepares executes
  | update upd =>
      cases named
      exact update_follows_iff found foundLater prepares executes
  | _ =>
      cases named

/--
The bind variables that PREPARE announces are the values execution takes, in
order and for the announced columns, exactly when the statement's two
traversals agree.
-/
theorem prepared_binds_followed_iff
    {statement : Statement}
    {pageSize : Option Int32}
    {pagingState : Option Bytes}
    (found : statement.ResolvesTo json sessionKs store table)
    (foundLater : statement.ResolvesTo json sessionKs later table)
    (prepares :
      (preparedInfo json shortNames sessionKs statement).run answer store =
        (.ok info, prepared))
    (executes :
      (executeStatement json hexDecode sessionKs (.new values) pageSize
          pagingState statement).run answer later =
        (.ok executed, final)) :
    executed.binds.Follows info.bindSpecs ↔ statement.BindsAgree table := by
  obtain ⟨name, _, _, named, found⟩ := found
  obtain ⟨laterName, _, _, laterNamed, foundLater⟩ := foundLater
  rw [named, Option.some.injEq] at laterNamed
  subst laterNamed
  exact statement_follows_iff named found foundLater prepares executes

end Prepared

/-- Inserting into `kvTable` resolves to it where it is known. -/
theorem kvInsert_resolvesTo (operands : List Operand) :
    (kvInsert operands).ResolvesTo cachedJson none
      (storeWith false kvTable) kvTable :=
  ⟨kvName, "bench", storeWith false kvTable, rfl, resolveTable_kvName false⟩

/-- With two markers, the two announced values are taken. -/
theorem prepared_binds_followed_iff_two_markers :
    ∃ info executed prepared final,
      (preparedInfo cachedJson (fun _ => "") none
          (kvInsert [.param "?", .param "?"])).run answer
            (storeWith false kvTable) =
          (.ok info, prepared) ∧
        (executeStatement cachedJson (fun _ => none) none
          (.new [some [0, 0, 0, 1], some [97]]) none none
            (kvInsert [.param "?", .param "?"])).run answer
              (storeWith false kvTable) =
          (.ok executed, final) ∧
        executed.binds.Follows info.bindSpecs := by
  have prepares :
      ∃ info prepared,
        (preparedInfo cachedJson (fun _ => "") none (kvInsert [.param "?", .param "?"])).run
            answer (storeWith false kvTable) =
          (.ok info, prepared) ∧
        info.bindSpecs = [("k", .int), ("v", .text)] :=
    Program.exists_run_eq_ok answer (by decide +kernel)
  obtain ⟨info, prepared, prepares, _⟩ := prepares
  have succeeds :
      ∃ executed final,
        (executeStatement cachedJson (fun _ => none) none
          (.new [some [0, 0, 0, 1], some [97]]) none none
            (kvInsert [.param "?", .param "?"])).run answer
              (storeWith false kvTable) =
          (.ok executed, final) ∧
        executed.gates = [⟨0, 0⟩] :=
    Program.exists_run_eq_ok answer (by decide +kernel)
  obtain ⟨executed, final, executes, _⟩ := succeeds
  have agrees :
      (kvInsert [.param "?", .param "?"]).BindsAgree kvTable := by
    refine ⟨?_, ?_⟩
    · simp [Operand.isParam]
    · simp only [List.mem_cons, List.not_mem_nil, or_false, forall_eq_or_imp,
        forall_eq]
      decide +kernel
  exact ⟨info, executed, prepared, final, prepares, executes,
    (prepared_binds_followed_iff (kvInsert_resolvesTo _)
      (kvInsert_resolvesTo _) prepares executes).mpr agrees⟩

/--
With a literal in front of the marker, two variables are announced, and the
value sent for the first one is taken for the second column.
-/
theorem literal_shifts_binds :
    ∃ info executed prepared final,
      (preparedInfo cachedJson (fun _ => "") none
          (kvInsert [.const "1", .param "?"])).run answer
            (storeWith false kvTable) =
          (.ok info, prepared) ∧
        (executeStatement cachedJson (fun _ => none) none
          (.new [some [0, 0, 0, 5], some [97]]) none none
            (kvInsert [.const "1", .param "?"])).run answer
              (storeWith false kvTable) =
          (.ok executed, final) ∧
        info.bindSpecs = [("k", .int), ("v", .text)] ∧
        executed.binds.taken = [("v", .text)] ∧
        ¬ executed.binds.Follows info.bindSpecs := by
  have prepares :
      ∃ info prepared,
        (preparedInfo cachedJson (fun _ => "") none (kvInsert [.const "1", .param "?"])).run
            answer (storeWith false kvTable) =
          (.ok info, prepared) ∧
        info.bindSpecs = [("k", .int), ("v", .text)] :=
    Program.exists_run_eq_ok answer (by decide +kernel)
  obtain ⟨info, prepared, prepares, announced⟩ := prepares
  have succeeds :
      ∃ executed final,
        (executeStatement cachedJson (fun _ => none) none
          (.new [some [0, 0, 0, 5], some [97]]) none none
            (kvInsert [.const "1", .param "?"])).run answer
              (storeWith false kvTable) =
          (.ok executed, final) ∧
        executed.binds.taken = [("v", .text)] :=
    Program.exists_run_eq_ok answer (by decide +kernel)
  obtain ⟨executed, final, executes, taken⟩ := succeeds
  refine ⟨info, executed, prepared, final, prepares, executes, announced,
    taken, ?_⟩
  rintro ⟨same, _⟩
  rw [announced, taken] at same
  simp at same

end RhydaDB
