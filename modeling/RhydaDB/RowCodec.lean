import RhydaDB.CqlValueRoundTrip
import RhydaDB.Schema

namespace RhydaDB

open ByteStrings

/-!
# Row values

A stored row is a sequence of cells, each a two-byte column index followed by
the column's value in wire form.  Indices are truncated to sixteen bits before
they get here, so a table with more than 65536 columns aliases them.
-/

/-- Encode the cells of a row one after the other. -/
def encodeRowColumns : List (UInt16 × Value) → Bytes
  | [] =>
      []
  | (index, value) :: rest =>
      toBe 2 index.toNat ++ value.toWire ++ encodeRowColumns rest

/-- Decode one cell into the row and return the remaining bytes. -/
def decodeCell
    (table : TableDef)
    (data : Bytes)
    (row : List Value) :
    Outcome (Bytes × List Value) :=
  if data.length < 2 then
    fail "corrupt row value"
  else
    let index := ofBe (slice data 0 2)
    match table.columns[index]? with
    | none =>
        fail s!"row references unknown column index {index}"
    | some column =>
        if data.length < 6 then
          fail "corrupt row value"
        else
          let len := readI32 data 2
          if len = -1 then
            .ok (data.drop 6, row.set index .null)
          else if len < 0 ∨ data.length < 6 + len.toNat then
            fail "corrupt row value"
          else do
            let value ←
              Value.fromWire (slice data 2 (4 + len.toNat)) column.colType
            return (data.drop (6 + len.toNat), row.set index value)

/--
Decode cells until the data is used up.

Every round consumes at least the index bytes, so the input's length bounds
the number of rounds.
-/
def decodeCells
    (table : TableDef) :
    Nat → Bytes → List Value → Outcome (List Value)
  | _, [], row =>
      .ok row
  | 0, _, _ =>
      fail "corrupt row value"
  | rounds + 1, byte :: data, row => do
      let (rest, next) ← decodeCell table (byte :: data) row
      decodeCells table rounds rest next

/-- Decode a stored row into one value per column, null where unset. -/
def decodeRowColumns (data : Bytes) (table : TableDef) : Outcome (List Value) :=
  decodeCells table data.length data
    (List.replicate table.columns.length .null)

/-- A value that may be stored in a column: null, or of the column's type. -/
def Storable (columnType : ColumnType) (value : Value) : Prop :=
  value = .null ∨
    (value.WellTyped columnType ∧ value.rawBytes.length < 2 ^ 31)

/-- Cells that name columns of the table and hold storable values. -/
def CellsFit (table : TableDef) (cells : List (UInt16 × Value)) : Prop :=
  ∀ cell ∈ cells,
    ∃ column,
      table.columns[cell.1.toNat]? = some column ∧
        Storable column.colType cell.2

/-- Write cells into a row, later ones winning. -/
def setCells (row : List Value) (cells : List (UInt16 × Value)) : List Value :=
  cells.foldl (fun row cell => row.set cell.1.toNat cell.2) row

/-- The column index in front of a cell is read back. -/
theorem ofBe_index
    (index : UInt16)
    (rest : Bytes) :
    ofBe (slice (toBe 2 index.toNat ++ rest) 0 2) = index.toNat := by
  have bound : index.toNat < 256 ^ 2 :=
    index.toNat_lt.trans_eq (by norm_num)
  have field : slice (toBe 2 index.toNat ++ rest) 0 2 = toBe 2 index.toNat := by
    simp [slice]
  rw [field, ofBe_toBe_of_lt bound]

/-- A null cell clears its column. -/
theorem decodeCell_null
    {table : TableDef}
    {index : UInt16}
    {column : ColumnDef}
    (named : table.columns[index.toNat]? = some column)
    (rest : Bytes)
    (row : List Value) :
    decodeCell table
        (toBe 2 index.toNat ++ (Value.null.toWire ++ rest)) row =
      .ok (rest, row.set index.toNat .null) := by
  have header :
      readI32 (toBe 2 index.toNat ++ (Value.null.toWire ++ rest)) 2 = -1 := by
    have field :
        slice (toBe 2 index.toNat ++ (Value.null.toWire ++ rest)) 2 4 =
          Value.null.toWire := by
      simpa [Value.toWire] using
        slice_append (toBe 2 index.toNat) Value.null.toWire rest
    rw [readI32, field]
    decide
  have lengths :
      (toBe 2 index.toNat ++ (Value.null.toWire ++ rest)).length =
        6 + rest.length := by
    simp [Value.toWire]
    omega
  have tail :
      (toBe 2 index.toNat ++ (Value.null.toWire ++ rest)).drop 6 = rest := by
    rw [← List.append_assoc]
    apply List.drop_left'
    simp [Value.toWire]
  rw [decodeCell, if_neg (by omega)]
  simp only [ofBe_index, named, header, tail]
  rw [if_neg (by omega)]
  rfl

/-- A cell that holds a value of its column's type sets the column. -/
theorem decodeCell_value
    {table : TableDef}
    {index : UInt16}
    {column : ColumnDef}
    (named : table.columns[index.toNat]? = some column)
    {value : Value}
    (typed : value.WellTyped column.colType)
    (fits : value.rawBytes.length < 2 ^ 31)
    (rest : Bytes)
    (row : List Value) :
    decodeCell table (toBe 2 index.toNat ++ (value.toWire ++ rest)) row =
      .ok (rest, row.set index.toNat value) := by
  have notNull := typed.isNull_eq_false
  have wireLength := Value.length_toWire notNull
  have header :
      readI32 (toBe 2 index.toNat ++ (value.toWire ++ rest)) 2 =
        value.rawBytes.length := by
    have field :=
      readI32_i32Be (toBe 2 index.toNat) (value.rawBytes ++ rest) fits
    rw [length_toBe] at field
    rw [Value.toWire_eq_prefixed notNull, List.append_assoc]
    exact field
  have lengths :
      (toBe 2 index.toNat ++ (value.toWire ++ rest)).length =
        6 + value.rawBytes.length + rest.length := by
    simp [wireLength]
    omega
  have body :
      slice (toBe 2 index.toNat ++ (value.toWire ++ rest)) 2
          (4 + value.rawBytes.length) =
        value.toWire := by
    have whole := slice_append (toBe 2 index.toNat) value.toWire rest
    rw [length_toBe, wireLength, List.append_assoc] at whole
    exact whole
  have tail :
      (toBe 2 index.toNat ++ (value.toWire ++ rest)).drop
          (6 + value.rawBytes.length) =
        rest := by
    rw [← List.append_assoc]
    apply List.drop_left'
    simp [wireLength]
    omega
  rw [decodeCell, if_neg (by omega)]
  simp only [ofBe_index, named, header, Int.toNat_natCast, body, tail,
    Value.fromWire_toWire typed fits]
  rw [if_neg (by omega), if_neg (by omega), if_neg (by omega)]
  rfl

/-- A stored cell always decodes. -/
theorem decodeCell_storable
    {table : TableDef}
    {index : UInt16}
    {column : ColumnDef}
    (named : table.columns[index.toNat]? = some column)
    {value : Value}
    (storable : Storable column.colType value)
    (rest : Bytes)
    (row : List Value) :
    decodeCell table (toBe 2 index.toNat ++ (value.toWire ++ rest)) row =
      .ok (rest, row.set index.toNat value) := by
  rcases storable with rfl | ⟨typed, fits⟩
  · exact decodeCell_null named rest row
  · exact decodeCell_value named typed fits rest row

/-- A round over data that is not used up decodes one cell. -/
theorem decodeCells_of_decodeCell
    {table : TableDef}
    {data rest : Bytes}
    {row next : List Value}
    (nonempty : data ≠ [])
    (decoded : decodeCell table data row = .ok (rest, next))
    (rounds : Nat) :
    decodeCells table (rounds + 1) data row =
      decodeCells table rounds rest next := by
  obtain ⟨byte, tail, rfl⟩ := List.exists_cons_of_ne_nil nonempty
  rw [decodeCells, decoded]
  rfl

/-- Decoding the encoding of fitting cells writes them into the row. -/
theorem decodeCells_encodeRowColumns
    {table : TableDef}
    {cells : List (UInt16 × Value)}
    (fit : CellsFit table cells)
    {rounds : Nat}
    (enough : (encodeRowColumns cells).length ≤ rounds)
    (row : List Value) :
    decodeCells table rounds (encodeRowColumns cells) row =
      .ok (setCells row cells) := by
  induction cells generalizing rounds row with
  | nil =>
      cases rounds <;> rfl
  | cons cell rest inductionHypothesis =>
      obtain ⟨index, value⟩ := cell
      obtain ⟨column, named, storable⟩ := fit (index, value) (by simp)
      have restFit : CellsFit table rest :=
        fun cell member => fit cell (by simp [member])
      have shape :
          encodeRowColumns ((index, value) :: rest) =
            toBe 2 index.toNat ++ (value.toWire ++ encodeRowColumns rest) := by
        simp [encodeRowColumns]
      have longer :
          (encodeRowColumns ((index, value) :: rest)).length =
            2 + value.toWire.length + (encodeRowColumns rest).length := by
        rw [shape]
        simp
        omega
      cases rounds with
      | zero =>
          omega
      | succ rounds =>
          have nonempty :
              toBe 2 index.toNat ++ (value.toWire ++ encodeRowColumns rest) ≠
                [] := by
            rw [← shape]
            intro empty
            rw [empty] at longer
            simp at longer
            omega
          rw [shape, decodeCells_of_decodeCell nonempty
            (decodeCell_storable named storable _ row)]
          exact inductionHypothesis restFit (by omega) _

/-- A stored row decodes to its cells over a row of nulls. -/
theorem decodeRowColumns_encodeRowColumns
    {table : TableDef}
    {cells : List (UInt16 × Value)}
    (fit : CellsFit table cells) :
    decodeRowColumns (encodeRowColumns cells) table =
      .ok (setCells (List.replicate table.columns.length .null) cells) :=
  decodeCells_encodeRowColumns fit le_rfl _

/-! ## The row of distinct cells -/

@[simp] theorem length_setCells
    (row : List Value)
    (cells : List (UInt16 × Value)) :
    (setCells row cells).length = row.length := by
  induction cells generalizing row with
  | nil =>
      rfl
  | cons cell rest inductionHypothesis =>
      rw [setCells, List.foldl_cons, ← setCells, inductionHypothesis,
        List.length_set]

/-- A column that no cell names keeps its value. -/
theorem setCells_of_unnamed
    {cells : List (UInt16 × Value)}
    {position : Nat}
    (unnamed : ∀ cell ∈ cells, cell.1.toNat ≠ position)
    (row : List Value) :
    (setCells row cells)[position]? = row[position]? := by
  induction cells generalizing row with
  | nil =>
      rfl
  | cons cell rest inductionHypothesis =>
      have others : ∀ cell ∈ rest, cell.1.toNat ≠ position :=
        fun cell member => unnamed cell (by simp [member])
      rw [setCells, List.foldl_cons, ← setCells, inductionHypothesis others,
        List.getElem?_set_ne (unnamed cell (by simp))]

/-- A column that one cell names has the cell's value. -/
theorem setCells_of_mem
    {cells : List (UInt16 × Value)}
    (distinct : (cells.map Prod.fst).Nodup)
    {index : UInt16}
    {value : Value}
    (member : (index, value) ∈ cells)
    {row : List Value}
    (inside : index.toNat < row.length) :
    (setCells row cells)[index.toNat]? = some value := by
  induction cells generalizing row with
  | nil =>
      cases member
  | cons cell rest inductionHypothesis =>
      obtain ⟨fresh, restDistinct⟩ := List.nodup_cons.mp distinct
      rw [setCells, List.foldl_cons, ← setCells]
      rcases List.mem_cons.mp member with rfl | later
      · have unnamed : ∀ cell ∈ rest, cell.1.toNat ≠ index.toNat := by
          intro cell inRest same
          exact fresh (List.mem_map.mpr ⟨cell, inRest, UInt16.toNat_inj.mp same⟩)
        rw [setCells_of_unnamed unnamed, List.getElem?_set_self inside]
      · exact inductionHypothesis restDistinct later (by simpa using inside)

/-- Distinct cells may be written in any order. -/
theorem setCells_perm
    {cells other : List (UInt16 × Value)}
    (distinct : (cells.map Prod.fst).Nodup)
    (permutes : other.Perm cells)
    {row : List Value}
    (inside : ∀ cell ∈ cells, cell.1.toNat < row.length) :
    setCells row other = setCells row cells := by
  have otherDistinct : (other.map Prod.fst).Nodup :=
    (permutes.map Prod.fst).nodup_iff.mpr distinct
  apply List.ext_getElem?
  intro position
  by_cases named : ∃ cell ∈ cells, cell.1.toNat = position
  · obtain ⟨⟨index, value⟩, member, rfl⟩ := named
    rw [setCells_of_mem distinct member (inside _ member),
      setCells_of_mem otherDistinct (permutes.mem_iff.mpr member)
        (inside _ member)]
  · have unnamed : ∀ cell ∈ cells, cell.1.toNat ≠ position :=
      fun cell member same => named ⟨cell, member, same⟩
    rw [setCells_of_unnamed unnamed,
      setCells_of_unnamed fun cell member =>
        unnamed cell (permutes.mem_iff.mp member)]

/--
A row of distinct cells decodes to one value for each column: the cell's value
where there is one and null elsewhere, in whatever order the cells are stored.
-/
theorem row_codec_round_trip
    {table : TableDef}
    {cells : List (UInt16 × Value)}
    (distinct : (cells.map Prod.fst).Nodup)
    (fit : CellsFit table cells) :
    ∃ row,
      decodeRowColumns (encodeRowColumns cells) table = .ok row ∧
        row.length = table.columns.length ∧
        (∀ index value,
          (index, value) ∈ cells →
          row[index.toNat]? = some value) ∧
        (∀ index,
          index < table.columns.length →
          (∀ cell ∈ cells, cell.1.toNat ≠ index) →
          row[index]? = some .null) ∧
        ∀ other,
          other.Perm cells →
          decodeRowColumns (encodeRowColumns other) table = .ok row := by
  have inside :
      ∀ cell ∈ cells,
        cell.1.toNat <
          (List.replicate table.columns.length Value.null).length := by
    intro cell member
    obtain ⟨column, here, _⟩ := fit cell member
    rw [List.length_replicate]
    exact (List.getElem?_eq_some_iff.mp here).1
  refine ⟨_, decodeRowColumns_encodeRowColumns fit, ?_, ?_, ?_, ?_⟩
  · rw [length_setCells, List.length_replicate]
  · intro index value member
    exact setCells_of_mem distinct member (inside _ member)
  · intro index small unnamed
    rw [setCells_of_unnamed unnamed, List.getElem?_replicate, if_pos small]
  · intro other permutes
    have otherFit : CellsFit table other :=
      fun cell member => fit cell (permutes.mem_iff.mp member)
    rw [decodeRowColumns_encodeRowColumns otherFit,
      setCells_perm distinct permutes inside]

/-- Two cells of a table with three columns, the later column first. -/
theorem row_codec_round_trip_two_cells :
    ∃ row,
      decodeRowColumns
          (encodeRowColumns [(2, .list [.int 1]), (0, .null)])
          ⟨"app", "t",
            [⟨"a", .int, false, false⟩, ⟨"k", .int, true, false⟩,
              ⟨"l", .list .int, false, false⟩],
            ["k"], []⟩ =
        .ok row ∧
      row.length = 3 ∧
      row[2]? = some (.list [.int 1]) ∧
      row[1]? = some .null := by
  have fit :
      CellsFit
        ⟨"app", "t",
          [⟨"a", .int, false, false⟩, ⟨"k", .int, true, false⟩,
            ⟨"l", .list .int, false, false⟩],
          ["k"], []⟩
        [(2, .list [.int 1]), (0, .null)] := by
    intro cell member
    rcases List.mem_cons.mp member with rfl | later
    · refine ⟨_, rfl, .inr ⟨?_, by decide⟩⟩
      intro value inside
      rw [List.mem_singleton.mp inside]
      trivial
    · rw [List.mem_singleton.mp later]
      exact ⟨_, rfl, .inl rfl⟩
  obtain ⟨row, decoded, length, listed, others, _⟩ :=
    row_codec_round_trip (by decide) fit
  exact ⟨row, decoded, length, listed 2 _ (by simp),
    others 1 (by decide) (by simp)⟩

end RhydaDB
