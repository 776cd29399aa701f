import RhydaDB.SelectStatement
import RhydaDB.WireBounds

namespace RhydaDB

open ByteStrings

/-!
# Point lookups in damaged rows

A point lookup walks over the cells in front of the one it wants.  The length
of a cell that is only passed over is neither compared with the data nor checked
for a sign, so a damaged cell in front of the wanted one sends the walk past the
end of the row or back to its start.
-/

/-! ## The portion to scan -/

/-- The column index in front of the cell at an offset. -/
def cellIndex (data : Bytes) (offset : Nat) : Nat :=
  ofBe (slice data offset 2)

/-- The length in front of the payload of the cell at an offset. -/
def cellLen (data : Bytes) (offset : Nat) : Int :=
  readI32 data (offset + 2)

/--
A cell with a truncated header, a length below `-1` or a payload that runs past
the end of the row.
-/
def Damaged (data : Bytes) (offset : Nat) : Prop :=
  offset < data.length ∧
    (data.length < offset + 6 ∨
      cellLen data offset < -1 ∨
      data.length < offset + 6 + (cellLen data offset).toNat)

/--
The offsets of the cells that a search for a column has to look at: it passes
over whole cells of other columns.
-/
inductive HasToScan (index : Nat) (data : Bytes) : Nat → Nat → Prop
  | here (start : Nat) :
      HasToScan index data start start
  | later
      {start offset : Nat}
      (inside : start < data.length)
      (whole : ¬ Damaged data start)
      (other : cellIndex data start ≠ index)
      (rest :
        HasToScan index data (start + 6 + (cellLen data start).toNat) offset) :
      HasToScan index data start offset

/-- The offsets that the scan of a point lookup comes to. -/
inductive Visits
    (table : TableDef)
    (index : Nat)
    (data : Bytes) :
    Nat → Nat → Prop
  | here (start : Nat) :
      Visits table index data start start
  | later
      {start next offset : Nat}
      (inside : start < data.length)
      (passed : scanCell table index data start = .ok (.next next))
      (rest : Visits table index data next offset) :
      Visits table index data start offset

/--
What a point lookup owes any row bytes: the scan ends, slices inside the row,
never wraps an offset around and reports damage in the portion it has to scan.
-/
structure SafeScan
    (projection : Projection)
    (keyParts : List Bytes)
    (data : Bytes)
    (index : Nat) :
    Prop where
  terminates : projection.fastValue keyParts data index ≠ .error .hang
  inBounds : projection.fastValue keyParts data index ≠ .error .panic
  noWrap :
    ∀ offset,
      Visits projection.table index data 0 offset →
      offset + 6 ≤ data.length →
      cellLen data offset ≠ -1 →
      offset + 6 + (cellLen data offset % 2 ^ 64).toNat < 2 ^ 64
  reports :
    (∃ offset, HasToScan index data 0 offset ∧ Damaged data offset) →
      ∃ message,
        projection.fastValue keyParts data index = .error (.error message)

/--
A cell that is scanned as it should be.

A cell of another column is whole.  The wanted one may be damaged, but a length
below `-1` does not reach back into the row, and its payload has the byte that a
tinyint or a boolean is read from.
-/
def ScansWell
    (table : TableDef)
    (index : Nat)
    (data : Bytes)
    (offset : Nat) :
    Prop :=
  offset + 6 ≤ data.length →
    (cellIndex data offset ≠ index → ¬ Damaged data offset) ∧
      (cellIndex data offset = index →
        (cellLen data offset < -1 → (offset : Int) + 6 < -cellLen data offset) ∧
          (0 ≤ cellLen data offset →
            ¬ Damaged data offset →
            ∀ column,
              table.columns[index]? = some column →
              ¬ ReadsEmptyByte column.colType
                (slice data (offset + 6) (cellLen data offset).toNat)))

/-! ## One cell -/

/-- A four-byte number is at least `-2 ^ 31`. -/
theorem neg_le_readI32 (raw : Bytes) (off : Nat) : -2 ^ 31 ≤ readI32 raw off := by
  have atMost : (slice raw off 4).length ≤ 4 :=
    List.length_take_le _ _
  have power : 256 ^ (slice raw off 4).length ≤ 256 ^ 4 :=
    Nat.pow_le_pow_right (by omega) atMost
  unfold readI32 ofBeSigned
  split
  · omega
  · rename_i large
    have cast :
        (256 : Int) ^ (slice raw off 4).length =
          ((256 ^ (slice raw off 4).length : Nat) : Int) := by
      push_cast
      rfl
    rw [cast]
    omega

/-- The length of a cell is a four-byte number. -/
theorem cellLen_bounds (data : Bytes) (offset : Nat) :
    -2 ^ 31 ≤ cellLen data offset ∧ cellLen data offset < 2 ^ 31 :=
  ⟨neg_le_readI32 data (offset + 2), readI32_lt data (offset + 2)⟩

/-- A payload decodes with a value or an error unless it lacks a byte. -/
theorem Value.fromRawBytes_returns_iff (raw : Bytes) (columnType : ColumnType) :
    ReturnsOrFails Fault.IsError (Value.fromRawBytes raw columnType) ↔
      ¬ (raw.length < 2 ^ 31 ∧ ReadsEmptyByte columnType raw) := by
  rw [Value.fromRawBytes,
    returns_iff_ne_panic (Value.fromWire_returns _ columnType), ne_eq,
    Value.fromWire_panics_iff, prefixed_i32Be_iff,
    List.drop_left' (length_i32Be raw.length)]

section Cell

variable
  {table : TableDef}
  {index : Nat}
  {data : Bytes}
  {offset : Nat}

/-- A truncated header is reported. -/
theorem scanCell_truncated
    (truncated : data.length < offset + 6) :
    scanCell table index data offset = fail "corrupt row value" :=
  if_pos truncated

/-- What the scan does with a cell whose header is inside the row. -/
theorem scanCell_of_header
    (header : offset + 6 ≤ data.length) :
    scanCell table index data offset =
      let stop := (offset + 6 + (cellLen data offset % 2 ^ 64).toNat) % 2 ^ 64
      if cellIndex data offset = index then
        if cellLen data offset = -1 then
          .ok (.found .null)
        else if data.length < stop then
          fail "corrupt row value"
        else
          match table.columns[index]? with
          | none =>
              .error .panic
          | some column =>
              if stop < offset + 6 then
                .error .panic
              else
                (Value.fromRawBytes
                  (slice data (offset + 6) (stop - (offset + 6)))
                  column.colType).map .found
      else if cellLen data offset = -1 then
        .ok (.next (offset + 6))
      else
        .ok (.next stop) :=
  if_neg (Nat.not_lt.mpr header)

/-- A cell of another column is passed over by the wrapped length. -/
theorem scanCell_other
    (header : offset + 6 ≤ data.length)
    (other : cellIndex data offset ≠ index)
    (present : cellLen data offset ≠ -1) :
    scanCell table index data offset =
      .ok (.next
        ((offset + 6 + (cellLen data offset % 2 ^ 64).toNat) % 2 ^ 64)) := by
  simp only [scanCell_of_header header, if_neg other, if_neg present]

/-- A whole cell of another column is passed over. -/
theorem scanCell_whole
    (addressable : data.length < 2 ^ 63)
    (inside : offset < data.length)
    (whole : ¬ Damaged data offset)
    (other : cellIndex data offset ≠ index) :
    scanCell table index data offset =
      .ok (.next (offset + 6 + (cellLen data offset).toNat)) := by
  have bounds := cellLen_bounds data offset
  unfold Damaged at whole
  have header : offset + 6 ≤ data.length := by
    omega
  by_cases absent : cellLen data offset = -1
  · simp only [scanCell_of_header header, if_neg other, absent, if_true]
    rfl
  · have same :
        (offset + 6 + (cellLen data offset % 2 ^ 64).toNat) % 2 ^ 64 =
          offset + 6 + (cellLen data offset).toNat := by
      omega
    rw [scanCell_other header other absent, same]

/-- The wanted cell may hold a null. -/
theorem scanCell_absent
    (header : offset + 6 ≤ data.length)
    (wanted : cellIndex data offset = index)
    (absent : cellLen data offset = -1) :
    scanCell table index data offset = .ok (.found .null) := by
  simp only [scanCell_of_header header, if_pos wanted, if_pos absent]

/-- A wanted payload that ends past the row is reported. -/
theorem scanCell_pastEnd
    (header : offset + 6 ≤ data.length)
    (wanted : cellIndex data offset = index)
    (present : cellLen data offset ≠ -1)
    (pastEnd :
      data.length <
        (offset + 6 + (cellLen data offset % 2 ^ 64).toNat) % 2 ^ 64) :
    scanCell table index data offset = fail "corrupt row value" := by
  simp only [scanCell_of_header header, if_pos wanted, if_neg present,
    if_pos pastEnd]

/-- A whole payload of the wanted column is decoded. -/
theorem scanCell_payload
    {column : ColumnDef}
    (addressable : data.length < 2 ^ 63)
    (named : table.columns[index]? = some column)
    (inside : offset < data.length)
    (whole : ¬ Damaged data offset)
    (wanted : cellIndex data offset = index)
    (present : 0 ≤ cellLen data offset) :
    scanCell table index data offset =
      (Value.fromRawBytes
        (slice data (offset + 6) (cellLen data offset).toNat)
        column.colType).map .found := by
  have bounds := cellLen_bounds data offset
  unfold Damaged at whole
  have stop :
      (offset + 6 + (cellLen data offset % 2 ^ 64).toNat) % 2 ^ 64 =
        offset + 6 + (cellLen data offset).toNat := by
    omega
  have size :
      offset + 6 + (cellLen data offset).toNat - (offset + 6) =
        (cellLen data offset).toNat := by
    omega
  have notNull : cellLen data offset ≠ -1 := by
    omega
  have enough :
      ¬ data.length < offset + 6 + (cellLen data offset).toNat := by
    omega
  have header : offset + 6 ≤ data.length := by
    omega
  simp only [scanCell_of_header header, if_pos wanted,
    if_neg notNull, stop, if_neg enough, named, size]
  rw [if_neg (by omega)]

/-- The wanted cell, scanned as it should be, is found or reported. -/
theorem scanCell_wanted
    {column : ColumnDef}
    (addressable : data.length < 2 ^ 63)
    (named : table.columns[index]? = some column)
    (header : offset + 6 ≤ data.length)
    (wanted : cellIndex data offset = index)
    (well : ScansWell table index data offset) :
    (∃ message, scanCell table index data offset = .error (.error message)) ∨
      ¬ Damaged data offset ∧
        ∃ value, scanCell table index data offset = .ok (.found value) := by
  have bounds := cellLen_bounds data offset
  obtain ⟨reachesBack, hasByte⟩ := (well header).2 wanted
  by_cases damaged : Damaged data offset
  · left
    have pastEnd :
        data.length <
          (offset + 6 + (cellLen data offset % 2 ^ 64).toNat) % 2 ^ 64 := by
      unfold Damaged at damaged
      by_cases negative : cellLen data offset < -1
      · have far := reachesBack negative
        omega
      · omega
    have present : cellLen data offset ≠ -1 := by
      intro absent
      rw [Damaged, absent] at damaged
      simp at damaged
      omega
    exact ⟨_, scanCell_pastEnd header wanted present pastEnd⟩
  · by_cases absent : cellLen data offset = -1
    · exact .inr ⟨damaged, _, scanCell_absent header wanted absent⟩
    · have present : 0 ≤ cellLen data offset := by
        unfold Damaged at damaged
        omega
      have payload :=
        scanCell_payload addressable named (by omega) damaged wanted present
      have returns :=
        (Value.fromRawBytes_returns_iff
          (slice data (offset + 6) (cellLen data offset).toNat)
          column.colType).mpr
          fun empty => hasByte present damaged column named empty.2
      rw [payload]
      rcases returns with ⟨value, decoded⟩ | ⟨_, failed, message, rfl⟩
      · rw [decoded]
        exact .inr ⟨damaged, value, rfl⟩
      · rw [failed]
        exact .inl ⟨message, rfl⟩

/-- The offset behind a cell that is scanned as it should be fits a word. -/
theorem ScansWell.noWrap
    (addressable : data.length < 2 ^ 63)
    (well : ScansWell table index data offset)
    (header : offset + 6 ≤ data.length)
    (present : cellLen data offset ≠ -1) :
    offset + 6 + (cellLen data offset % 2 ^ 64).toNat < 2 ^ 64 := by
  have bounds := cellLen_bounds data offset
  by_cases wanted : cellIndex data offset = index
  · have far := ((well header).2 wanted).1
    omega
  · have whole := (well header).1 wanted
    unfold Damaged at whole
    omega

end Cell

/-! ## The whole scan -/

section Scan

variable
  {table : TableDef}
  {index : Nat}
  {data : Bytes}

/-- A scan past the end of the row has found no cell. -/
theorem scanCells_done
    {rounds offset : Nat}
    (done : data.length ≤ offset) :
    scanCells table index data rounds offset = .ok .null := by
  unfold scanCells
  exact if_pos done

/-- A round of a scan inside the row looks at one cell. -/
theorem scanCells_round
    {rounds offset : Nat}
    (inside : offset < data.length) :
    scanCells table index data (rounds + 1) offset =
      (scanCell table index data offset >>= fun scanned =>
        match scanned with
        | .found value =>
            .ok value
        | .next next =>
            scanCells table index data rounds next) := by
  rw [scanCells, if_neg (by omega)]
  rfl

/-- A scan passes over whole cells of other columns. -/
theorem scanCells_whole
    (addressable : data.length < 2 ^ 63)
    {rounds offset : Nat}
    (inside : offset < data.length)
    (whole : ¬ Damaged data offset)
    (other : cellIndex data offset ≠ index) :
    scanCells table index data (rounds + 1) offset =
      scanCells table index data rounds
        (offset + 6 + (cellLen data offset).toNat) := by
  rw [scanCells_round inside, scanCell_whole addressable inside whole other]
  rfl

variable (table) in
/-- The scan comes to every cell that it has to look at, in time. -/
theorem HasToScan.reached
    {start offset : Nat}
    (has : HasToScan index data start offset)
    (addressable : data.length < 2 ^ 63)
    {rounds : Nat}
    (enough : data.length < start + rounds) :
    Visits table index data start offset ∧
      ∃ left,
        data.length < offset + left ∧
          scanCells table index data rounds start =
            scanCells table index data left offset := by
  induction has generalizing rounds with
  | here start =>
      exact ⟨.here start, rounds, enough, rfl⟩
  | later inside whole other _ inductionHypothesis =>
      cases rounds with
      | zero =>
          omega
      | succ rounds =>
          obtain ⟨visits, left, more, same⟩ :=
            inductionHypothesis (show data.length < _ + rounds by omega)
          refine ⟨.later inside (scanCell_whole addressable inside whole other)
            visits, left, more, ?_⟩
          rw [scanCells_whole addressable inside whole other, same]

/--
A scan that ends with a value or an error, the latter if one of the cells it has
to look at is damaged, and that comes to no other cells.
-/
structure ScansSafely
    (table : TableDef)
    (index : Nat)
    (data : Bytes)
    (rounds start : Nat) :
    Prop where
  outcome :
    (∃ message,
        scanCells table index data rounds start = .error (.error message)) ∨
      (¬ ∃ offset, HasToScan index data start offset ∧ Damaged data offset) ∧
        ∃ value, scanCells table index data rounds start = .ok value
  visited :
    ∀ offset,
      Visits table index data start offset →
      HasToScan index data start offset

/-- A scan that does not pass over its first cell comes to no other. -/
theorem Visits.eq_start
    {start offset : Nat}
    (visits : Visits table index data start offset)
    (stops :
      start < data.length →
      ∀ next, scanCell table index data start ≠ .ok (.next next)) :
    offset = start := by
  cases visits with
  | here =>
      rfl
  | later inside passed =>
      exact absurd passed (stops inside _)

/-- A search that ends at its first cell has to look at no other. -/
theorem HasToScan.eq_start
    {start offset : Nat}
    (has : HasToScan index data start offset)
    (stops : start < data.length → cellIndex data start = index) :
    offset = start := by
  cases has with
  | here =>
      rfl
  | later inside _ other =>
      exact absurd (stops inside) other

/-- A scan at the end of the row is over. -/
theorem ScansSafely.done
    {rounds start : Nat}
    (done : data.length ≤ start) :
    ScansSafely table index data rounds start := by
  refine ⟨.inr ⟨?_, .null, scanCells_done done⟩, ?_⟩
  · rintro ⟨offset, has, damaged⟩
    rw [has.eq_start fun inside => absurd inside (by omega)] at damaged
    exact absurd damaged.1 (by omega)
  · intro offset visits
    rw [visits.eq_start fun inside => absurd inside (by omega)]
    exact .here start

/-- A scan that cannot read its first cell reports it. -/
theorem ScansSafely.failed
    {rounds start : Nat}
    {message : String}
    (inside : start < data.length)
    (failed : scanCell table index data start = .error (.error message)) :
    ScansSafely table index data (rounds + 1) start := by
  refine ⟨.inl ⟨message, ?_⟩, ?_⟩
  · rw [scanCells_round inside, failed]
    rfl
  · intro offset visits
    rw [visits.eq_start fun _ next passed => by
      rw [failed] at passed
      cases passed]
    exact .here start

/-- A scan that finds its column in an undamaged first cell. -/
theorem ScansSafely.found
    {rounds start : Nat}
    {value : Value}
    (inside : start < data.length)
    (wanted : cellIndex data start = index)
    (whole : ¬ Damaged data start)
    (found : scanCell table index data start = .ok (.found value)) :
    ScansSafely table index data (rounds + 1) start := by
  refine ⟨.inr ⟨?_, value, ?_⟩, ?_⟩
  · rintro ⟨offset, has, damaged⟩
    rw [has.eq_start fun _ => wanted] at damaged
    exact whole damaged
  · rw [scanCells_round inside, found]
    rfl
  · intro offset visits
    rw [visits.eq_start fun _ next passed => by
      rw [found] at passed
      cases passed]
    exact .here start

/-- A scan that passes over a whole cell of another column. -/
theorem ScansSafely.passed
    (addressable : data.length < 2 ^ 63)
    {rounds start : Nat}
    (inside : start < data.length)
    (whole : ¬ Damaged data start)
    (other : cellIndex data start ≠ index)
    (rest :
      ScansSafely table index data rounds
        (start + 6 + (cellLen data start).toNat)) :
    ScansSafely table index data (rounds + 1) start := by
  constructor
  · rw [scanCells_whole addressable inside whole other]
    refine rest.outcome.imp_right (And.imp_left ?_)
    rintro clean ⟨offset, has, damaged⟩
    cases has with
    | here =>
        exact whole damaged
    | later _ _ _ behind =>
        exact clean ⟨offset, behind, damaged⟩
  · intro offset visits
    cases visits with
    | here =>
        exact .here start
    | later _ passed behind =>
        rw [scanCell_whole addressable inside whole other] at passed
        cases passed
        exact .later inside whole other (rest.visited offset behind)

/-- A scan over cells that are scanned as they should be is safe. -/
theorem ScansSafely.ofScansWell
    {column : ColumnDef}
    (addressable : data.length < 2 ^ 63)
    (named : table.columns[index]? = some column)
    {rounds start : Nat}
    (enough : data.length < start + rounds)
    (well :
      ∀ offset,
        HasToScan index data start offset →
        ScansWell table index data offset) :
    ScansSafely table index data rounds start := by
  induction rounds generalizing start with
  | zero =>
      exact .done (by omega)
  | succ rounds inductionHypothesis =>
      by_cases inside : start < data.length
      · by_cases header : start + 6 ≤ data.length
        · have here := well start (.here start)
          by_cases wanted : cellIndex data start = index
          · rcases scanCell_wanted addressable named header wanted here with
              ⟨message, failed⟩ | ⟨whole, value, found⟩
            · exact .failed inside failed
            · exact .found inside wanted whole found
          · have whole := (here header).1 wanted
            apply ScansSafely.passed addressable inside whole wanted
            apply inductionHypothesis (by omega)
            intro offset has
            exact well offset (.later inside whole wanted has)
        · exact .failed inside (scanCell_truncated (by omega))
      · exact .done (by omega)

end Scan

/-! ## Decoding a damaged row -/

/-- A cell that decodes is whole, and the data behind it comes next. -/
theorem decodeCell_eq_ok
    {table : TableDef}
    {data rest : Bytes}
    {row next : List Value}
    (decoded : decodeCell table data row = .ok (rest, next)) :
    ¬ Damaged data 0 ∧ rest = data.drop (6 + (cellLen data 0).toNat) := by
  have length : cellLen data 0 = readI32 data 2 :=
    rfl
  rw [Damaged, length]
  unfold decodeCell at decoded
  split at decoded
  · cases decoded
  · simp only at decoded
    split at decoded
    · cases decoded
    · split at decoded
      · cases decoded
      · rename_i short
        split at decoded
        · rename_i absent
          cases decoded
          rw [absent]
          exact ⟨by simp only [Int.reduceNeg, Int.reduceToNat]; omega, rfl⟩
        · split at decoded
          · cases decoded
          · obtain ⟨value, _, same⟩ := Fallible.bind_eq_ok.mp decoded
            cases same
            exact ⟨by omega, rfl⟩

/-- The fields of a cell in the middle of a row. -/
theorem cellLen_drop (data : Bytes) (start : Nat) :
    cellLen (data.drop start) 0 = cellLen data start := by
  simp [cellLen, readI32, slice, List.drop_drop]

/-- Decoding goes on behind every cell that a search has to look at. -/
theorem HasToScan.decodes
    {table : TableDef}
    {index : Nat}
    {data : Bytes}
    {start offset : Nat}
    (has : HasToScan index data start offset)
    {rounds : Nat}
    {row final : List Value}
    (decoded : decodeCells table rounds (data.drop start) row = .ok final) :
    ∃ rounds row, decodeCells table rounds (data.drop offset) row = .ok final := by
  induction has generalizing rounds row with
  | here start =>
      exact ⟨rounds, row, decoded⟩
  | @later start offset inside whole other rest inductionHypothesis =>
      have nonempty : data.drop start ≠ [] := by
        simpa using inside
      obtain ⟨byte, tail, shape⟩ := List.exists_cons_of_ne_nil nonempty
      rw [shape] at decoded
      cases rounds with
      | zero =>
          cases decoded
      | succ rounds =>
          rw [decodeCells, ← shape] at decoded
          obtain ⟨⟨behind, next⟩, cell, more⟩ := Fallible.bind_eq_ok.mp decoded
          obtain ⟨_, rfl⟩ := decodeCell_eq_ok cell
          rw [cellLen_drop, List.drop_drop, ← Nat.add_assoc] at more
          exact inductionHypothesis more

/-- A row that is damaged where a search has to look does not decode. -/
theorem decodeRowColumns_damaged
    {table : TableDef}
    {index : Nat}
    {data : Bytes}
    {offset : Nat}
    (has : HasToScan index data 0 offset)
    (damaged : Damaged data offset)
    (row : List Value) :
    decodeRowColumns data table ≠ .ok row := by
  intro decoded
  obtain ⟨rounds, partialRow, more⟩ := has.decodes decoded
  have nonempty : data.drop offset ≠ [] := by
    simpa using damaged.1
  obtain ⟨byte, tail, shape⟩ := List.exists_cons_of_ne_nil nonempty
  rw [shape] at more
  cases rounds with
  | zero =>
      cases more
  | succ rounds =>
      rw [decodeCells, ← shape] at more
      obtain ⟨⟨behind, next⟩, cell, _⟩ := Fallible.bind_eq_ok.mp more
      apply (decodeCell_eq_ok cell).1
      rw [Damaged, cellLen_drop, List.length_drop]
      unfold Damaged at damaged
      omega

/-! ## What the scan of a damaged row does -/

/-- A point lookup reads a column outside the key from the row's cells. -/
theorem Projection.fastValue_scanned
    {projection : Projection}
    {index : Nat}
    (scanned : projection.keyColIdxs.idxOf? index = none)
    (keyParts : List Bytes)
    (data : Bytes) :
    projection.fastValue keyParts data index =
      scanCells projection.table index data (data.length + 1) 0 := by
  rw [Projection.fastValue, scanned]

/--
A scan that is safe comes to no cell of another column that is damaged behind
its header.
-/
theorem SafeScan.whole
    {projection : Projection}
    {keyParts : List Bytes}
    {data : Bytes}
    {index offset : Nat}
    (addressable : data.length < 2 ^ 63)
    (scanned : projection.keyColIdxs.idxOf? index = none)
    (safe : SafeScan projection keyParts data index)
    (has : HasToScan index data 0 offset)
    (header : offset + 6 ≤ data.length)
    (other : cellIndex data offset ≠ index) :
    ¬ Damaged data offset := by
  intro damaged
  have bounds := cellLen_bounds data offset
  obtain ⟨message, failed⟩ := safe.reports ⟨offset, has, damaged⟩
  obtain ⟨visits, left, more, same⟩ :=
    has.reached projection.table addressable
      (show data.length < 0 + (data.length + 1) by omega)
  have present : cellLen data offset ≠ -1 := by
    intro absent
    rw [Damaged, absent] at damaged
    simp at damaged
    omega
  have noWrap := safe.noWrap offset visits header present
  have pastEnd :
      data.length ≤
        (offset + 6 + (cellLen data offset % 2 ^ 64).toNat) % 2 ^ 64 := by
    unfold Damaged at damaged
    omega
  -- the next offset is behind the row, so the scan ends as if all were well
  have ended :
      scanCells projection.table index data left offset = .ok .null := by
    cases left with
    | zero =>
        omega
    | succ left =>
        rw [scanCells_round (by omega), scanCell_other header other present]
        exact scanCells_done pastEnd
  rw [Projection.fastValue_scanned scanned, same, ended] at failed
  cases failed

/-- A scan that is safe finds the byte of a tinyint or a boolean. -/
theorem SafeScan.hasByte
    {projection : Projection}
    {keyParts : List Bytes}
    {data : Bytes}
    {index offset : Nat}
    {column : ColumnDef}
    (addressable : data.length < 2 ^ 63)
    (scanned : projection.keyColIdxs.idxOf? index = none)
    (named : projection.table.columns[index]? = some column)
    (safe : SafeScan projection keyParts data index)
    (has : HasToScan index data 0 offset)
    (inside : offset < data.length)
    (wanted : cellIndex data offset = index)
    (present : 0 ≤ cellLen data offset)
    (whole : ¬ Damaged data offset) :
    ¬ ReadsEmptyByte column.colType
      (slice data (offset + 6) (cellLen data offset).toNat) := by
  intro empty
  have bounds := cellLen_bounds data offset
  obtain ⟨_, left, more, same⟩ :=
    has.reached projection.table addressable
      (show data.length < 0 + (data.length + 1) by omega)
  have short :
      (slice data (offset + 6) (cellLen data offset).toNat).length < 2 ^ 31 := by
    have atMost := List.length_take_le (cellLen data offset).toNat
      (data.drop (offset + 6))
    unfold slice
    omega
  have panics :
      Value.fromRawBytes (slice data (offset + 6) (cellLen data offset).toNat)
          column.colType =
        .error .panic := by
    rw [Value.fromRawBytes, Value.fromWire_panics_iff, prefixed_i32Be_iff,
      List.drop_left' (length_i32Be _)]
    exact ⟨short, empty⟩
  apply safe.inBounds
  cases left with
  | zero =>
      omega
  | succ left =>
      rw [Projection.fastValue_scanned scanned, same,
        scanCells_round inside,
        scanCell_payload addressable named inside whole wanted present, panics]
      rfl

/--
The scan of a column is safe on a row exactly when all cells that it has to look
at are scanned as they should be.
-/
theorem fast_point_scan_safe_iff
    {projection : Projection}
    {index : Nat}
    (named : index < projection.table.columns.length)
    (scanned : projection.keyColIdxs.idxOf? index = none)
    (keyParts : List Bytes)
    {data : Bytes}
    (addressable : data.length < 2 ^ 63) :
    SafeScan projection keyParts data index ↔
      ∀ offset,
        HasToScan index data 0 offset →
        ScansWell projection.table index data offset := by
  have column := List.getElem?_eq_getElem named
  constructor
  · intro safe offset has header
    obtain ⟨visits, _⟩ :=
      has.reached projection.table addressable
        (show data.length < 0 + (data.length + 1) by omega)
    refine ⟨safe.whole addressable scanned has header, ?_⟩
    intro wanted
    refine ⟨?_, ?_⟩
    · intro negative
      have bounds := cellLen_bounds data offset
      have noWrap := safe.noWrap offset visits header (by omega)
      omega
    · intro present whole column named
      exact safe.hasByte addressable scanned named has (by omega) wanted present
        whole
  · intro well
    have safe :=
      ScansSafely.ofScansWell addressable column
        (show data.length < 0 + (data.length + 1) by omega) well
    have same := Projection.fastValue_scanned scanned keyParts data
    refine ⟨?_, ?_, ?_, ?_⟩
    · rw [same]
      rcases safe.outcome with ⟨message, failed⟩ | ⟨_, value, found⟩
      · simp [failed]
      · simp [found]
    · rw [same]
      rcases safe.outcome with ⟨message, failed⟩ | ⟨_, value, found⟩
      · simp [failed]
      · simp [found]
    · intro offset visits header present
      exact (well offset (safe.visited offset visits)).noWrap addressable header
        present
    · intro damaged
      rw [same]
      rcases safe.outcome with failed | ⟨clean, _⟩
      · exact failed
      · exact absurd damaged clean

/--
A projection whose values all return or fail does so too, and it fails if one of
them does.
-/
theorem Projection.projectFastPoint_returns
    {projection : Projection}
    {keyParts : List Bytes}
    {data : Bytes}
    (each :
      ∀ index ∈ projection.selectedIdxs,
        ReturnsOrFails Fault.IsError
          (projection.fastValue keyParts data index)) :
    ReturnsOrFails Fault.IsError (projection.projectFastPoint keyParts data) ∧
      ∀ index ∈ projection.selectedIdxs,
        ∀ message,
          projection.fastValue keyParts data index = .error (.error message) →
          ∃ other,
            projection.projectFastPoint keyParts data =
              .error (.error other) := by
  unfold Projection.projectFastPoint
  generalize projection.selectedIdxs = selected at each ⊢
  induction selected with
  | nil =>
      exact ⟨.inl ⟨[], rfl⟩, by simp⟩
  | cons first rest inductionHypothesis =>
      obtain ⟨returns, fails⟩ :=
        inductionHypothesis fun index member => each index (by simp [member])
      simp only [List.mapM_cons]
      rcases each first (by simp) with
        ⟨value, found⟩ | ⟨_, failed, message, rfl⟩
      · rw [found]
        rcases returns with ⟨values, rest⟩ | ⟨_, rest, other, rfl⟩
        · rw [rest]
          refine ⟨.inl ⟨_, rfl⟩, ?_⟩
          intro index member message failed
          rcases List.mem_cons.mp member with rfl | later
          · rw [found] at failed
            cases failed
          · obtain ⟨other, impossible⟩ := fails index later message failed
            rw [rest] at impossible
            cases impossible
        · rw [rest]
          exact ⟨.inr ⟨_, rfl, other, rfl⟩, fun _ _ _ _ => ⟨other, rfl⟩⟩
      · rw [failed]
        exact ⟨.inr ⟨_, rfl, message, rfl⟩, fun _ _ _ _ => ⟨message, rfl⟩⟩

/--
A point lookup whose selected columns are all scanned safely returns or fails,
and it fails if the portion to scan for one of them is damaged.
-/
theorem Projection.projectFastPoint_safe
    {projection : Projection}
    {keyParts : List Bytes}
    {data : Bytes}
    (keys :
      ∀ index ∈ projection.selectedIdxs,
        projection.keyColIdxs.idxOf? index ≠ none →
        ReturnsOrFails Fault.IsError
          (projection.fastValue keyParts data index))
    (safe :
      ∀ index ∈ projection.selectedIdxs,
        projection.keyColIdxs.idxOf? index = none →
        SafeScan projection keyParts data index) :
    ReturnsOrFails Fault.IsError (projection.projectFastPoint keyParts data) ∧
      ∀ index ∈ projection.selectedIdxs,
        projection.keyColIdxs.idxOf? index = none →
        ∀ offset,
          HasToScan index data 0 offset →
          Damaged data offset →
          ∃ message,
            projection.projectFastPoint keyParts data =
              .error (.error message) := by
  have each :
      ∀ index ∈ projection.selectedIdxs,
        ReturnsOrFails Fault.IsError
          (projection.fastValue keyParts data index) := by
    intro index selected
    by_cases scanned : projection.keyColIdxs.idxOf? index = none
    · have scan := safe index selected scanned
      exact (returns_iff_ne_panic scan.terminates).mpr scan.inBounds
    · exact keys index selected scanned
  obtain ⟨returns, fails⟩ := projectFastPoint_returns each
  refine ⟨returns, ?_⟩
  intro index selected scanned offset has damaged
  obtain ⟨message, failed⟩ :=
    (safe index selected scanned).reports ⟨offset, has, damaged⟩
  exact fails index selected message failed

/-- A row of an int key with columns a and b whose second cell is cut short. -/
theorem fast_point_scan_safe_cut_short :
    let table : TableDef :=
      ⟨"app", "t",
        [⟨"k", .int, true, false⟩, ⟨"a", .int, false, false⟩,
          ⟨"b", .text, false, false⟩],
        ["k"], []⟩
    let projection : Projection := ⟨table, [1], [(0, .int 1)], [], [0]⟩
    let data : Bytes := [0, 2, 0, 0, 0, 1, 65, 0, 1, 0, 0, 0, 9]
    SafeScan projection [] data 1 ∧
      projection.fastValue [] data 1 = fail "corrupt row value" := by
  intro table projection data
  refine ⟨?_, by decide +kernel⟩
  apply (fast_point_scan_safe_iff (by decide) (by decide) []
    (by decide : data.length < 2 ^ 63)).mpr
  have first : cellIndex data 0 ≠ 1 ∧ cellLen data 0 = 1 := by
    decide +kernel
  have second : cellIndex data 7 = 1 ∧ cellLen data 7 = 9 := by
    decide +kernel
  intro offset has
  cases has with
  | here =>
      intro header
      refine ⟨fun _ => ?_, fun wanted => absurd wanted first.1⟩
      rw [Damaged, first.2]
      decide
  | later _ _ _ rest =>
      rw [first.2] at rest
      have here := rest.eq_start fun _ => second.1
      subst here
      intro header
      refine ⟨fun other => absurd second.1 other, fun _ => ⟨?_, ?_⟩⟩
      · intro negative
        have length : cellLen data 7 < -1 := negative
        rw [second.2] at length
        omega
      · intro _ whole
        apply absurd _ whole
        show Damaged data 7
        rw [Damaged, second.2]
        decide

/--
A text column behind a cell whose length is `-6` in a table with an int key:
the scan of the text column goes back to the start of the row forever, and the
scan of the other one slices backwards.
-/
theorem damaged_cell_defeats_scan :
    let table : TableDef :=
      ⟨"app", "t",
        [⟨"k", .int, true, false⟩, ⟨"a", .int, false, false⟩,
          ⟨"b", .text, false, false⟩],
        ["k"], []⟩
    let projection : Projection := ⟨table, [1, 2], [(0, .int 1)], [], [0]⟩
    let data : Bytes := [0, 1, 255, 255, 255, 250]
    projection.fastValue [] data 2 = .error .hang ∧
      projection.fastValue [] data 1 = .error .panic ∧
      ¬ SafeScan projection [] data 2 ∧
      ¬ SafeScan projection [] data 1 ∧
      decodeRowColumns data table = fail "corrupt row value" := by
  intro table projection data
  have hangs : projection.fastValue [] data 2 = .error .hang := by
    decide +kernel
  have panics : projection.fastValue [] data 1 = .error .panic := by
    decide +kernel
  exact ⟨hangs, panics, fun safe => safe.terminates hangs,
    fun safe => safe.inBounds panics, by decide +kernel⟩

end RhydaDB
