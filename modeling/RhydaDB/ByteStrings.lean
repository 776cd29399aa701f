import Mathlib

/-!
# Byte strings and big-endian integers

Byte strings are lists of bytes under lexicographic order.  Fixed-width
unsigned integers are written most significant byte first, so a width-`w`
field always occupies `w` bytes and drops every bit above them.
-/

/-- Bytes are linearly ordered by their numeric value. -/
instance linearOrderUInt8 : LinearOrder UInt8 where
  le_refl byte := UInt8.le_refl byte
  le_trans _ _ _ := UInt8.le_trans
  le_antisymm _ _ := UInt8.le_antisymm
  le_total := UInt8.le_total
  lt_iff_le_not_ge first second := by
    simp only [UInt8.lt_iff_toNat_lt, UInt8.le_iff_toNat_le]
    omega
  toDecidableLE := inferInstance
  toDecidableLT := inferInstance
  toDecidableEq := inferInstance

namespace ByteStrings

/-- A finite string of bytes. -/
abbrev Bytes := List UInt8

/-- The `width` big-endian bytes of `value`; higher bits are dropped. -/
def toBe : Nat → Nat → Bytes
  | 0, _ =>
      []
  | width + 1, value =>
      UInt8.ofNat (value / 256 ^ width) :: toBe width value

/-- The natural number with the given big-endian bytes. -/
def ofBe : Bytes → Nat
  | [] =>
      0
  | byte :: rest =>
      byte.toNat * 256 ^ rest.length + ofBe rest

/-- The two's-complement reading of the given big-endian bytes. -/
def ofBeSigned (bytes : Bytes) : Int :=
  if 2 * ofBe bytes < 256 ^ bytes.length then
    ofBe bytes
  else
    ofBe bytes - 256 ^ bytes.length

@[simp] theorem length_toBe
    (width value : Nat) :
    (toBe width value).length = width := by
  induction width with
  | zero =>
      rfl
  | succ width inductionHypothesis =>
      simp [toBe, inductionHypothesis]

/-- A big-endian field stays below its width's modulus. -/
theorem ofBe_lt
    (bytes : Bytes) :
    ofBe bytes < 256 ^ bytes.length := by
  induction bytes with
  | nil =>
      simp [ofBe]
  | cons byte rest inductionHypothesis =>
      have byteBound : byte.toNat < 256 :=
        byte.toNat_lt
      calc
        ofBe (byte :: rest)
            < byte.toNat * 256 ^ rest.length +
                256 ^ rest.length := by
              simpa [ofBe] using inductionHypothesis
        _ = (byte.toNat + 1) * 256 ^ rest.length := by
              ring
        _ ≤ 256 * 256 ^ rest.length :=
              Nat.mul_le_mul_right _ byteBound
        _ = 256 ^ (byte :: rest).length := by
              rw [List.length_cons, pow_succ']

/-- Writing then reading a field keeps the value modulo the field's size. -/
theorem ofBe_toBe
    (width value : Nat) :
    ofBe (toBe width value) = value % 256 ^ width := by
  induction width with
  | zero =>
      simp [toBe, ofBe, Nat.mod_one]
  | succ width inductionHypothesis =>
      have digit :
          (UInt8.ofNat (value / 256 ^ width)).toNat =
            value / 256 ^ width % 256 := by
        simp
      rw [toBe, ofBe, length_toBe, inductionHypothesis, digit,
        pow_succ, Nat.mod_mul]
      ring

/-- A value that fits its field is read back exactly. -/
theorem ofBe_toBe_of_lt
    {width value : Nat}
    (fits : value < 256 ^ width) :
    ofBe (toBe width value) = value := by
  rw [ofBe_toBe, Nat.mod_eq_of_lt fits]

/-- Digits above a field's width do not change the bytes written. -/
theorem toBe_add_mul
    (width value high : Nat) :
    toBe width (value + high * 256 ^ width) = toBe width value := by
  induction width generalizing high with
  | zero =>
      rfl
  | succ width inductionHypothesis =>
      have shifted :
          value + high * 256 ^ (width + 1) =
            value + high * 256 * 256 ^ width := by
        ring
      have digit :
          (value + high * 256 * 256 ^ width) / 256 ^ width =
            value / 256 ^ width + high * 256 :=
        Nat.add_mul_div_right _ _ (by positivity)
      simp only [toBe, shifted, digit,
        inductionHypothesis (high * 256)]
      congr 1
      apply UInt8.toNat_inj.mp
      simp

/-- Reading then writing a whole field returns the same bytes. -/
theorem toBe_ofBe
    (bytes : Bytes) :
    toBe bytes.length (ofBe bytes) = bytes := by
  induction bytes with
  | nil =>
      rfl
  | cons byte rest inductionHypothesis =>
      have restBound := ofBe_lt rest
      have digit :
          (byte.toNat * 256 ^ rest.length + ofBe rest) /
              256 ^ rest.length =
            byte.toNat := by
        rw [Nat.mul_comm, Nat.mul_add_div (by positivity),
          Nat.div_eq_of_lt restBound, Nat.add_zero]
      have tail :
          toBe rest.length
              (byte.toNat * 256 ^ rest.length + ofBe rest) =
            rest := by
        rw [Nat.add_comm, toBe_add_mul, inductionHypothesis]
      rw [List.length_cons, toBe, ofBe, digit, tail,
        UInt8.ofNat_toNat]

/-- A field below half its modulus reads back as a non-negative integer. -/
theorem ofBeSigned_toBe
    {width value : Nat}
    (fits : 2 * value < 256 ^ width) :
    ofBeSigned (toBe width value) = value := by
  have exact : ofBe (toBe width value) = value :=
    ofBe_toBe_of_lt (by omega)
  simp [ofBeSigned, exact, fits]

/-! ## Byte order -/

/-- Behind fields of one width the order is decided by the fields first. -/
theorem append_lt_append_iff
    {first second rest other : Bytes}
    (sameLength : first.length = second.length) :
    first ++ rest < second ++ other ↔
      first < second ∨ first = second ∧ rest < other := by
  induction first generalizing second with
  | nil =>
      cases List.length_eq_zero_iff.mp sameLength.symm
      simp
  | cons byte tail inductionHypothesis =>
      cases second with
      | nil =>
          cases sameLength
      | cons otherByte otherTail =>
          have tails := inductionHypothesis (Nat.succ.inj sameLength)
          rw [List.cons_append, List.cons_append, List.cons_lt_cons_iff,
            List.cons_lt_cons_iff, tails, List.cons.injEq]
          tauto

/-- Numbers with a leading digit are ordered by it first. -/
theorem mul_add_lt_iff
    {modulus digit otherDigit rest other : Nat}
    (bound : rest < modulus)
    (otherBound : other < modulus) :
    digit * modulus + rest < otherDigit * modulus + other ↔
      digit < otherDigit ∨ digit = otherDigit ∧ rest < other := by
  rcases lt_trichotomy digit otherDigit with less | rfl | greater
  · have step := Nat.mul_le_mul_right modulus (Nat.succ_le_of_lt less)
    rw [Nat.succ_mul] at step
    simp only [less, true_or, iff_true]
    omega
  · simp
  · have step := Nat.mul_le_mul_right modulus (Nat.succ_le_of_lt greater)
    rw [Nat.succ_mul] at step
    simp only [not_lt_of_gt greater, greater.ne', false_and, or_self, iff_false]
    omega

/-- Fields of one width are ordered as the numbers they stand for. -/
theorem lt_iff_ofBe_lt
    {first second : Bytes}
    (sameLength : first.length = second.length) :
    first < second ↔ ofBe first < ofBe second := by
  induction first generalizing second with
  | nil =>
      cases List.length_eq_zero_iff.mp sameLength.symm
      simp [ofBe]
  | cons byte tail inductionHypothesis =>
      cases second with
      | nil =>
          cases sameLength
      | cons otherByte otherTail =>
          have tailLength := Nat.succ.inj sameLength
          have bound := ofBe_lt tail
          have otherBound := ofBe_lt otherTail
          rw [← tailLength] at otherBound
          rw [List.cons_lt_cons_iff, inductionHypothesis tailLength, ofBe, ofBe,
            ← tailLength, UInt8.lt_iff_toNat_lt, ← UInt8.toNat_inj]
          exact (mul_add_lt_iff bound otherBound).symm

end ByteStrings
