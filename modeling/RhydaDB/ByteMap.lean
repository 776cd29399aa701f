import RhydaDB.ByteStrings

/-!
# Ordered finite maps keyed by byte strings

`Std.ExtTreeMap` supplies the map itself.  This module adds the range
operations of an ordered key-value engine: deleting a half-open key range and
streaming every entry whose key extends a given stem, in key order.

A stem that ends in a byte with a successor is exactly a half-open interval of
the lexicographic order, which is what lets a range deletion remove everything
below a stem and nothing else.
-/

namespace ByteStrings

/-- The comparison function of byte strings decides their strict order. -/
theorem compare_eq_lt_iff
    {first second : Bytes} :
    compare first second = .lt ↔ first < second := by
  induction first generalizing second with
  | nil =>
      cases second with
      | nil =>
          simp [compare, List.compareLex]
      | cons byte rest =>
          simp [compare, List.compareLex]
  | cons byte rest inductionHypothesis =>
      cases second with
      | nil =>
          simp [compare, List.compareLex]
      | cons otherByte otherRest =>
          have heads :
              compare byte otherByte = .lt ↔ byte < otherByte :=
            Std.compare_eq_lt
          have headsEqual :
              compare byte otherByte = .eq ↔ byte = otherByte :=
            Std.compare_eq_iff_eq
          rw [List.compare_cons_cons, List.cons_lt_cons_iff,
            Ordering.then_eq_lt, heads, headsEqual,
            inductionHypothesis]

/-- Every extension of a stem is at least the stem. -/
theorem le_of_stem
    {stem key : Bytes}
    (extends_ : stem <+: key) :
    stem ≤ key := by
  obtain ⟨rest, rfl⟩ := extends_
  induction stem with
  | nil =>
      cases rest with
      | nil =>
          exact le_rfl
      | cons byte rest =>
          exact le_of_lt List.Lex.nil
  | cons byte stem inductionHypothesis =>
      exact List.cons_le_cons byte inductionHypothesis

/-- A string squeezed between two strings with one head shares that head. -/
theorem cons_between
    {head byte : UInt8}
    {lower rest upper : Bytes}
    (above : head :: lower ≤ byte :: rest)
    (below : byte :: rest < head :: upper) :
    byte = head ∧ lower ≤ rest ∧ rest < upper := by
  have notAbove : ¬ head < byte := by
    intro beyond
    rcases List.cons_lt_cons_iff.mp below with less | ⟨same, _⟩
    · exact absurd beyond (not_lt_of_gt less)
    · exact absurd same.symm (ne_of_lt beyond)
  have notBelow : ¬ byte < head := by
    intro beyond
    exact absurd (List.Lex.rel beyond) (not_lt_of_ge above)
  have same : byte = head :=
    le_antisymm (not_lt.mp notAbove) (not_lt.mp notBelow)
  subst same
  refine ⟨rfl, ?_, ?_⟩
  · by_contra beyond
    exact absurd (List.Lex.cons (lt_of_not_ge beyond))
      (not_lt_of_ge above)
  · rcases List.cons_lt_cons_iff.mp below with less | ⟨_, less⟩
    · exact absurd less (lt_irrefl _)
    · exact less

/-- Anything between a stem and one of its extensions extends the stem. -/
theorem stem_of_between
    {stem middle key : Bytes}
    (lower : stem ≤ middle)
    (upper : middle < key)
    (extends_ : stem <+: key) :
    stem <+: middle := by
  obtain ⟨rest, rfl⟩ := extends_
  induction stem generalizing middle with
  | nil =>
      exact List.nil_prefix
  | cons head stem inductionHypothesis =>
      cases middle with
      | nil =>
          exact absurd List.Lex.nil (not_lt_of_ge lower)
      | cons byte middle =>
          obtain ⟨rfl, tailLower, tailUpper⟩ :=
            cons_between lower upper
          have tail := inductionHypothesis tailLower tailUpper
          simpa using tail

/--
The strings extending `stem ++ [last]` form the half-open interval up to the
same stem with the next byte.
-/
theorem stem_iff_between
    {stem key : Bytes}
    {last next : UInt8}
    (adjacent : last ⋖ next) :
    stem ++ [last] <+: key ↔
      stem ++ [last] ≤ key ∧ key < stem ++ [next] := by
  constructor
  · intro extends_
    refine ⟨le_of_stem extends_, ?_⟩
    obtain ⟨rest, rfl⟩ := extends_
    rw [List.append_assoc]
    apply List.Lex.append_left
    exact List.Lex.rel adjacent.lt
  · rintro ⟨lower, upper⟩
    induction stem generalizing key with
    | nil =>
        cases key with
        | nil =>
            exact absurd List.Lex.nil (not_lt_of_ge lower)
        | cons byte rest =>
            have below : byte < next := by
              rcases List.cons_lt_cons_iff.mp upper with
                  less | ⟨_, less⟩
              · exact less
              · exact absurd less (List.not_lt_nil rest)
            have above : last ≤ byte := by
              by_contra beyond
              exact absurd (List.Lex.rel (lt_of_not_ge beyond))
                (not_lt_of_ge lower)
            have same : byte = last := by
              by_contra different
              exact adjacent.2
                (lt_of_le_of_ne above (Ne.symm different)) below
            subst same
            exact ⟨rest, rfl⟩
    | cons head stem inductionHypothesis =>
        cases key with
        | nil =>
            exact absurd List.Lex.nil (not_lt_of_ge lower)
        | cons byte rest =>
            obtain ⟨rfl, tailLower, tailUpper⟩ :=
              cons_between lower upper
            have tail := inductionHypothesis tailLower tailUpper
            simpa using tail

end ByteStrings

open ByteStrings

/-- An ordered finite map from byte strings. -/
abbrev ByteMap (β : Type) :=
  Std.ExtTreeMap Bytes β compare

namespace ByteMap

variable {β : Type}

/-- Remove every key in the half-open range `[lower, upper)`. -/
def eraseRange
    (map : ByteMap β)
    (lower upper : Bytes) :
    ByteMap β :=
  map.filter fun key _ => !decide (lower ≤ key ∧ key < upper)

/-- Entries at or after `lower`, in key order. -/
def seek
    (map : ByteMap β)
    (lower : Bytes) :
    List (Bytes × β) :=
  map.toList.dropWhile fun entry => decide (entry.1 < lower)

/-- Seek to `stem` and keep streaming while the key extends it. -/
def scanStem
    (map : ByteMap β)
    (stem : Bytes) :
    List (Bytes × β) :=
  (map.seek stem).takeWhile fun entry => stem.isPrefixOf entry.1

@[simp] theorem getElem?_insert_bytes
    {map : ByteMap β}
    {key query : Bytes}
    {value : β} :
    (map.insert key value)[query]? =
      if key = query then some value else map[query]? := by
  simp [Std.ExtTreeMap.getElem?_insert]

@[simp] theorem getElem?_erase_bytes
    {map : ByteMap β}
    {key query : Bytes} :
    (map.erase key)[query]? =
      if key = query then none else map[query]? := by
  simp [Std.ExtTreeMap.getElem?_erase]

/-- A range deletion removes exactly the keys of its range. -/
@[simp] theorem getElem?_eraseRange
    {map : ByteMap β}
    {lower upper query : Bytes} :
    (map.eraseRange lower upper)[query]? =
      if lower ≤ query ∧ query < upper then none else map[query]? := by
  rw [eraseRange, Std.ExtTreeMap.getElem?_filter]
  simp only [Std.ExtTreeMap.getKey_eq]
  by_cases inside : lower ≤ query ∧ query < upper
  · simp [inside]
  · cases map[query]? <;> simp [inside]

/-- Entries are listed in strictly increasing key order. -/
theorem pairwise_toList
    (map : ByteMap β) :
    map.toList.Pairwise fun first second => first.1 < second.1 :=
  (Std.ExtTreeMap.ordered_keys_toList).imp compare_eq_lt_iff.mp

/--
On a strictly increasing list, seeking to a stem and streaming while it is
extended keeps exactly the entries extending it.
-/
theorem takeWhile_dropWhile_eq_filter
    {stem : Bytes}
    {entries : List (Bytes × β)}
    (sorted :
      entries.Pairwise fun first second => first.1 < second.1) :
    ((entries.dropWhile fun entry => decide (entry.1 < stem)).takeWhile
        fun entry => stem.isPrefixOf entry.1) =
      entries.filter fun entry => stem.isPrefixOf entry.1 := by
  induction entries with
  | nil =>
      rfl
  | cons entry rest inductionHypothesis =>
      obtain ⟨headLess, restSorted⟩ := List.pairwise_cons.mp sorted
      by_cases before : entry.1 < stem
      · have notExtending : stem.isPrefixOf entry.1 = false := by
          rw [Bool.eq_false_iff]
          intro extending
          have atLeast :=
            le_of_stem (List.isPrefixOf_iff_prefix.mp extending)
          exact absurd before (not_lt_of_ge atLeast)
        simp [before, notExtending, inductionHypothesis restSorted]
      · have restAfter :
            ∀ later ∈ rest, ¬ later.1 < stem := by
          intro later member earlier
          exact before ((headLess later member).trans earlier)
        have noDrop :
            (rest.dropWhile fun entry => decide (entry.1 < stem)) =
              rest := by
          cases rest with
          | nil =>
              rfl
          | cons second tail =>
              have secondAfter := restAfter second (by simp)
              simp [secondAfter]
        by_cases extending : stem.isPrefixOf entry.1 = true
        · rw [noDrop] at inductionHypothesis
          simp [before, extending, inductionHypothesis restSorted]
        · have restNotExtending :
              ∀ later ∈ rest, stem.isPrefixOf later.1 = false := by
            intro later member
            rw [Bool.eq_false_iff]
            intro laterExtending
            apply extending
            exact List.isPrefixOf_iff_prefix.mpr
              (stem_of_between
                (le_of_not_gt before)
                (headLess later member)
                (List.isPrefixOf_iff_prefix.mp laterExtending))
          have emptyFilter :
              (rest.filter fun entry => stem.isPrefixOf entry.1) =
                [] := by
            rw [List.filter_eq_nil_iff]
            intro later member
            simp [restNotExtending later member]
          simp [before, extending, emptyFilter]

/-- Streaming under a stem is filtering by it. -/
theorem scanStem_eq_filter
    (map : ByteMap β)
    (stem : Bytes) :
    map.scanStem stem =
      map.toList.filter fun entry => stem.isPrefixOf entry.1 :=
  takeWhile_dropWhile_eq_filter map.pairwise_toList

/-- The stream under a stem visits exactly the bound keys extending it. -/
theorem mem_scanStem
    {map : ByteMap β}
    {stem key : Bytes}
    {value : β} :
    (key, value) ∈ map.scanStem stem ↔
      stem <+: key ∧ map[key]? = some value := by
  rw [scanStem_eq_filter, List.mem_filter,
    Std.ExtTreeMap.mem_toList_iff_getElem?_eq_some,
    List.isPrefixOf_iff_prefix]
  exact and_comm

/-- The stream under a stem is strictly increasing in its keys. -/
theorem pairwise_scanStem
    (map : ByteMap β)
    (stem : Bytes) :
    (map.scanStem stem).Pairwise
      fun first second => first.1 < second.1 := by
  rw [scanStem_eq_filter]
  exact map.pairwise_toList.filter _

/-- The stream under a stem visits no key twice. -/
theorem nodup_keys_scanStem
    (map : ByteMap β)
    (stem : Bytes) :
    ((map.scanStem stem).map Prod.fst).Nodup := by
  rw [List.Nodup, List.pairwise_map]
  exact (map.pairwise_scanStem stem).imp fun less => less.ne

/-- The stream under a stem depends only on the keys extending it. -/
theorem scanStem_congr
    {first second : ByteMap β}
    {stem : Bytes}
    (agree : ∀ key, stem <+: key → first[key]? = second[key]?) :
    first.scanStem stem = second.scanStem stem := by
  have sameMembers :
      ∀ entry,
        entry ∈ first.scanStem stem ↔ entry ∈ second.scanStem stem := by
    rintro ⟨key, value⟩
    rw [mem_scanStem, mem_scanStem]
    refine and_congr_right fun extending => ?_
    rw [agree key extending]
  have permutes :
      (first.scanStem stem).Perm (second.scanStem stem) :=
    (List.perm_ext_iff_of_nodup
      (List.Nodup.of_map _ (first.nodup_keys_scanStem stem))
      (List.Nodup.of_map _ (second.nodup_keys_scanStem stem))).mpr sameMembers
  refine permutes.eq_of_pairwise ?_
    (first.pairwise_scanStem stem) (second.pairwise_scanStem stem)
  intro one other _ _ less greater
  exact absurd (less.trans greater) (lt_irrefl _)

end ByteMap
