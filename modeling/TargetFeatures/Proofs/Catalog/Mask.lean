import Mathlib.Algebra.Group.Nat.Defs
import Mathlib.Data.List.Pairwise
import TargetFeatures.Catalog.Mask

/-!
# Members of extension sets

The ids that `Mask.idsBelow` lists, and what `Mask.isBelow` says about a written set: all its ids
are below the bound. A negative number stands for a set with ids beyond every bound. A written set
is determined by its members.
-/

namespace TargetFeatures.Mask

@[simp]
theorem contains_natCast (mask id : Nat) : contains (mask : Int) id = mask.testBit id := rfl

theorem mem_idsBelow {count : Nat} {mask : Int} {id : Nat} :
    id ∈ idsBelow count mask ↔ id < count ∧ contains mask id = true := by
  rw [idsBelow, List.mem_filter, List.mem_range]

theorem idsBelow_pairwise_lt (count : Nat) (mask : Int) : (idsBelow count mask).Pairwise (· < ·) :=
  List.pairwise_lt_range.filter _

theorem idsBelow_succ (count : Nat) (mask : Int) :
    idsBelow (count + 1) mask =
      if contains mask count then idsBelow count mask ++ [count] else idsBelow count mask := by
  rw [idsBelow, List.range_succ, List.filter_append, List.filter_cons, List.filter_nil, ← idsBelow]
  split
  · rfl
  · exact List.append_nil _

/-- As many ids are listed before one in a set as the set has below it. -/
theorem getElem?_idsBelow {count id : Nat} {mask : Int} (below : id < count)
    (member : contains mask id = true) :
    (idsBelow count mask)[(idsBelow id mask).length]? = some id := by
  induction count with
  | zero => exact absurd below (Nat.not_lt_zero id)
  | succ last ih =>
      rw [idsBelow_succ]
      rcases Nat.lt_succ_iff_lt_or_eq.mp below with earlier | rfl
      · have found := ih earlier
        split
        · rw [List.getElem?_append_left (List.getElem?_eq_some_iff.mp found).1, found]
        · exact found
      · rw [if_pos member, List.getElem?_concat_length]

theorem isBelow_natCast_iff {count mask : Nat} :
    isBelow count (mask : Int) = true ↔ mask < 2 ^ count := by
  have shifted : isBelow count (mask : Int) = true ↔ mask >>> count = 0 := by
    simp only [isBelow, beq_iff_eq]
    exact Int.ofNat_eq_zero
  rw [shifted, Nat.shiftRight_eq_div_pow, Nat.div_eq_zero_iff_lt (Nat.two_pow_pos count)]

theorem isBelow_iff {count : Nat} {mask : Int} :
    isBelow count mask = true ↔ ∀ id, contains mask id = true → id < count := by
  cases mask with
  | ofNat value =>
      refine isBelow_natCast_iff.trans ?_
      constructor
      · intro small id member
        by_contra beyond
        have larger := Nat.pow_le_pow_right Nat.two_pos (Nat.not_lt.mp beyond)
        rw [contains, Nat.testBit_lt_two_pow (Nat.lt_of_lt_of_le small larger)] at member
        cases member
      · intro members
        apply Nat.lt_pow_two_of_testBit
        intro id beyond
        by_contra present
        exact Nat.not_lt.mpr beyond (members id (by simpa [contains] using present))
  | negSucc value =>
      have shifted : isBelow count (.negSucc value) = false := rfl
      simp only [shifted, Bool.false_eq_true, false_iff, not_forall]
      refine ⟨max count (value.log2 + 1), ?_, by omega⟩
      have small : value < 2 ^ max count (value.log2 + 1) :=
        Nat.lt_of_lt_of_le Nat.lt_log2_self (Nat.pow_le_pow_right Nat.two_pos (by omega))
      simp [contains, Nat.testBit_lt_two_pow small]

theorem toNat_of_isBelow {count : Nat} {mask : Int} (below : isBelow count mask = true) :
    (mask.toNat : Int) = mask := by
  cases mask with
  | ofNat value => rfl
  | negSucc value => cases below

/-- Beyond a bound on its ids a set lists nothing more. -/
theorem idsBelow_of_isBelow {count bound : Nat} {mask : Int} (below : isBelow count mask = true)
    (enough : count ≤ bound) : idsBelow bound mask = idsBelow count mask := by
  rcases Nat.exists_eq_add_of_le enough with ⟨more, rfl⟩
  have nothing : ((List.range more).map (count + ·)).filter (contains mask) = [] := by
    rw [List.filter_eq_nil_iff]
    intro id member present
    rcases List.mem_map.mp member with ⟨offset, _, rfl⟩
    have bounded := isBelow_iff.mp below _ present
    omega
  rw [idsBelow, List.range_add, List.filter_append, nothing, List.append_nil, idsBelow]

/-- The ids in a set are those below any bound on them. -/
theorem idsBelow_eq_ids {count mask : Nat} (below : isBelow count (mask : Int) = true) :
    idsBelow count mask = ids mask := by
  have whole : isBelow (mask.log2 + 1) (mask : Int) = true :=
    isBelow_natCast_iff.mpr Nat.lt_log2_self
  have enough := Nat.le_add_right count (mask.log2 + 1)
  have more := Nat.le_add_left (mask.log2 + 1) count
  exact (idsBelow_of_isBelow below enough).symm.trans (idsBelow_of_isBelow whole more)

theorem mem_ids {mask id : Nat} : id ∈ ids mask ↔ mask.testBit id = true := by
  have below : isBelow (mask.log2 + 1) (mask : Int) = true :=
    isBelow_natCast_iff.mpr Nat.lt_log2_self
  rw [← idsBelow_eq_ids below, mem_idsBelow, contains_natCast]
  exact and_iff_right_of_imp fun member => isBelow_iff.mp below id member

theorem pairwise_ids (mask : Nat) : (ids mask).Pairwise (· < ·) :=
  List.pairwise_lt_range.filter _

theorem eq_iff {mask other : Nat} :
    mask = other ↔ ∀ id, mask.testBit id = true ↔ other.testBit id = true := by
  constructor
  · rintro rfl id
    rfl
  · exact fun same => Nat.eq_of_testBit_eq fun id => Bool.eq_iff_iff.mpr (same id)

/-- A set is part of another one when all its ids are in the other. -/
theorem and_eq_left_iff {mask other : Nat} :
    mask &&& other = mask ↔ ∀ id, mask.testBit id = true → other.testBit id = true := by
  constructor
  · intro part id member
    rw [← part, Nat.testBit_and, Bool.and_eq_true] at member
    exact member.2
  · intro part
    rw [eq_iff]
    intro id
    rw [Nat.testBit_and, Bool.and_eq_true]
    exact and_iff_left_of_imp (part id)

theorem testBit_ofIds {ids : List Nat} {id : Nat} : (ofIds ids).testBit id = true ↔ id ∈ ids := by
  have folded : ∀ mask : Nat, (ids.foldl (fun mask id => mask ||| single id) mask).testBit id =
      true ↔ mask.testBit id = true ∨ id ∈ ids := by
    induction ids with
    | nil => simp
    | cons first rest ih =>
        intro mask
        rw [List.foldl_cons, ih, Nat.testBit_or, testBit_single]
        simp [or_assoc, @eq_comm _ first id]
  simpa [ofIds] using folded 0

@[simp]
theorem contains_union (left right : Int) (id : Nat) :
    contains (union left right) id = (contains left id || contains right id) := by
  cases left <;> cases right <;> simp only [union, contains]
  · exact Nat.testBit_or _ _ _
  · rw [testBit_difference, Bool.not_and, Bool.not_not, Bool.or_comm]
  · rw [testBit_difference, Bool.not_and, Bool.not_not]
  · rw [Nat.testBit_and, Bool.not_and]

theorem eq_of_contains {left right : Int}
    (same : ∀ id, contains left id = contains right id) : left = right := by
  have apart : ∀ finite infinite : Nat,
      ¬∀ id, contains (.ofNat finite) id = contains (.negSucc infinite) id := by
    intro finite infinite same
    let far := max finite infinite
    have beyond : ∀ mask ≤ far, mask.testBit far = false := fun mask bound =>
      Nat.testBit_lt_two_pow (Nat.lt_of_le_of_lt bound Nat.lt_two_pow_self)
    have here := same far
    rw [contains, contains, beyond finite (Nat.le_max_left _ _),
      beyond infinite (Nat.le_max_right _ _)] at here
    cases here
  cases left with
  | ofNat left =>
      cases right with
      | ofNat right => exact congrArg Int.ofNat (Nat.eq_of_testBit_eq same)
      | negSucc right => exact absurd same (apart left right)
  | negSucc left =>
      cases right with
      | ofNat right => exact absurd (fun id => (same id).symm) (apart right left)
      | negSucc right =>
          have values : left = right :=
            Nat.eq_of_testBit_eq fun id => Bool.not_inj (same id)
          rw [values]

end TargetFeatures.Mask
