import Mathlib.Data.List.Forall2
import Mathlib.Logic.Function.Iterate
import TargetFeatures.Proofs.Catalog.Naming

/-!
# Two views of a set of extensions

A set of extensions is read off its number from the lowest bit on, one shift a round, until nothing
is left. `Mask.Yields` says that this comes to an end and what it has found by then; it does for
every number that is not negative, and finds the ids of the set in ascending order
(`Mask.yields_iff`).

A list of names and ids is the other view. A reference to an extension is known when it designates
an id; a list has a set when all its references are known, and the names of that set are those of
the designated extensions, however the list repeats and orders them.
-/

namespace TargetFeatures

namespace Mask

/-! ## Reading a set bit by bit -/

/-- A set that is being read: what is left of its number, the id that the lowest bit left stands
for, and the ids that were found. -/
structure Scan where
  rest : Int
  position : Nat
  found : List Nat

namespace Scan

/-- A set of which nothing is read. -/
def start (mask : Int) : Scan := ⟨mask, 0, []⟩

/-- One round: the id of the lowest bit is found if the bit is set, and the others move down. -/
def next (scan : Scan) : Scan where
  rest := scan.rest >>> (1 : Nat)
  position := scan.position + 1
  found := if contains scan.rest 0 then scan.found ++ [scan.position] else scan.found

end Scan

/-- Whether the rounds of reading a set come to an end, with the given ids found. -/
def Yields (mask : Int) (ids : List Nat) : Prop :=
  ∃ rounds, (Scan.next^[rounds] (Scan.start mask)).rest = 0 ∧
    (∀ earlier < rounds, (Scan.next^[earlier] (Scan.start mask)).rest ≠ 0) ∧
    (Scan.next^[rounds] (Scan.start mask)).found = ids

theorem contains_shiftRight_zero (mask : Int) (count : Nat) :
    contains (mask >>> count) 0 = contains mask count := by
  cases mask with
  | ofNat value =>
      change (value >>> count).testBit 0 = value.testBit count
      rw [Nat.testBit_shiftRight, Nat.add_zero]
  | negSucc value =>
      change (!(value >>> count).testBit 0) = !value.testBit count
      rw [Nat.testBit_shiftRight, Nat.add_zero]

/-- After some rounds the ids below their number are found, and the bits from there on are left. -/
theorem iterate_next_start (mask : Int) (rounds : Nat) :
    Scan.next^[rounds] (Scan.start mask) = ⟨mask >>> rounds, rounds, idsBelow rounds mask⟩ := by
  induction rounds with
  | zero => rw [Function.iterate_zero_apply, Int.shiftRight_zero]; rfl
  | succ rounds ih =>
      rw [Function.iterate_succ_apply', ih, Scan.next]
      dsimp only
      rw [contains_shiftRight_zero, ← Int.shiftRight_add, ← idsBelow_succ]

/-- Reading a set comes to an end unless its number is negative, and finds its ids. -/
theorem yields_iff {mask : Int} {found : List Nat} :
    Yields mask found ↔ ∃ value : Nat, mask = value ∧ found = ids value := by
  have ends : ∀ rounds : Nat, mask >>> rounds = 0 ↔ isBelow rounds mask = true := fun rounds => by
    rw [isBelow, beq_iff_eq]
  simp only [Yields, iterate_next_start, ends]
  constructor
  · rintro ⟨rounds, below, _, rfl⟩
    have natural := (toNat_of_isBelow below).symm
    refine ⟨mask.toNat, natural, ?_⟩
    rw [natural] at below
    rw [← idsBelow_eq_ids below, ← natural]
  · rintro ⟨value, rfl, rfl⟩
    have some : ∃ rounds, isBelow rounds (value : Int) = true :=
      ⟨_, isBelow_natCast_iff.mpr Nat.lt_two_pow_self⟩
    refine ⟨Nat.find some, Nat.find_spec some, ?_, idsBelow_eq_ids (Nat.find_spec some)⟩
    exact fun earlier before => mt (ends earlier).mp (Nat.find_min some before)

end Mask

namespace ExtensionCatalog

variable {catalog : ExtensionCatalog} {references : List ExtensionRef} {reference : ExtensionRef}
  {mask id : Nat}

/-! ## Lists of names and ids -/

/-- Whether a reference is to the extension with an id. -/
def Denotes (catalog : ExtensionCatalog) : ExtensionRef → Nat → Prop
  | .name name, id => catalog.names[id]? = some name
  | .id number, id => number = id ∧ id < catalog.size

/-- Whether a reference is the name or the id of an extension. -/
def IsKnown (catalog : ExtensionCatalog) : ExtensionRef → Prop
  | .name name => name ∈ catalog.names
  | .id number => 0 ≤ number ∧ number < catalog.size

instance (catalog : ExtensionCatalog) : DecidablePred catalog.IsKnown
  | .name name => inferInstanceAs (Decidable (name ∈ catalog.names))
  | .id number => inferInstanceAs (Decidable (0 ≤ number ∧ number < catalog.size))

theorem isKnown_iff : catalog.IsKnown reference ↔ ∃ id, catalog.Denotes reference id := by
  cases reference with
  | name name => exact List.mem_iff_getElem?
  | id number =>
      constructor
      · rintro ⟨natural, below⟩
        have same := Int.toNat_of_nonneg natural
        exact ⟨number.toNat, same.symm, by omega⟩
      · rintro ⟨id, rfl, below⟩
        exact ⟨Int.natCast_nonneg id, Int.ofNat_lt.mpr below⟩

theorem denotes_id_iff {number : Nat} :
    catalog.Denotes (.id number) id ↔ number = id ∧ id < catalog.size := by
  rw [Denotes, Int.natCast_inj]

theorem Denotes.lt_size (denotes : catalog.Denotes reference id) : id < catalog.size := by
  cases reference with
  | name name =>
      have bound := (List.getElem?_eq_some_iff.mp denotes).1
      rwa [names, List.length_map] at bound
  | id number => exact denotes.2

section

variable (distinct : catalog.names.Nodup)

include distinct

theorem resolve_eq_ok_iff : catalog.resolve reference = .ok id ↔ catalog.Denotes reference id := by
  cases reference with
  | name name => exact resolve_name_eq_ok_iff.trans (find?_eq_some_iff distinct)
  | id number =>
      rw [Denotes, resolve]
      by_cases valid : isId catalog.size number = true
      · rw [if_pos valid, Except.ok.injEq]
        rw [isId_iff] at valid
        omega
      · rw [if_neg valid]
        rw [isId_iff] at valid
        simp only [reduceCtorEq, false_iff]
        omega

theorem exists_bitset_iff :
    (∃ mask, catalog.bitset references = .ok mask) ↔
      ∀ reference ∈ references, catalog.IsKnown reference := by
  simp only [exists_bitset_eq_ok_iff, resolve_eq_ok_iff distinct, isKnown_iff]

/-- A list whose references are known has one set, that of the ids which they denote. -/
theorem bitset_eq_ok_iff (known : ∀ reference ∈ references, catalog.IsKnown reference) :
    catalog.bitset references = .ok mask ↔
      ∀ id, mask.testBit id = true ↔ ∃ reference ∈ references, catalog.Denotes reference id := by
  rcases (exists_bitset_iff distinct).mpr known with ⟨made, bitset⟩
  have members : ∀ id, made.testBit id = true ↔
      ∃ reference ∈ references, catalog.Denotes reference id := fun id => by
    simp only [testBit_of_bitset bitset, resolve_eq_ok_iff distinct]
  rw [bitset, Except.ok.injEq, Mask.eq_iff]
  simp only [members]
  exact forall_congr' fun id => Iff.comm

theorem bitset_ids (below : mask < 2 ^ catalog.size) :
    catalog.bitset ((Mask.ids mask).map fun id : Nat => .id id) = .ok mask := by
  have bounded : ∀ id, mask.testBit id = true → id < catalog.size :=
    Mask.isBelow_iff.mp (Mask.isBelow_natCast_iff.mpr below)
  have denoted : ∀ id, mask.testBit id = true ↔
      ∃ number : Nat, number ∈ Mask.ids mask ∧ catalog.Denotes (.id number) id := fun id => by
    simp only [denotes_id_iff, Mask.mem_ids]
    constructor
    · exact fun member => ⟨id, member, rfl, bounded id member⟩
    · rintro ⟨_, member, rfl, _⟩
      exact member
  rw [bitset_eq_ok_iff distinct]
  · simpa using denoted
  · rw [List.forall_mem_map]
    intro id member
    exact isKnown_iff.mpr ⟨id, denotes_id_iff.mpr ⟨rfl, bounded id (Mask.mem_ids.mp member)⟩⟩

/-- The set of the names that are shown of a set is that set. -/
theorem exists_bitset_names (below : mask < 2 ^ catalog.size) :
    ∃ shown, catalog.names? mask = some shown ∧ catalog.bitset (shown.map .name) = .ok mask := by
  have bounded := Mask.isBelow_natCast_iff.mpr below
  refine ⟨_, names?_eq distinct bounded, ?_⟩
  rw [bitset_eq_ok_iff distinct]
  · intro id
    simp only [List.mem_map, List.mem_filter, exists_exists_and_eq_and, Denotes,
      ← find?_eq_some_iff distinct]
    constructor
    · intro member
      rcases exists_name_of_lt distinct (Mask.isBelow_iff.mp bounded id member) with ⟨name, found⟩
      refine ⟨name, ⟨exists_find?_iff.mp ⟨id, found⟩, ?_⟩, found⟩
      exact (includes_of_find? found).trans member
    · rintro ⟨name, ⟨_, included⟩, found⟩
      exact (includes_of_find? found).symm.trans included
  · rw [List.forall_mem_map]
    exact fun name member => (List.mem_filter.mp member).1

/-- The names that are shown of the set of a list are those of the extensions that it denotes, once
each and in the order of the catalog. -/
theorem exists_names_bitset (known : ∀ reference ∈ references, catalog.IsKnown reference) :
    ∃ mask shown, catalog.bitset references = .ok mask ∧ catalog.names? mask = some shown ∧
      shown.Sublist catalog.names ∧ shown.Nodup ∧
      ∀ name, name ∈ shown ↔ ∃ reference ∈ references, ∃ id,
        catalog.Denotes reference id ∧ catalog.names[id]? = some name := by
  rcases (exists_bitset_iff distinct).mpr known with ⟨mask, bitset⟩
  have members := (bitset_eq_ok_iff distinct known).mp bitset
  have below : Mask.isBelow catalog.size (mask : Int) = true := by
    rw [Mask.isBelow_iff]
    intro id member
    rcases (members id).mp member with ⟨reference, _, denotes⟩
    exact denotes.lt_size
  refine ⟨mask, _, bitset, names?_eq distinct below, List.filter_sublist, distinct.filter _, ?_⟩
  intro name
  rw [List.mem_filter, includes_iff]
  simp only [Mask.contains_natCast, members, find?_eq_some_iff distinct]
  constructor
  · rintro ⟨_, id, named, reference, listed, denotes⟩
    exact ⟨reference, listed, id, denotes, named⟩
  · rintro ⟨reference, listed, id, denotes, named⟩
    exact ⟨List.mem_of_getElem? named, id, named, reference, listed, denotes⟩

end

/-- In an accepted catalog the number of a set, the ids and the names in it are views of each other:
reading the number bit by bit ends with the ids in ascending order, and the ids as well as the names
have that number again. A list of references has a set unless one of them is not known, and the
names of the set are those of the extensions in the list. -/
theorem sets_and_lists_are_inverse (accepted : catalog.Accepted) :
    (∀ mask : Nat, mask < 2 ^ catalog.size →
      Mask.Yields mask (Mask.ids mask) ∧ (Mask.ids mask).Pairwise (· < ·) ∧
      (∀ id, id ∈ Mask.ids mask ↔ mask.testBit id = true) ∧
      catalog.bitset ((Mask.ids mask).map fun id : Nat => .id id) = .ok mask ∧
      ∃ shown, catalog.names? mask = some shown ∧
        catalog.bitset (shown.map .name) = .ok mask) ∧
    (∀ references, (∀ reference ∈ references, catalog.IsKnown reference) →
      ∃ mask shown, catalog.bitset references = .ok mask ∧ catalog.names? mask = some shown ∧
        shown.Sublist catalog.names ∧ shown.Nodup ∧
        ∀ name, name ∈ shown ↔ ∃ reference ∈ references, ∃ id,
          catalog.Denotes reference id ∧ catalog.names[id]? = some name) ∧
    ∀ references, (∃ error, catalog.bitset references = .error error) ↔
      ∃ reference ∈ references, ¬catalog.IsKnown reference := by
  have distinct := accepted.nodup_names
  refine ⟨fun mask below => ⟨Mask.yields_iff.mpr ⟨mask, rfl, rfl⟩, Mask.pairwise_ids mask,
    fun _ => Mask.mem_ids, bitset_ids distinct below, exists_bitset_names distinct below⟩,
    fun references => exists_names_bitset distinct, fun references => ?_⟩
  rw [exists_eq_error_iff, exists_bitset_iff distinct]
  simp only [not_forall, exists_prop]

theorem sets_and_lists_are_inverse_small :
    let references : List ExtensionRef := [.name "sve", .id 0, .name "sve"]
    small.Accepted ∧ 0b1011 < 2 ^ small.size ∧
    (∀ reference ∈ references, small.IsKnown reference) ∧ ¬small.IsKnown (.id 4) ∧
    (Mask.Yields (0b1011 : Nat) [0, 1, 3] ∧ small.bitset [.id 0, .id 1, .id 3] = .ok 0b1011 ∧
      ∃ shown, small.names? (0b1011 : Nat) = some shown ∧
        small.bitset (shown.map .name) = .ok 0b1011) ∧
    (∃ mask shown, small.bitset references = .ok mask ∧ small.names? mask = some shown ∧
      shown.Sublist small.names ∧ shown.Nodup ∧ "sve" ∈ shown) ∧
    ∃ error, small.bitset [.id 0, .id 4, .name "simd"] = .error error := by
  intro references
  rcases sets_and_lists_are_inverse accepted_small with ⟨sets, lists, unknown⟩
  have below : 0b1011 < 2 ^ small.size := by decide
  have known : ∀ reference ∈ references, small.IsKnown reference := by decide
  have foreign : ¬small.IsKnown (.id 4) := by decide
  have read : Mask.ids 0b1011 = [0, 1, 3] := by decide +kernel
  rcases sets 0b1011 below with ⟨yields, _, _, numbers, names⟩
  rw [read] at yields numbers
  rcases lists references known with ⟨mask, shown, bitset, showing, ordered, distinct, members⟩
  have listed : "sve" ∈ shown :=
    (members "sve").mpr ⟨.name "sve", by simp [references], 2, rfl, rfl⟩
  exact ⟨accepted_small, below, known, foreign, ⟨yields, numbers, names⟩,
    ⟨mask, shown, bitset, showing, ordered, distinct, listed⟩,
    (unknown _).mpr ⟨.id 4, by simp, foreign⟩⟩

end ExtensionCatalog

end TargetFeatures
