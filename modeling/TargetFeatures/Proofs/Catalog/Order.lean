import Mathlib.Logic.Relation
import TargetFeatures.Proofs.Catalog.Building

/-!
# The order of architectures

The order between architectures is given as a diagram of arrows between versions. One arrow leads
down one minor number, and another one from version 9 of a profile to version 8 with a minor number
greater by five. The program compares numbers instead of following arrows. `exceeds_iff_transGen`
says that both come to the same: an arrow only leads to a version that is exceeded, and between two
versions of which one exceeds the other there is a path that goes down far enough, crosses over if
it has to, and ends there.

Names play a part only when architectures of one catalog are compared, where they are distinct.
-/

namespace TargetFeatures

/-- A version of a profile. -/
structure Version where
  profile : Profile
  major : Int
  minor : Int
  deriving DecidableEq, Repr

namespace Version

variable {upper middle lower : Version}

/-- The arrows of the diagram. -/
inductive Covers : Version → Version → Prop
  | minor (profile : Profile) (major minor : Int) :
      Covers ⟨profile, major, minor + 1⟩ ⟨profile, major, minor⟩
  | major (profile : Profile) (minor : Int) :
      Covers ⟨profile, 9, minor⟩ ⟨profile, 8, minor + 5⟩

/-- Whether one version comes before another when their numbers are compared. -/
def Exceeds (upper lower : Version) : Prop :=
  upper.profile = lower.profile ∧
    ((upper.major = lower.major ∧ lower.minor < upper.minor) ∨
      (upper.major = 9 ∧ lower.major = 8 ∧ lower.minor ≤ upper.minor + 5))

theorem not_exceeds_self (version : Version) : ¬version.Exceeds version := by
  rintro ⟨_, ⟨_, below⟩ | ⟨nine, eight, _⟩⟩
  · omega
  · omega

theorem Exceeds.trans (first : upper.Exceeds middle) (second : middle.Exceeds lower) :
    upper.Exceeds lower := by
  rcases first with ⟨profile, first⟩
  rcases second with ⟨sameProfile, second⟩
  refine ⟨profile.trans sameProfile, ?_⟩
  omega

/-! ## Following arrows -/

theorem Covers.exceeds (covers : upper.Covers lower) : upper.Exceeds lower := by
  cases covers with
  | minor profile major minor => exact ⟨rfl, Or.inl ⟨rfl, Int.lt_succ minor⟩⟩
  | major profile minor => exact ⟨rfl, Or.inr ⟨rfl, rfl, Int.le_refl (minor + 5)⟩⟩

theorem exceeds_of_transGen (path : Relation.TransGen Covers upper lower) :
    upper.Exceeds lower := by
  induction path with
  | single covers => exact covers.exceeds
  | tail _ covers ih => exact ih.trans covers.exceeds

/-- Arrows lead down any number of minor versions. -/
theorem reflTransGen_minor (profile : Profile) (major minor : Int) (count : Nat) :
    Relation.ReflTransGen Covers ⟨profile, major, minor + count⟩ ⟨profile, major, minor⟩ := by
  induction count with
  | zero => simpa using Relation.ReflTransGen.refl
  | succ count ih =>
      apply Relation.ReflTransGen.head ?_ ih
      have step := Covers.minor profile major (minor + count)
      simpa [Int.add_assoc] using step

theorem transGen_of_exceeds (exceeds : upper.Exceeds lower) :
    Relation.TransGen Covers upper lower := by
  rcases upper with ⟨profile, major, minor⟩
  rcases lower with ⟨lowerProfile, lowerMajor, lowerMinor⟩
  rcases exceeds with ⟨sameProfile, ⟨sameMajor, below⟩ | ⟨nine, eight, reached⟩⟩
  · dsimp only at sameProfile sameMajor below
    subst sameProfile sameMajor
    rcases Int.le.dest (Int.add_one_le_of_lt below) with ⟨count, rfl⟩
    have down := reflTransGen_minor profile major (lowerMinor + 1) count
    exact Relation.TransGen.tail' down (.minor profile major lowerMinor)
  · dsimp only at sameProfile nine eight reached
    subst sameProfile nine eight
    rcases Int.le.dest reached with ⟨count, same⟩
    -- The path goes down within version 9 first, as it can cross over at any minor number.
    have down := reflTransGen_minor profile 9 (lowerMinor - 5) count
    have cross := Covers.major profile (lowerMinor - 5)
    rw [show lowerMinor - 5 + (count : Int) = minor by omega] at down
    rw [Int.sub_add_cancel] at cross
    exact Relation.TransGen.tail' down cross

theorem exceeds_iff_transGen :
    upper.Exceeds lower ↔ Relation.TransGen Covers upper lower :=
  ⟨transGen_of_exceeds, exceeds_of_transGen⟩

end Version

/-! ## Architectures -/

namespace Architecture

variable {left middle right : Architecture}

/-- The version of an architecture. -/
def version (architecture : Architecture) : Version :=
  ⟨architecture.profile, architecture.major, architecture.minor⟩

theorem implies_iff_exceeds :
    left.implies right = true ↔ left.version.Exceeds right.version := by
  rw [implies, lag, Version.Exceeds, version, version]
  by_cases profile : left.profile = right.profile
  · by_cases major : left.major = right.major
    · simp [profile, major]
      omega
    · by_cases across : left.major = 9 ∧ right.major = 8
      · simp [profile, across]
      · simp [profile, major, across]
        tauto
  · simp [profile]

theorem not_implies_self (architecture : Architecture) :
    ¬architecture.implies architecture = true := by
  rw [implies_iff_exceeds]
  exact Version.not_exceeds_self _

theorem implies_trans (first : left.implies middle = true) (second : middle.implies right = true) :
    left.implies right = true := by
  rw [implies_iff_exceeds] at first second ⊢
  exact first.trans second

theorem isSuperset_iff :
    left.isSuperset right = true ↔ left.name = right.name ∨ left.implies right = true := by
  simp [isSuperset]

end Architecture

namespace ModelCatalog

/-- Whether a catalog comes out of its constructor. -/
def Accepted (catalog : ModelCatalog) : Prop :=
  ∃ extensions architectures processors cpuAliases,
    ofParts extensions architectures processors cpuAliases = .ok catalog

/-- Architectures of a catalog are told apart by their names. -/
theorem Accepted.eq_of_name_eq {catalog : ModelCatalog} (accepted : catalog.Accepted)
    {left right : Architecture} (leftListed : left ∈ catalog.architectures)
    (rightListed : right ∈ catalog.architectures) (same : left.name = right.name) :
    left = right := by
  rcases accepted with ⟨extensions, architectures, processors, cpuAliases, made⟩
  rcases ofParts_eq_ok_iff.mp made with ⟨⟨distinct, _⟩, rfl⟩
  exact List.inj_on_of_nodup_map distinct leftListed rightListed same

variable {catalog : ModelCatalog} {left middle right : Architecture}

theorem Accepted.isSuperset_trans (accepted : catalog.Accepted)
    (leftListed : left ∈ catalog.architectures) (middleListed : middle ∈ catalog.architectures)
    (rightListed : right ∈ catalog.architectures) (first : left.isSuperset middle = true)
    (second : middle.isSuperset right = true) : left.isSuperset right = true := by
  rw [Architecture.isSuperset_iff] at first second
  rcases first with sameName | first
  · rw [accepted.eq_of_name_eq leftListed middleListed sameName]
    exact Architecture.isSuperset_iff.mpr second
  · apply Architecture.isSuperset_iff.mpr
    right
    rcases second with sameName | second
    · rwa [← accepted.eq_of_name_eq middleListed rightListed sameName]
    · exact Architecture.implies_trans first second

theorem Accepted.isSuperset_antisymm (accepted : catalog.Accepted)
    (leftListed : left ∈ catalog.architectures) (rightListed : right ∈ catalog.architectures)
    (first : left.isSuperset right = true) (second : right.isSuperset left = true) :
    left = right := by
  rw [Architecture.isSuperset_iff] at first second
  rcases first with sameName | first
  · exact accepted.eq_of_name_eq leftListed rightListed sameName
  · rcases second with sameName | second
    · exact accepted.eq_of_name_eq leftListed rightListed sameName.symm
    · exact absurd (Architecture.implies_trans first second) (Architecture.not_implies_self left)

end ModelCatalog

/-- One architecture implies another exactly when one or more arrows of the diagram lead from the
version of the first to that of the second. Hence implying is a strict order on all architectures,
and being a superset is a partial order on the architectures of a catalog. -/
theorem implies_is_diagram_order :
    (∀ left right : Architecture, left.implies right = true ↔
      Relation.TransGen Version.Covers left.version right.version) ∧
    (∀ architecture : Architecture, ¬architecture.implies architecture = true) ∧
    (∀ left middle right : Architecture, left.implies middle = true →
      middle.implies right = true → left.implies right = true) ∧
    ∀ catalog : ModelCatalog, catalog.Accepted →
      (∀ architecture ∈ catalog.architectures, architecture.isSuperset architecture = true) ∧
      (∀ left ∈ catalog.architectures, ∀ middle ∈ catalog.architectures,
        ∀ right ∈ catalog.architectures, left.isSuperset middle = true →
          middle.isSuperset right = true → left.isSuperset right = true) ∧
      ∀ left ∈ catalog.architectures, ∀ right ∈ catalog.architectures,
        left.isSuperset right = true → right.isSuperset left = true → left = right := by
  refine ⟨?_, Architecture.not_implies_self, ?_, ?_⟩
  · intro left right
    rw [Architecture.implies_iff_exceeds, Version.exceeds_iff_transGen]
  · intro left middle right first second
    exact Architecture.implies_trans first second
  · intro catalog accepted
    refine ⟨?_, ?_, ?_⟩
    · intro architecture _
      simp [Architecture.isSuperset]
    · intro left leftListed middle middleListed right rightListed first second
      exact accepted.isSuperset_trans leftListed middleListed rightListed first second
    · intro left leftListed right rightListed first second
      exact accepted.isSuperset_antisymm leftListed rightListed first second

theorem implies_is_diagram_order_small :
    let newest : Architecture := ⟨"v9a", 9, 0, .application, "+v9a", 0⟩
    let older : Architecture := ⟨"v8.5a", 8, 5, .application, "+v8.5a", 0⟩
    let oldest : Architecture := ⟨"v8.4a", 8, 4, .application, "+v8.4a", 0⟩
    let catalog : ModelCatalog := ⟨.small, [oldest, newest, older], [], .empty⟩
    (newest.implies older = true ∧ older.implies oldest = true ∧ catalog.Accepted) ∧
    newest.implies oldest = true ∧
    Relation.TransGen Version.Covers newest.version oldest.version ∧
    newest.isSuperset oldest = true ∧
    ∀ other ∈ catalog.architectures, newest.isSuperset other = true →
      other.isSuperset newest = true → newest = other := by
  intro newest older oldest catalog
  have accepted : catalog.Accepted := ⟨.small, [oldest, newest, older], [], .empty, rfl⟩
  rcases implies_is_diagram_order with ⟨diagram, _, transitive, supersets⟩
  rcases supersets catalog accepted with ⟨_, superset_trans, superset_antisymm⟩
  have implied : newest.implies oldest = true :=
    transitive newest older oldest (by decide) (by decide)
  refine ⟨⟨by decide, by decide, accepted⟩, implied, (diagram _ _).mp implied, ?_, ?_⟩
  · exact superset_trans newest (by decide) older (by decide) oldest (by decide)
      (by decide) (by decide)
  · exact superset_antisymm newest (by decide)

end TargetFeatures
