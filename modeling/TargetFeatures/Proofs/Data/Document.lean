import Mathlib.Data.List.Nodup
import TargetFeatures.Data.Value

/-!
# Documents as trees

A document that a text denotes, or that is written as one, is a tree of lists and mappings in which
the keys of every mapping are distinct texts. `IsTree` says so, together with a property of the
leaves. In such a mapping, to find a value under a key is to have that entry, and giving a key a
value keeps the keys distinct.
-/

namespace TargetFeatures

/-- In a table without repeated keys, to find an entry is to have it. -/
theorem lookup_eq_some_iff_mem {α β : Type} [BEq α] [LawfulBEq α] {entries : List (α × β)}
    (distinct : (entries.map Prod.fst).Nodup) {key : α} {value : β} :
    entries.lookup key = some value ↔ (key, value) ∈ entries := by
  induction entries with
  | nil => simp
  | cons entry rest ih =>
      rcases entry with ⟨first, known⟩
      rw [List.map_cons, List.nodup_cons] at distinct
      rw [List.lookup_cons, List.mem_cons, Prod.mk.injEq]
      split
      · next same =>
          have absent : (key, value) ∉ rest := by
            intro listed
            apply distinct.1
            exact List.mem_map.mpr ⟨(key, value), listed, eq_of_beq same⟩
          rw [Option.some.injEq, or_iff_left absent, and_iff_right (eq_of_beq same), eq_comm]
      · next different =>
          rw [ih distinct.2, or_iff_right]
          exact fun same => ne_of_beq_false different same.1

namespace Value

/-! ## Keys -/

/-- Whether the keys of a mapping are distinct texts. -/
def HasTextKeys (entries : List (Scalar × Value)) : Prop :=
  ∃ names : List String, names.Nodup ∧ entries.map Prod.fst = names.map .text

theorem hasTextKeys_nil : HasTextKeys [] := ⟨[], List.nodup_nil, rfl⟩

theorem HasTextKeys.nodup {entries : List (Scalar × Value)} (keys : HasTextKeys entries) :
    (entries.map Prod.fst).Nodup := by
  rcases keys with ⟨names, nodup, same⟩
  rw [same]
  exact nodup.map fun _ _ => Scalar.text.inj

theorem lookup?_eq_lookup (entries : List (Scalar × Value)) (name : String) :
    lookup? entries name = entries.lookup (.text name) := by
  induction entries with
  | nil => rfl
  | cons entry rest ih =>
      rw [lookup?, List.find?_cons, List.lookup_cons, BEq.comm]
      split
      · simp [*]
      · simp [*, ← ih, lookup?]

theorem lookup?_cons (name other : String) (value : Value) (entries : List (Scalar × Value)) :
    lookup? ((.text name, value) :: entries) other =
      if name = other then some value else lookup? entries other := by
  by_cases same : name = other <;> simp [lookup?, same]

theorem HasTextKeys.lookup?_eq_some_iff {entries : List (Scalar × Value)}
    (keys : HasTextKeys entries) {name : String} {value : Value} :
    lookup? entries name = some value ↔ (.text name, value) ∈ entries := by
  rw [lookup?_eq_lookup]
  exact lookup_eq_some_iff_mem keys.nodup

theorem HasTextKeys.of_cons {entry : Scalar × Value} {entries : List (Scalar × Value)}
    (keys : HasTextKeys (entry :: entries)) :
    HasTextKeys entries ∧ ∃ name, entry.1 = .text name ∧ lookup? entries name = none := by
  rcases keys with ⟨_ | ⟨name, names⟩, nodup, same⟩
  · cases same
  · rw [List.map_cons, List.map_cons, List.cons.injEq] at same
    rw [List.nodup_cons] at nodup
    refine ⟨⟨names, nodup.2, same.2⟩, name, same.1, ?_⟩
    rw [lookup?_eq_lookup, List.lookup_eq_none_iff]
    intro other member
    have listed := List.mem_map_of_mem (f := Prod.fst) member
    rw [same.2, List.mem_map] at listed
    rcases listed with ⟨known, knownMem, sameKnown⟩
    rw [← sameKnown]
    have apart : name ≠ known := by
      rintro rfl
      exact nodup.1 knownMem
    simpa using apart

theorem sameKey_text (left right : String) :
    (Scalar.text left).sameKey (.text right) = decide (left = right) := by
  simp [Scalar.sameKey, Scalar.wholeNumber?, Bool.beq_eq_decide_eq]

theorem mem_put {entries : List (Scalar × Value)} {key : Scalar} {value : Value}
    {entry : Scalar × Value} (member : entry ∈ put entries key value) :
    entry ∈ entries ∨ entry.2 = value := by
  induction entries with
  | nil =>
      rw [put, List.mem_singleton] at member
      exact Or.inr (congrArg Prod.snd member)
  | cons first rest ih =>
      rw [put] at member
      split at member
      · rcases List.mem_cons.mp member with rfl | later
        · exact Or.inr rfl
        · exact Or.inl (List.mem_cons_of_mem _ later)
      · rcases List.mem_cons.mp member with rfl | later
        · exact Or.inl List.mem_cons_self
        · exact (ih later).imp_left (List.mem_cons_of_mem _)

/-- The keys after one of them was given a value: it comes last if it was not there. -/
theorem keys_put {entries : List (Scalar × Value)} {names : List String} (name : String)
    (value : Value) (keys : entries.map Prod.fst = names.map .text) :
    (put entries (.text name) value).map Prod.fst =
      (if name ∈ names then names else names ++ [name]).map .text := by
  induction entries generalizing names with
  | nil =>
      rw [List.map_nil, eq_comm, List.map_eq_nil_iff] at keys
      subst keys
      rfl
  | cons first rest ih =>
      rcases names with _ | ⟨known, others⟩
      · cases keys
      · rcases first with ⟨key, old⟩
        rw [List.map_cons, List.map_cons, List.cons.injEq] at keys
        rcases keys with ⟨rfl, restKeys⟩
        rw [put, sameKey_text]
        by_cases same : known = name
        · simp [same, restKeys]
        · simp only [same, decide_false, Bool.false_eq_true, if_false, List.map_cons, ih restKeys,
            List.mem_cons, Ne.symm same, false_or]
          split <;> rfl

theorem HasTextKeys.put {entries : List (Scalar × Value)} (keys : HasTextKeys entries)
    (name : String) (value : Value) : HasTextKeys (put entries (.text name) value) := by
  rcases keys with ⟨names, nodup, same⟩
  refine ⟨_, ?_, keys_put name value same⟩
  split
  · exact nodup
  · next fresh =>
      rw [← List.concat_eq_append]
      exact nodup.concat fresh

/-- A key that was given a value has that value, and the others have what they had. -/
theorem HasTextKeys.lookup?_put {entries : List (Scalar × Value)} (keys : HasTextKeys entries)
    (name other : String) (value : Value) :
    lookup? (Value.put entries (.text name) value) other =
      if name = other then some value else lookup? entries other := by
  induction entries with
  | nil => rw [Value.put, lookup?_cons]
  | cons entry rest ih =>
      rcases entry with ⟨key, old⟩
      rcases keys.of_cons with ⟨restKeys, known, rfl, _⟩
      rw [Value.put, sameKey_text]
      by_cases same : known = name
      · subst same
        simp only [decide_true, if_true, lookup?_cons]
        split <;> rfl
      · simp only [same, decide_false, Bool.false_eq_true, if_false, lookup?_cons, ih restKeys]
        by_cases here : known = other
        · subst here
          simp [Ne.symm same]
        · simp [here]

theorem put_of_fresh {known : List (Scalar × Value)} {names : List String} {name : String}
    (keys : known.map Prod.fst = names.map .text) (fresh : name ∉ names) (content : Value) :
    put known (.text name) content = known ++ [(.text name, content)] := by
  induction known generalizing names with
  | nil => rfl
  | cons entry known ih =>
      rcases entry with ⟨key, old⟩
      cases names with
      | nil => cases keys
      | cons other names =>
          rw [List.map_cons, List.map_cons, List.cons.injEq] at keys
          rcases keys with ⟨rfl, keys⟩
          rw [List.mem_cons, not_or] at fresh
          rw [put, sameKey_text, decide_eq_false (Ne.symm fresh.1), ih keys fresh.2]
          rfl

theorem HasTextKeys.exists_put_eq {known entries : List (Scalar × Value)}
    {entry : Scalar × Value} (keys : HasTextKeys (known ++ entry :: entries)) :
    ∃ name, entry.1 = .text name ∧ Value.put known (.text name) entry.2 = known ++ [entry] := by
  rcases keys with ⟨names, nodup, same⟩
  rw [List.map_append, List.map_cons, eq_comm, List.map_eq_append_iff] at same
  rcases same with ⟨before, rest, rfl, sameBefore, sameRest⟩
  rw [List.map_eq_cons_iff] at sameRest
  rcases sameRest with ⟨name, after, rfl, sameName, _⟩
  have fresh : name ∉ before := fun member =>
    List.disjoint_of_nodup_append nodup member List.mem_cons_self
  refine ⟨name, sameName.symm, ?_⟩
  rw [put_of_fresh sameBefore.symm fresh, sameName]

/-! ## Trees -/

/-- Whether a document is a tree of lists and of mappings from distinct texts, with leaves of a
certain kind. -/
inductive IsTree (leaf : Scalar → Prop) : Value → Prop
  | scalar {value : Scalar} (holds : leaf value) : IsTree leaf (.scalar value)
  | list {items : List Value} (trees : ∀ item ∈ items, IsTree leaf item) : IsTree leaf (.list items)
  | map {entries : List (Scalar × Value)} (keys : HasTextKeys entries)
      (trees : ∀ entry ∈ entries, IsTree leaf entry.2) : IsTree leaf (.map entries)

/-! ## Texts -/

theorem text_of_text? {document : Value} {text : String} (given : document.text? = some text) :
    document = .ofText text := by
  unfold Value.text? at given
  split at given
  · cases given
    rfl
  · cases given

/-! ## Records -/

/-- The entries of a mapping with texts as keys. -/
def fieldsOf (entries : List (String × Value)) : List (Scalar × Value) :=
  entries.map fun (name, value) => (.text name, value)

theorem object_eq (entries : List (String × Value)) :
    object entries = .map (fieldsOf entries) := rfl

theorem hasTextKeys_fieldsOf {entries : List (String × Value)}
    (nodup : (entries.map Prod.fst).Nodup) : HasTextKeys (fieldsOf entries) :=
  ⟨entries.map Prod.fst, nodup, by simp [fieldsOf]⟩

theorem mem_fieldsOf {entries : List (String × Value)} {name : String} {value : Value} :
    (.text name, value) ∈ fieldsOf entries ↔ (name, value) ∈ entries := by
  simp [fieldsOf]

theorem lookup?_fieldsOf_eq_none {entries : List (String × Value)} {name : String}
    (missing : ∀ value, (name, value) ∉ entries) : lookup? (fieldsOf entries) name = none := by
  rw [lookup?_eq_lookup, List.lookup_eq_none_iff]
  intro entry member
  rcases List.mem_map.mp member with ⟨⟨other, value⟩, listed, rfl⟩
  have apart : name ≠ other := by
    rintro rfl
    exact missing value listed
  simpa using apart

theorem isTree_object {leaf : Scalar → Prop} {entries : List (String × Value)}
    (nodup : (entries.map Prod.fst).Nodup) (trees : ∀ entry ∈ entries, IsTree leaf entry.2) :
    IsTree leaf (object entries) := by
  refine .map (hasTextKeys_fieldsOf nodup) ?_
  intro entry member
  rcases List.mem_map.mp member with ⟨origin, listed, rfl⟩
  exact trees origin listed

/-! ## Comparing documents -/

mutual

/-- Whether two documents are the same. -/
def decideEq (left right : Value) : Decidable (left = right) :=
  match left, right with
  | .scalar left, .scalar right => decidable_of_iff (left = right) (by simp)
  | .list left, .list right =>
      have := decideEqItems left right
      decidable_of_iff (left = right) (by simp)
  | .tuple left, .tuple right =>
      have := decideEqItems left right
      decidable_of_iff (left = right) (by simp)
  | .map left, .map right =>
      have := decideEqEntries left right
      decidable_of_iff (left = right) (by simp)
  | .set left, .set right => decidable_of_iff (left = right) (by simp)
  | .recurrence left, .recurrence right => decidable_of_iff (left = right) (by simp)
  | .scalar _, .list _ | .scalar _, .tuple _ | .scalar _, .map _ | .scalar _, .set _
  | .scalar _, .recurrence _ | .list _, .scalar _ | .list _, .tuple _ | .list _, .map _
  | .list _, .set _ | .list _, .recurrence _ | .tuple _, .scalar _ | .tuple _, .list _
  | .tuple _, .map _ | .tuple _, .set _ | .tuple _, .recurrence _ | .map _, .scalar _
  | .map _, .list _ | .map _, .tuple _ | .map _, .set _ | .map _, .recurrence _
  | .set _, .scalar _ | .set _, .list _ | .set _, .tuple _ | .set _, .map _
  | .set _, .recurrence _ | .recurrence _, .scalar _ | .recurrence _, .list _
  | .recurrence _, .tuple _ | .recurrence _, .map _ | .recurrence _, .set _ => isFalse nofun

def decideEqItems (left right : List Value) : Decidable (left = right) :=
  match left, right with
  | [], [] => isTrue rfl
  | first :: left, other :: right =>
      have := decideEq first other
      have := decideEqItems left right
      decidable_of_iff (first = other ∧ left = right) (by simp)
  | [], _ :: _ | _ :: _, [] => isFalse nofun

def decideEqEntries (left right : List (Scalar × Value)) : Decidable (left = right) :=
  match left, right with
  | [], [] => isTrue rfl
  | (key, first) :: left, (otherKey, other) :: right =>
      have := decideEq first other
      have := decideEqEntries left right
      decidable_of_iff (key = otherKey ∧ first = other ∧ left = right) (by simp [and_assoc])
  | [], _ :: _ | _ :: _, [] => isFalse nofun

end

instance : DecidableEq Value := decideEq

end Value

end TargetFeatures
