/-!
# Tables of alternate names

An alias table sends alternate names to names, one step each. It is a list of entries in the order
in which the alternate names were first given; no alternate name has two entries, and a later
entry for the same one replaces the value of the earlier.
-/

namespace TargetFeatures

namespace AliasTable

/-- Entries after one alternate name was given a meaning. -/
def insertEntry (alternate name : String) : List (String × String) → List (String × String)
  | [] => [(alternate, name)]
  | entry :: rest =>
    if entry.1 = alternate then (alternate, name) :: rest
    else entry :: insertEntry alternate name rest

theorem mem_keys_insertEntry (alternate name key : String) (entries : List (String × String)) :
    key ∈ (insertEntry alternate name entries).map Prod.fst ↔
      key = alternate ∨ key ∈ entries.map Prod.fst := by
  induction entries with
  | nil => simp [insertEntry]
  | cons entry rest ih =>
    by_cases same : entry.1 = alternate
    · simp [insertEntry, same]
    · simp only [insertEntry, same, if_false, List.map_cons, List.mem_cons, ih]
      grind

theorem nodup_insertEntry (alternate name : String) {entries : List (String × String)}
    (nodup : (entries.map Prod.fst).Nodup) :
    ((insertEntry alternate name entries).map Prod.fst).Nodup := by
  induction entries with
  | nil => simp [insertEntry]
  | cons entry rest ih =>
    simp only [List.map_cons, List.nodup_cons] at nodup
    by_cases same : entry.1 = alternate
    · rw [insertEntry, if_pos same, List.map_cons, List.nodup_cons]
      exact same ▸ nodup
    · rw [insertEntry, if_neg same, List.map_cons, List.nodup_cons, mem_keys_insertEntry, not_or]
      exact ⟨⟨same, nodup.1⟩, ih nodup.2⟩

end AliasTable

/-- A table of alternate names. -/
structure AliasTable where
  entries : List (String × String)
  nodup : (entries.map Prod.fst).Nodup

namespace AliasTable

/-- The table without entries. -/
def empty : AliasTable := ⟨[], by simp⟩

instance : Inhabited AliasTable := ⟨empty⟩

/-- The table in which one alternate name has a new meaning. -/
def insert (table : AliasTable) (alternate name : String) : AliasTable :=
  ⟨insertEntry alternate name table.entries, nodup_insertEntry alternate name table.nodup⟩

/-- The table of a list of entries, of which the last one counts for each alternate name. -/
def ofList (entries : List (String × String)) : AliasTable :=
  entries.foldl (fun table entry => table.insert entry.1 entry.2) empty

/-- The alternate names in order. -/
def alternates (table : AliasTable) : List String := table.entries.map Prod.fst

/-- The name behind an alternate name. -/
def lookup? (table : AliasTable) (alternate : String) : Option String :=
  table.entries.lookup alternate

/-- The name behind an alternate name, or the name itself when it is not one. -/
def resolve (table : AliasTable) (name : String) : String := (table.lookup? name).getD name

instance : DecidableEq AliasTable := fun left right =>
  match decEq left.entries right.entries with
  | isTrue same => isTrue (by cases left; cases right; simp_all)
  | isFalse different => isFalse fun equal => different (congrArg entries equal)

end AliasTable

end TargetFeatures
