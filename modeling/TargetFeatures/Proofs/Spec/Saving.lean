import TargetFeatures.Catalog.Source
import TargetFeatures.Proofs.Data.Document

/-!
# Saving a description and reading it again

The document of a description leaves out the fields that hold nothing, writes every dependency as a
record and every version as a list. Decoding it gives back the description. A field that was left
out is absent, and for each such field absence is read as nothing; all other fields are found where
they were written (`requiredField_fieldsOf` and its companions). The alternate names come back in
the same order because a table is rebuilt entry by entry.

The document is a tree over texts and integers. Whatever writes and reads such trees without a
change therefore loses nothing of a description.
-/

namespace TargetFeatures

open Value

theorem Checked.value?_eq_some_iff {α : Type} {checked : Checked α} {value : α} :
    checked.value? = some value ↔ checked = .valid value := by
  cases checked <;> simp [value?]

/-! ## Fields -/

namespace Decoder

variable {α : Type} {decode : Decoder α}

section

variable {entries : List (String × Value)} {field : String} {value : Value} {result : α}
  (nodup : (entries.map Prod.fst).Nodup) (member : (field, value) ∈ entries)

include nodup member

theorem lookup?_fieldsOf : lookup? (fieldsOf entries) field = some value :=
  (hasTextKeys_fieldsOf nodup).lookup?_eq_some_iff.mpr (mem_fieldsOf.mpr member)

theorem requiredField_fieldsOf (decoded : decode value = .valid result) :
    requiredField (fieldsOf entries) field decode = .valid result := by
  rw [requiredField, lookup?_fieldsOf nodup member, Option.elim_some, decoded]
  rfl

theorem optionalField_fieldsOf (absent : α) (decoded : decode value = .valid result) :
    optionalField (fieldsOf entries) field absent decode = .valid result := by
  rw [optionalField, lookup?_fieldsOf nodup member, Option.elim_some, decoded]
  rfl

end

theorem optionalField_fieldsOf_of_missing {entries : List (String × Value)} {field : String}
    (missing : ∀ value, (field, value) ∉ entries) (absent : α) :
    optionalField (fieldsOf entries) field absent decode = .valid absent := by
  rw [optionalField, lookup?_fieldsOf_eq_none missing]
  rfl

theorem all_items_map {β : Type} {decode : Decoder β} {encode : β → Value} {contents : List β}
    (decodes : ∀ content ∈ contents, decode (encode content) = .valid content) (position : Nat) :
    Checked.all (items decode position (contents.map encode)) = .valid contents := by
  induction contents generalizing position with
  | nil => rfl
  | cons content rest ih =>
      have first := decodes content List.mem_cons_self
      have following := ih (fun other member => decodes other (List.mem_cons_of_mem _ member))
        (position + 1)
      rw [List.map_cons, items, Checked.all, first, following]
      rfl

/-- A list whose items are read back is read back. -/
theorem list_map {β : Type} {decode : Decoder β} {encode : β → Value} {contents : List β}
    (decodes : ∀ content ∈ contents, decode (encode content) = .valid content) :
    list decode (.list (contents.map encode)) = .valid contents :=
  all_items_map decodes 0

@[simp]
theorem text_ofText (value : String) : text (.ofText value) = .valid value := rfl

@[simp]
theorem integer_ofInt (value : Int) : integer (.ofInt value) = .valid value := rfl

@[simp]
theorem list_ofTexts (texts : List String) : list text (.ofTexts texts) = .valid texts :=
  list_map fun value _ => text_ofText value

end Decoder

/-! ## Fields that hold nothing -/

namespace CatalogSpec

theorem mem_dropNulls {entries : List (String × Value)} {entry : String × Value} :
    entry ∈ dropNulls entries ↔ entry ∈ entries ∧ entry.2 ≠ .null := by
  rw [dropNulls, List.mem_filter]
  apply and_congr_right
  intro _
  split
  · next absent => simp [absent, Value.null]
  · next present => simpa [Value.null] using present

theorem nodup_keys_dropNulls {entries : List (String × Value)}
    (nodup : (entries.map Prod.fst).Nodup) : ((dropNulls entries).map Prod.fst).Nodup :=
  nodup.sublist (List.filter_sublist.map _)

/-- A field that may hold nothing is left out when it does, and read as nothing when it is
absent. -/
theorem optionalField_dropNulls {α : Type} {decode : Decoder α} {encode : α → Value}
    {entries : List (String × Value)} {field : String} {content : Option α}
    (nodup : (entries.map Prod.fst).Nodup) (member : (field, content.elim .null encode) ∈ entries)
    (decodes : ∀ value, decode (encode value) = .valid value)
    (present : ∀ value, encode value ≠ .null) :
    Decoder.optionalField (fieldsOf (dropNulls entries)) field none (Decoder.nullable decode) =
      .valid content := by
  cases content with
  | none =>
      apply Decoder.optionalField_fieldsOf_of_missing
      intro value kept
      rw [mem_dropNulls] at kept
      have same := (lookup_eq_some_iff_mem nodup).mpr member
      rw [(lookup_eq_some_iff_mem nodup).mpr kept.1, Option.some.injEq] at same
      exact kept.2 same
  | some value =>
      have kept := mem_dropNulls.mpr ⟨member, present value⟩
      apply Decoder.optionalField_fieldsOf (nodup_keys_dropNulls nodup) kept
      rw [Option.elim_some, Decoder.nullable, decodes]
      · rfl
      · exact present value

section

variable {α : Type} {decode : Decoder α} {entries : List (String × Value)} {field : String}
  {value : Value} {result : α} (nodup : (entries.map Prod.fst).Nodup)
  (member : (field, value) ∈ entries) (present : value ≠ .null)

include nodup member present

theorem requiredField_dropNulls (decoded : decode value = .valid result) :
    Decoder.requiredField (fieldsOf (dropNulls entries)) field decode = .valid result :=
  Decoder.requiredField_fieldsOf (nodup_keys_dropNulls nodup)
    (mem_dropNulls.mpr ⟨member, present⟩) decoded

theorem optionalField_dropNulls_of_present (absent : α) (decoded : decode value = .valid result) :
    Decoder.optionalField (fieldsOf (dropNulls entries)) field absent decode = .valid result :=
  Decoder.optionalField_fieldsOf (nodup_keys_dropNulls nodup)
    (mem_dropNulls.mpr ⟨member, present⟩) absent decoded

end

theorem isTree_object_dropNulls {leaf : Scalar → Prop} {entries : List (String × Value)}
    (nodup : (entries.map Prod.fst).Nodup)
    (trees : ∀ entry ∈ entries, entry.2 ≠ .null → IsTree leaf entry.2) :
    IsTree leaf (.object (dropNulls entries)) := by
  apply isTree_object (nodup_keys_dropNulls nodup)
  intro entry member
  rw [mem_dropNulls] at member
  exact trees entry member.1 member.2

end CatalogSpec

/-! ## Records -/

open Decoder CatalogSpec

@[simp]
theorem Value.ofText_ne_null (value : String) : ofText value ≠ null := by
  simp [ofText, null]

@[simp]
theorem Value.ofInt_ne_null (value : Int) : ofInt value ≠ null := by
  simp [ofInt, null]

@[simp]
theorem Value.list_ne_null (items : List Value) : Value.list items ≠ null := by
  simp [null]

@[simp]
theorem Value.ofTexts_ne_null (texts : List String) : ofTexts texts ≠ null := list_ne_null _

theorem Value.ofText?_eq_elim (content : Option String) :
    ofText? content = content.elim .null .ofText := by
  cases content <;> rfl

namespace ExtensionSpec

theorem decodePriority_ofInt (priority : Fin (maxPriority + 1)) :
    decodePriority (.ofInt priority.val) = .valid priority := by
  have bound : ((priority.val : Nat) : Int).toNat < maxPriority + 1 := by
    rw [Int.toNat_natCast]
    exact priority.isLt
  rw [decodePriority, integer_ofInt, Checked.andThen, if_neg (by omega), dif_pos bound]
  simp

theorem nodup_keys_entries (extension : ExtensionSpec) :
    (extension.entries.map Prod.fst).Nodup := by
  simp [entries]

theorem decode_entries (extension : ExtensionSpec) :
    decode (.object (dropNulls extension.entries)) = .valid extension := by
  have nodup := extension.nodup_keys_entries
  have name : requiredField (fieldsOf (dropNulls extension.entries)) "name" text =
      .valid extension.name :=
    requiredField_dropNulls nodup (by simp [entries]) (ofText_ne_null _) (text_ofText _)
  have feature : requiredField (fieldsOf (dropNulls extension.entries)) "feature" text =
      .valid extension.feature :=
    requiredField_dropNulls nodup (by simp [entries]) (ofText_ne_null _) (text_ofText _)
  have negFeature : optionalField (fieldsOf (dropNulls extension.entries)) "neg_feature" none
      (nullable text) = .valid extension.negFeature :=
    optionalField_dropNulls nodup (by simp [entries, ofText?_eq_elim]) text_ofText ofText_ne_null
  have fmvCode : optionalField (fieldsOf (dropNulls extension.entries)) "fmv_code" none
      (nullable integer) = .valid extension.fmvCode :=
    optionalField_dropNulls nodup (by simp [entries]) integer_ofInt ofInt_ne_null
  have fmvImplies : optionalField (fieldsOf (dropNulls extension.entries)) "fmv_implies" none
      (nullable text) = .valid extension.fmvImplies :=
    optionalField_dropNulls nodup (by simp [entries, ofText?_eq_elim]) text_ofText ofText_ne_null
  have fmvPriority : optionalField (fieldsOf (dropNulls extension.entries)) "fmv_priority"
      leastPriority decodePriority = .valid extension.fmvPriority :=
    optionalField_dropNulls_of_present nodup (by simp [entries]) (ofInt_ne_null _) _
      (decodePriority_ofInt _)
  rw [object_eq, decode, record]
  rw [name, feature, negFeature, fmvCode, fmvImplies, fmvPriority]
  rfl

end ExtensionSpec

namespace DependencySpec

theorem nodup_keys_entries (dependency : DependencySpec) :
    (dependency.entries.map Prod.fst).Nodup := by
  simp [entries]

theorem decode_entries (dependency : DependencySpec) :
    decode (.object (dropNulls dependency.entries)) = .valid dependency := by
  have nodup := dependency.nodup_keys_entries
  have earlier : requiredField (fieldsOf (dropNulls dependency.entries)) "earlier" text =
      .valid dependency.earlier :=
    requiredField_dropNulls nodup (by simp [entries]) (ofText_ne_null _) (text_ofText _)
  have later : requiredField (fieldsOf (dropNulls dependency.entries)) "later" text =
      .valid dependency.later :=
    requiredField_dropNulls nodup (by simp [entries]) (ofText_ne_null _) (text_ofText _)
  rw [object_eq, decode, record, decodeEntries, earlier, later]
  · rfl
  · simp
  · simp

end DependencySpec

namespace ArchitectureSpec

@[simp]
theorem decodeVersion_list (major minor : Int) :
    decodeVersion (.list [.ofInt major, .ofInt minor]) = .valid (major, minor) := rfl

@[simp]
theorem decodeProfile_ofText (profile : Profile) :
    decodeProfile (.ofText profile.letter) = .valid profile := by
  rw [ofText, decodeProfile, Profile.ofLetter?_letter]

theorem nodup_keys_entries (architecture : ArchitectureSpec) :
    (architecture.entries.map Prod.fst).Nodup := by
  simp [entries]

theorem decode_entries (architecture : ArchitectureSpec) :
    decode (.object (dropNulls architecture.entries)) = .valid architecture := by
  have nodup := architecture.nodup_keys_entries
  have name : requiredField (fieldsOf (dropNulls architecture.entries)) "name" text =
      .valid architecture.name :=
    requiredField_dropNulls nodup (by simp [entries]) (ofText_ne_null _) (text_ofText _)
  have version : requiredField (fieldsOf (dropNulls architecture.entries)) "version"
      decodeVersion = .valid (architecture.major, architecture.minor) :=
    requiredField_dropNulls nodup (by simp [entries]) (list_ne_null _) (decodeVersion_list _ _)
  have profile : optionalField (fieldsOf (dropNulls architecture.entries)) "profile"
      .application decodeProfile = .valid architecture.profile :=
    optionalField_dropNulls_of_present nodup (by simp [entries]) (ofText_ne_null _) _
      (decodeProfile_ofText _)
  have archFeature : requiredField (fieldsOf (dropNulls architecture.entries)) "arch_feature"
      text = .valid architecture.archFeature :=
    requiredField_dropNulls nodup (by simp [entries]) (ofText_ne_null _) (text_ofText _)
  have base : optionalField (fieldsOf (dropNulls architecture.entries)) "base" none
      (nullable text) = .valid architecture.base :=
    optionalField_dropNulls nodup (by simp [entries, ofText?_eq_elim]) text_ofText ofText_ne_null
  have add : optionalField (fieldsOf (dropNulls architecture.entries)) "add" [] (list text) =
      .valid architecture.add :=
    optionalField_dropNulls_of_present nodup (by simp [entries]) (ofTexts_ne_null _) _
      (list_ofTexts _)
  have remove : optionalField (fieldsOf (dropNulls architecture.entries)) "remove" []
      (list text) = .valid architecture.remove :=
    optionalField_dropNulls_of_present nodup (by simp [entries]) (ofTexts_ne_null _) _
      (list_ofTexts _)
  rw [object_eq, decode, record]
  rw [name, version, profile, archFeature, base, add, remove]
  rfl

end ArchitectureSpec

namespace ProcessorSpec

theorem nodup_keys_entries (processor : ProcessorSpec) :
    (processor.entries.map Prod.fst).Nodup := by
  simp [entries]

theorem decode_entries (processor : ProcessorSpec) :
    decode (.object (dropNulls processor.entries)) = .valid processor := by
  have nodup := processor.nodup_keys_entries
  have name : requiredField (fieldsOf (dropNulls processor.entries)) "name" text =
      .valid processor.name :=
    requiredField_dropNulls nodup (by simp [entries]) (ofText_ne_null _) (text_ofText _)
  have arch : requiredField (fieldsOf (dropNulls processor.entries)) "arch" text =
      .valid processor.arch :=
    requiredField_dropNulls nodup (by simp [entries]) (ofText_ne_null _) (text_ofText _)
  have extensions : optionalField (fieldsOf (dropNulls processor.entries)) "extensions" []
      (list text) = .valid processor.extensions :=
    optionalField_dropNulls_of_present nodup (by simp [entries]) (ofTexts_ne_null _) _
      (list_ofTexts _)
  rw [object_eq, decode, record]
  rw [name, arch, extensions]
  rfl

end ProcessorSpec

/-! ## Tables of alternate names -/

namespace AliasTable

theorem insertEntry_of_fresh {alternate name : String} {entries : List (String × String)}
    (fresh : alternate ∉ entries.map Prod.fst) :
    insertEntry alternate name entries = entries ++ [(alternate, name)] := by
  induction entries with
  | nil => rfl
  | cons entry rest ih =>
      rw [List.map_cons, List.mem_cons, not_or] at fresh
      rw [insertEntry, if_neg (Ne.symm fresh.1), ih fresh.2, List.cons_append]

theorem entries_foldl_insert (table : AliasTable) {entries : List (String × String)}
    (nodup : ((table.entries ++ entries).map Prod.fst).Nodup) :
    (entries.foldl (fun table entry => table.insert entry.1 entry.2) table).entries =
      table.entries ++ entries := by
  induction entries generalizing table with
  | nil => simp
  | cons entry rest ih =>
      have fresh : entry.1 ∉ table.entries.map Prod.fst := by
        rw [List.map_append, List.nodup_append] at nodup
        intro known
        exact nodup.2.2 entry.1 known entry.1 List.mem_cons_self rfl
      have inserted : (table.insert entry.1 entry.2).entries = table.entries ++ [entry] :=
        insertEntry_of_fresh fresh
      rw [List.foldl_cons, ih, inserted, List.append_assoc, List.singleton_append]
      rwa [inserted, List.append_assoc, List.singleton_append]

/-- A table is rebuilt from its entries. -/
theorem ofList_entries (table : AliasTable) : ofList table.entries = table := by
  have rebuilt : (ofList table.entries).entries = table.entries :=
    entries_foldl_insert empty table.nodup
  cases same : ofList table.entries
  cases table
  rw [same] at rebuilt
  simpa using rebuilt

theorem all_textEntries (entries : List (String × String)) :
    Checked.all (textEntries (fieldsOf (entries.map fun (alternate, name) =>
      (alternate, .ofText name)))) = .valid entries := by
  induction entries with
  | nil => rfl
  | cons entry rest ih =>
      rcases entry with ⟨alternate, name⟩
      rw [List.map_cons, fieldsOf, List.map_cons, textEntries, ← fieldsOf, Checked.all, ih]
      rfl

theorem decode_toValue (table : AliasTable) : decode table.toValue = .valid table := by
  rw [decode, toValue, object_eq, textMapping, all_textEntries, Checked.map, ofList_entries]

theorem isTree_toValue {leaf : Scalar → Prop} (onText : ∀ value, leaf (.text value))
    (table : AliasTable) : IsTree leaf table.toValue := by
  apply isTree_object
  · rw [List.map_map]
    exact table.nodup
  · intro entry member
    rcases List.mem_map.mp member with ⟨origin, _, rfl⟩
    exact .scalar (onText origin.2)

end AliasTable

/-! ## The whole description -/

/-- Whether a scalar is a text or an integer. -/
inductive Scalar.IsTextOrInteger : Scalar → Prop
  | text (value : String) : IsTextOrInteger (.text value)
  | int (value : Int) : IsTextOrInteger (.int value)

namespace Value

theorem isTree_ofText (value : String) : IsTree Scalar.IsTextOrInteger (ofText value) :=
  .scalar (.text value)

theorem isTree_ofInt (value : Int) : IsTree Scalar.IsTextOrInteger (ofInt value) :=
  .scalar (.int value)

theorem isTree_ofTexts (texts : List String) : IsTree Scalar.IsTextOrInteger (ofTexts texts) := by
  refine .list fun item member => ?_
  rcases List.mem_map.mp member with ⟨value, _, rfl⟩
  exact isTree_ofText value

theorem isTree_elim {α : Type} {leaf : Scalar → Prop} {encode : α → Value} {content : Option α}
    (trees : ∀ value, IsTree leaf (encode value)) (present : content.elim .null encode ≠ .null) :
    IsTree leaf (content.elim .null encode) := by
  cases content with
  | none => exact absurd rfl present
  | some value => exact trees value

end Value

theorem ExtensionSpec.isTree_entries (extension : ExtensionSpec) :
    IsTree Scalar.IsTextOrInteger (.object (dropNulls extension.entries)) := by
  apply isTree_object_dropNulls extension.nodup_keys_entries
  simp only [entries, List.forall_mem_cons, ofText?_eq_elim]
  exact ⟨fun _ => isTree_ofText _, fun _ => isTree_ofText _, isTree_elim isTree_ofText,
    isTree_elim isTree_ofInt, isTree_elim isTree_ofText, fun _ => isTree_ofInt _, by simp⟩

theorem DependencySpec.isTree_entries (dependency : DependencySpec) :
    IsTree Scalar.IsTextOrInteger (.object (dropNulls dependency.entries)) := by
  apply isTree_object_dropNulls dependency.nodup_keys_entries
  simp only [entries, List.forall_mem_cons]
  exact ⟨fun _ => isTree_ofText _, fun _ => isTree_ofText _, by simp⟩

theorem ArchitectureSpec.isTree_entries (architecture : ArchitectureSpec) :
    IsTree Scalar.IsTextOrInteger (.object (dropNulls architecture.entries)) := by
  have version : IsTree Scalar.IsTextOrInteger
      (.list [.ofInt architecture.major, .ofInt architecture.minor]) := by
    refine .list ?_
    simp [isTree_ofInt]
  apply isTree_object_dropNulls architecture.nodup_keys_entries
  simp only [entries, List.forall_mem_cons, ofText?_eq_elim]
  exact ⟨fun _ => isTree_ofText _, fun _ => version, fun _ => isTree_ofText _,
    fun _ => isTree_ofText _, isTree_elim isTree_ofText, fun _ => isTree_ofTexts _,
    fun _ => isTree_ofTexts _, by simp⟩

theorem ProcessorSpec.isTree_entries (processor : ProcessorSpec) :
    IsTree Scalar.IsTextOrInteger (.object (dropNulls processor.entries)) := by
  apply isTree_object_dropNulls processor.nodup_keys_entries
  simp only [entries, List.forall_mem_cons]
  exact ⟨fun _ => isTree_ofText _, fun _ => isTree_ofText _, fun _ => isTree_ofTexts _, by simp⟩

namespace CatalogSpec

/-- The list of the documents of some records. -/
def recordsValue {α : Type} (entries : α → List (String × Value)) (records : List α) : Value :=
  .list (records.map fun record => .object (dropNulls (entries record)))

/-- The two tables of alternate names as a record. -/
def aliasEntries (spec : CatalogSpec) : List (String × Value) :=
  [("cpu", spec.cpuAliases.toValue), ("extension", spec.extensionAliases.toValue)]

/-- The entries of the document of a description. -/
def sections (spec : CatalogSpec) : List (String × Value) :=
  [("extensions", recordsValue ExtensionSpec.entries spec.extensions),
   ("dependencies", recordsValue DependencySpec.entries spec.dependencies),
   ("architectures", recordsValue ArchitectureSpec.entries spec.architectures),
   ("processors", recordsValue ProcessorSpec.entries spec.processors),
   ("aliases", .object spec.aliasEntries)]

theorem toValue_eq (spec : CatalogSpec) : spec.toValue = .object spec.sections := by
  simp [toValue, toValueWith, sections, recordsValue, aliasEntries, Function.comp_def]

theorem decodeBoth_aliasEntries (spec : CatalogSpec) :
    AliasTable.decodeBoth (.object spec.aliasEntries) =
      .valid (spec.cpuAliases, spec.extensionAliases) := by
  have nodup : (spec.aliasEntries.map Prod.fst).Nodup := by simp [aliasEntries]
  have cpu : optionalField (fieldsOf spec.aliasEntries) "cpu" .empty AliasTable.decode =
      .valid spec.cpuAliases :=
    optionalField_fieldsOf nodup (by simp [aliasEntries]) _ (AliasTable.decode_toValue _)
  have extension : optionalField (fieldsOf spec.aliasEntries) "extension" .empty
      AliasTable.decode = .valid spec.extensionAliases :=
    optionalField_fieldsOf nodup (by simp [aliasEntries]) _ (AliasTable.decode_toValue _)
  rw [object_eq, AliasTable.decodeBoth, record, cpu, extension]
  rfl

theorem nodup_keys_sections (spec : CatalogSpec) : (spec.sections.map Prod.fst).Nodup := by
  simp [sections]

theorem decode_recordsValue {α : Type} {decode : Decoder α} {entries : α → List (String × Value)}
    {records : List α}
    (decodes : ∀ record, decode (.object (dropNulls (entries record))) = .valid record) :
    list decode (recordsValue entries records) = .valid records :=
  list_map fun record _ => decodes record

/-- Decoding the document of a description gives back the description. -/
theorem decode_toValue (spec : CatalogSpec) : decode spec.toValue = .valid spec := by
  have nodup := spec.nodup_keys_sections
  have extensions : requiredField (fieldsOf spec.sections) "extensions"
      (list ExtensionSpec.decode) = .valid spec.extensions :=
    requiredField_fieldsOf nodup (by simp [sections])
      (decode_recordsValue ExtensionSpec.decode_entries)
  have dependencies : optionalField (fieldsOf spec.sections) "dependencies" []
      (list DependencySpec.decode) = .valid spec.dependencies :=
    optionalField_fieldsOf nodup (by simp [sections]) _
      (decode_recordsValue DependencySpec.decode_entries)
  have architectures : optionalField (fieldsOf spec.sections) "architectures" []
      (list ArchitectureSpec.decode) = .valid spec.architectures :=
    optionalField_fieldsOf nodup (by simp [sections]) _
      (decode_recordsValue ArchitectureSpec.decode_entries)
  have processors : optionalField (fieldsOf spec.sections) "processors" []
      (list ProcessorSpec.decode) = .valid spec.processors :=
    optionalField_fieldsOf nodup (by simp [sections]) _
      (decode_recordsValue ProcessorSpec.decode_entries)
  have aliases : optionalField (fieldsOf spec.sections) "aliases" (.empty, .empty)
      AliasTable.decodeBoth = .valid (spec.cpuAliases, spec.extensionAliases) :=
    optionalField_fieldsOf nodup (by simp [sections]) _ spec.decodeBoth_aliasEntries
  rw [toValue_eq, object_eq, decode, record]
  rw [extensions, dependencies, architectures, processors, aliases]
  rfl

theorem isTree_recordsValue {α : Type} {leaf : Scalar → Prop}
    {entries : α → List (String × Value)} {records : List α}
    (trees : ∀ record, IsTree leaf (.object (dropNulls (entries record)))) :
    IsTree leaf (recordsValue entries records) := by
  refine .list fun item member => ?_
  rcases List.mem_map.mp member with ⟨record, _, rfl⟩
  exact trees record

theorem isTree_toValue (spec : CatalogSpec) : IsTree Scalar.IsTextOrInteger spec.toValue := by
  have aliases : IsTree Scalar.IsTextOrInteger (.object spec.aliasEntries) := by
    apply isTree_object
    · simp [aliasEntries]
    · simp only [aliasEntries, List.forall_mem_cons]
      exact ⟨AliasTable.isTree_toValue Scalar.IsTextOrInteger.text _,
        AliasTable.isTree_toValue Scalar.IsTextOrInteger.text _, by simp⟩
  rw [toValue_eq]
  apply isTree_object spec.nodup_keys_sections
  simp only [sections, List.forall_mem_cons]
  exact ⟨isTree_recordsValue ExtensionSpec.isTree_entries,
    isTree_recordsValue DependencySpec.isTree_entries,
    isTree_recordsValue ArchitectureSpec.isTree_entries,
    isTree_recordsValue ProcessorSpec.isTree_entries, aliases, by simp⟩

/-- A document that says some things in other ways than a saved one: a null, numbers as a truth
value, a text and a number with a fraction, fields in another order, and a dependency as a pair. -/
def looseDocument : Value := .object
  [("extensions", .list
    [.object [("name", .ofText "fp"), ("feature", .ofText "+fp"), ("neg_feature", .null),
      ("fmv_code", .ofBool true), ("fmv_priority", .ofText " 1_0.0 ")],
     .object [("feature", .ofText "+simd"), ("name", .ofText "simd"),
      ("fmv_code", .scalar (.real (.finite false 8 0))), ("comment", .list [])]]),
   ("dependencies", .list
    [.list [.ofText "fp", .ofText "simd"],
     .object [("later", .ofText "simd"), ("earlier", .ofText "fp")]]),
   ("architectures", .list
    [.object [("name", .ofText "v8"), ("version", .list [.ofText "8", .ofBool false]),
      ("arch_feature", .ofText "+v8"), ("base", .null), ("add", .list [.ofText "fp"])]]),
   ("aliases", .object [("extension", .object [("neon", .ofText "simd")])])]

/-- The description in that document. -/
def loose : CatalogSpec where
  extensions :=
    [⟨"fp", "+fp", none, some 1, none, ⟨10, by decide⟩⟩,
     ⟨"simd", "+simd", none, some 8, none, leastPriority⟩]
  dependencies := [⟨"fp", "simd"⟩, ⟨"fp", "simd"⟩]
  architectures := [⟨"v8", 8, 0, .application, "+v8", none, ["fp"], []⟩]
  processors := []
  cpuAliases := .empty
  extensionAliases := AliasTable.empty.insert "neon" "simd"

end CatalogSpec

end TargetFeatures
