import TargetFeatures.Proofs.Data.Document
import TargetFeatures.Proofs.Json.Strings

/-!
# Documents are read back

A tree of texts is read from its text, on whatever lines its members stand (`IsTextTree.read_eq`),
except that the halves of a pair that stand side by side in one of its texts are joined. The reader
is bounded by a depth of recursion and by the nesting that its limits allow: twice the length of the
text is depth enough, and the height of the tree is what the limits have to allow.
-/

namespace TargetFeatures.Json

open Text Value

/-! ## Gaps between tokens -/

theorem skipSpace_append {gap : List Char} (blank : ∀ character ∈ gap, isSpace character)
    (rest : List Char) : skipSpace (gap ++ rest) = skipSpace rest :=
  List.dropWhile_append_of_pos blank

theorem skipSpace_comma (rest : List Char) : skipSpace (',' :: rest) = ',' :: rest := rfl

theorem isSpace_of_mem_edge {spacing : Spacing} {level : Nat} {character : Char}
    (member : character ∈ spacing.edge level) : isSpace character := by
  cases spacing with
  | compact => cases member
  | indented =>
      rcases List.mem_cons.mp member with rfl | later
      · rfl
      · rw [List.eq_of_mem_replicate later]
        rfl

theorem skipSpace_edge (spacing : Spacing) (level : Nat) {close : Char}
    (notBlank : isSpace close = false) (rest : List Char) :
    skipSpace (spacing.edge level ++ close :: rest) = close :: rest := by
  rw [skipSpace_append fun _ => isSpace_of_mem_edge, skipSpace,
    List.dropWhile_cons_of_neg (by simp [notBlank])]

theorem exists_between_eq (spacing : Spacing) (level : Nat) :
    ∃ gap, spacing.between level = ',' :: gap ∧ ∀ character ∈ gap, isSpace character := by
  cases spacing with
  | compact => exact ⟨[' '], rfl, by simp [isSpace]⟩
  | indented => exact ⟨_, rfl, fun character => isSpace_of_mem_edge⟩

/-- Whether a text starts with a token that closes nothing. -/
def Starts (characters : List Char) : Prop :=
  ∃ first rest, characters = first :: rest ∧
    isSpace first = false ∧ first ≠ ']' ∧ first ≠ '\x7d'

theorem Starts.skipSpace_eq {characters : List Char} (starts : Starts characters) :
    skipSpace characters = characters := by
  rcases starts with ⟨first, rest, rfl, notBlank, _⟩
  rw [skipSpace, List.dropWhile_cons_of_neg (by simp [notBlank])]

/-! ## Trees of texts -/

/-- Whether all keys of a mapping that are texts are free of pairs. -/
def HasUnpairedKeys (entries : List (Scalar × Value)) : Prop :=
  ∀ entry ∈ entries, ∀ name, entry.1 = .text name → IsUnpaired name

/-- Whether a document is a tree of texts in which lists and mappings are nested to a height at
most, and the keys of mappings are free of pairs. -/
inductive IsTextTree : Nat → Value → Prop
  | text {height : Nat} (text : String) : IsTextTree height (.ofText text)
  | list {height : Nat} {items : List Value} (trees : ∀ item ∈ items, IsTextTree height item) :
      IsTextTree (height + 1) (.list items)
  | map {height : Nat} {entries : List (Scalar × Value)} (keys : HasTextKeys entries)
      (unpaired : HasUnpairedKeys entries) (trees : ∀ entry ∈ entries, IsTextTree height entry.2) :
      IsTextTree (height + 1) (.map entries)

theorem isTextTree_object {height : Nat} {entries : List (String × Value)}
    (nodup : (entries.map Prod.fst).Nodup) (unpaired : ∀ entry ∈ entries, IsUnpaired entry.1)
    (trees : ∀ entry ∈ entries, IsTextTree height entry.2) :
    IsTextTree (height + 1) (.object entries) := by
  refine .map (hasTextKeys_fieldsOf nodup) ?keys ?contents
  case keys =>
    intro entry member name named
    rcases List.mem_map.mp member with ⟨origin, listed, rfl⟩
    cases named
    exact unpaired origin listed
  case contents =>
    intro entry member
    rcases List.mem_map.mp member with ⟨origin, listed, rfl⟩
    exact trees origin listed

mutual

/-- A document in which the halves of every pair in a text are joined. Keys stay as they are. -/
def joinedTexts : Value → Value
  | .scalar (.text text) => .ofText (joined text)
  | .list items => .list (joinedItems items)
  | .map entries => .map (joinedEntries entries)
  | other => other

/-- Documents in which the halves of every pair in a text are joined. -/
def joinedItems : List Value → List Value
  | [] => []
  | item :: rest => joinedTexts item :: joinedItems rest

/-- Entries with documents in which the halves of every pair in a text are joined. -/
def joinedEntries : List (Scalar × Value) → List (Scalar × Value)
  | [] => []
  | (key, content) :: rest => (key, joinedTexts content) :: joinedEntries rest

end

theorem keys_joinedEntries (entries : List (Scalar × Value)) :
    (joinedEntries entries).map Prod.fst = entries.map Prod.fst := by
  induction entries with
  | nil => rfl
  | cons entry rest ih => simp [joinedEntries, ih]

theorem hasTextKeys_joinedEntries {entries : List (Scalar × Value)} (keys : HasTextKeys entries) :
    HasTextKeys (joinedEntries entries) := by
  rcases keys with ⟨names, nodup, named⟩
  exact ⟨names, nodup, (keys_joinedEntries entries).trans named⟩

/-- Whether limits leave room for lists and mappings nested to a height. -/
def Limits.Allow (limits : Limits) (height : Nat) : Prop :=
  ∀ most, limits.nesting = some most → height ≤ most

theorem Limits.Allow.inner {limits : Limits} {height : Nat} (room : limits.Allow (height + 1)) :
    ∃ inner, limits.inner? = some inner ∧ inner.Allow height := by
  rw [inner?]
  split
  · next unbounded => exact ⟨limits, rfl, by simp [Allow, unbounded]⟩
  · next full => exact absurd (room 0 full) (by omega)
  · next most bound =>
      refine ⟨_, rfl, ?_⟩
      intro other same
      cases same
      have := room _ bound
      omega

/-- Whether a document is read from its text, with joined pairs, wherever that stands. -/
def ReadsBack (limits : Limits) (document : Value) : Prop :=
  ∀ spacing level depth rest, 2 * (valueText spacing level document).length ≤ depth →
    value limits depth (valueText spacing level document ++ rest) =
      .ok (joinedTexts document, rest)

theorem readsBack_ofText (limits : Limits) (text : String) : ReadsBack limits (.ofText text) := by
  intro spacing level depth rest enough
  have shape : valueText spacing level (.ofText text) ++ rest =
      '"' :: ((toUnits text.toList).flatMap escapeUnit ++ '"' :: rest) := by
    simp [ofText, valueText, scalarText, stringText]
  cases depth with
  | zero => simp [ofText, valueText, scalarText, stringText] at enough
  | succ depth =>
      rw [shape, value, string?_stringText]
      rfl

theorem IsTextTree.starts {height : Nat} {document : Value} (tree : IsTextTree height document)
    (spacing : Spacing) (level : Nat) (rest : List Char) :
    Starts (valueText spacing level document ++ rest) := by
  cases tree with
  | text text => exact ⟨_, _, rfl, by decide⟩
  | @list height items trees => cases items <;> exact ⟨_, _, rfl, by decide⟩
  | @map height entries keys trees => cases entries <;> exact ⟨_, _, rfl, by decide⟩

section

variable {limits inner : Limits} {height : Nat} {spacing : Spacing} {level : Nat}

/-! ## Lists -/

theorem itemsText_cons_cons (item other : Value) (items : List Value) :
    itemsText spacing level (item :: other :: items) =
      valueText spacing level item ++
        (spacing.between level ++ itemsText spacing level (other :: items)) := by
  rw [itemsText, List.append_assoc]
  simp

theorem starts_itemsText {items : List Value} (trees : ∀ item ∈ items, IsTextTree height item)
    (filled : items ≠ []) (spacing : Spacing) (level : Nat) (rest : List Char) :
    Starts (itemsText spacing level items ++ rest) := by
  cases items with
  | nil => exact absurd rfl filled
  | cons item items =>
      have first := trees item List.mem_cons_self
      cases items with
      | nil => exact first.starts spacing level rest
      | cons other items =>
          rw [itemsText_cons_cons, List.append_assoc]
          exact first.starts spacing level _

theorem items_itemsText {items : List Value} (trees : ∀ item ∈ items, IsTextTree height item)
    (readsBack : ∀ item ∈ items, ReadsBack limits item) (filled : items ≠ []) (depth : Nat)
    (enough : 2 * (itemsText spacing level items).length < depth) (after : Nat)
    (rest : List Char) :
    Json.items limits depth
        (itemsText spacing level items ++ (spacing.edge after ++ ']' :: rest)) =
      .ok (joinedItems items, rest) := by
  induction items generalizing depth with
  | nil => exact absurd rfl filled
  | cons item items ih =>
      cases depth with
      | zero => omega
      | succ depth =>
          have first := readsBack item List.mem_cons_self spacing level depth
          cases items with
          | nil =>
              rw [itemsText] at enough ⊢
              rw [Json.items, first _ (by omega)]
              simp only [bind, Except.bind]
              rw [skipSpace_edge spacing after (by decide)]
              rfl
          | cons other items =>
              rcases exists_between_eq spacing level with ⟨gap, between, blank⟩
              rw [List.forall_mem_cons] at trees readsBack
              have following := starts_itemsText trees.2 (List.cons_ne_nil other items) spacing
                level (spacing.edge after ++ ']' :: rest)
              rw [itemsText_cons_cons, between] at enough ⊢
              simp only [List.length_append, List.length_cons] at enough
              have others := ih trees.2 readsBack.2 (List.cons_ne_nil other items) depth (by omega)
              simp only [List.append_assoc, List.cons_append]
              rw [Json.items, first _ (by omega)]
              simp only [bind, Except.bind, skipSpace_comma, skipSpace_append blank,
                following.skipSpace_eq, others]
              rfl

theorem value_list (room : limits.inner? = some inner) {gap characters : List Char}
    (blank : ∀ character ∈ gap, isSpace character) (starts : Starts characters) (depth : Nat) :
    value limits (depth + 1) ('[' :: (gap ++ characters)) =
      (Json.items inner depth characters).map fun (items, rest) => (.list items, rest) := by
  rw [value, room, skipSpace_append blank, starts.skipSpace_eq]
  rcases starts with ⟨first, tail, rfl, _, notClose, _⟩
  split
  · next missing => cases missing
  · next same => exact absurd (List.cons.inj same).1 notClose
  · next same _ =>
      cases same
      rfl

theorem readsBack_list {items : List Value} (room : limits.inner? = some inner)
    (trees : ∀ item ∈ items, IsTextTree height item)
    (readsBack : ∀ item ∈ items, ReadsBack inner item) : ReadsBack limits (.list items) := by
  intro spacing level depth rest enough
  cases items with
  | nil =>
      cases depth with
      | zero => simp [valueText] at enough
      | succ depth =>
          rw [valueText, List.cons_append, value, room]
          rfl
  | cons item items =>
      have filled := List.cons_ne_nil item items
      have shape : valueText spacing level (.list (item :: items)) ++ rest =
          '[' :: (spacing.edge (level + 1) ++
            (itemsText spacing (level + 1) (item :: items) ++
              (spacing.edge level ++ ']' :: rest))) := by
        simp [valueText]
      have longer : (itemsText spacing (level + 1) (item :: items)).length + 2 ≤
          (valueText spacing level (.list (item :: items))).length := by
        simp only [valueText, List.length_cons, List.length_append]
        omega
      cases depth with
      | zero => omega
      | succ depth =>
          rw [shape, value_list room (fun _ => isSpace_of_mem_edge)
            (starts_itemsText trees filled spacing _ _),
            items_itemsText trees readsBack filled depth (by omega)]
          rfl

/-! ## Mappings -/

theorem entriesText_cons_cons (entry other : Scalar × Value) (entries : List (Scalar × Value)) :
    entriesText spacing level (entry :: other :: entries) =
      entriesText spacing level [entry] ++
        (spacing.between level ++ entriesText spacing level (other :: entries)) := by
  rw [entriesText, entriesText, List.append_assoc]
  simp

theorem starts_entriesText (name : String) (content : Value) (entries : List (Scalar × Value))
    (spacing : Spacing) (level : Nat) (rest : List Char) :
    Starts (entriesText spacing level ((.text name, content) :: entries) ++ rest) := by
  cases entries <;> exact ⟨_, _, rfl, by decide⟩

theorem entries_entry {known : List (Scalar × Value)} {name : String} {content : Value}
    (unpaired : IsUnpaired name) (tree : IsTextTree height content)
    (readsBack : ReadsBack limits content) {depth : Nat}
    (enough : 2 * (entriesText spacing level [(.text name, content)]).length ≤ depth)
    (rest : List Char) :
    Json.entries limits (depth + 1) known
        (entriesText spacing level [(.text name, content)] ++ rest) =
      match skipSpace rest with
      | '\x7d' :: rest => .ok (put known (.text name) (joinedTexts content), rest)
      | ',' :: rest =>
        Json.entries limits depth (put known (.text name) (joinedTexts content)) (skipSpace rest)
      | _ => .error .malformed := by
  have shape : entriesText spacing level [(.text name, content)] ++ rest =
      '"' :: ((toUnits name.toList).flatMap escapeUnit ++
        '"' :: (':' :: ' ' :: (valueText spacing level content ++ rest))) := by
    simp [entriesText, keyText, stringText]
  have shorter : (valueText spacing level content).length ≤
      (entriesText spacing level [(.text name, content)]).length := by
    simp only [entriesText, List.length_append, List.length_cons]
    omega
  have contentRead := readsBack spacing level depth rest (by omega)
  have colon : ∀ tail, skipSpace (':' :: tail) = ':' :: tail := fun _ => rfl
  have space : skipSpace (' ' :: (valueText spacing level content ++ rest)) =
      valueText spacing level content ++ rest :=
    (tree.starts spacing level rest).skipSpace_eq
  rw [shape, Json.entries, string?_stringText, joined_of_isUnpaired unpaired]
  simp only [required, bind, Except.bind, colon, space, contentRead]
  rfl

theorem entries_entriesText (known : List (Scalar × Value)) {entries : List (Scalar × Value)}
    (keys : HasTextKeys (known ++ joinedEntries entries)) (unpaired : HasUnpairedKeys entries)
    (trees : ∀ entry ∈ entries, IsTextTree height entry.2)
    (readsBack : ∀ entry ∈ entries, ReadsBack limits entry.2) (filled : entries ≠ []) (depth : Nat)
    (enough : 2 * (entriesText spacing level entries).length < depth) (after : Nat)
    (rest : List Char) :
    Json.entries limits depth known
        (entriesText spacing level entries ++ (spacing.edge after ++ '\x7d' :: rest)) =
      .ok (known ++ joinedEntries entries, rest) := by
  -- Keys are distinct, so each entry comes behind those that were read before it.
  induction entries generalizing depth known with
  | nil => exact absurd rfl filled
  | cons entry entries ih =>
      rcases entry with ⟨key, content⟩
      rw [joinedEntries] at keys ⊢
      rcases keys.exists_put_eq with ⟨name, named, putEq⟩
      dsimp only at named putEq
      subst named
      rw [HasUnpairedKeys, List.forall_mem_cons] at unpaired
      rw [List.forall_mem_cons] at trees readsBack
      dsimp only at trees readsBack
      have plain : IsUnpaired name := unpaired.1 name rfl
      cases depth with
      | zero => omega
      | succ depth =>
          cases entries with
          | nil =>
              rw [entries_entry plain trees.1 readsBack.1 (by omega),
                skipSpace_edge spacing after (by decide), putEq]
              rfl
          | cons other entries =>
              rcases exists_between_eq spacing level with ⟨gap, between, blank⟩
              rw [List.append_cons] at keys
              rcases other with ⟨otherKey, otherContent⟩
              have otherKeys := keys
              rw [joinedEntries] at otherKeys
              rcases otherKeys.exists_put_eq with ⟨otherName, otherNamed, _⟩
              cases otherNamed
              have following := starts_entriesText otherName otherContent entries spacing level
                (spacing.edge after ++ '\x7d' :: rest)
              rw [entriesText_cons_cons, between] at enough ⊢
              simp only [List.length_append, List.length_cons] at enough
              have others := ih _ keys unpaired.2 trees.2 readsBack.2 (List.cons_ne_nil _ entries)
                depth (by omega)
              simp only [List.append_assoc, List.cons_append]
              rw [entries_entry plain trees.1 readsBack.1 (by omega), skipSpace_comma, putEq]
              simp only [skipSpace_append blank, following.skipSpace_eq, others,
                List.append_assoc, List.singleton_append]

theorem value_map_of_starts (room : limits.inner? = some inner) {gap characters : List Char}
    (blank : ∀ character ∈ gap, isSpace character) (starts : Starts characters) (depth : Nat) :
    value limits (depth + 1) ('\x7b' :: (gap ++ characters)) =
      (Json.entries inner depth [] characters).map fun (entries, rest) => (.map entries, rest) := by
  rw [value, room, skipSpace_append blank, starts.skipSpace_eq]
  rcases starts with ⟨first, tail, rfl, _, _, notClose⟩
  split
  · next missing => cases missing
  · next same => exact absurd (List.cons.inj same).1 notClose
  · next same _ =>
      cases same
      rfl

theorem readsBack_map {entries : List (Scalar × Value)} (room : limits.inner? = some inner)
    (keys : HasTextKeys entries) (unpaired : HasUnpairedKeys entries)
    (trees : ∀ entry ∈ entries, IsTextTree height entry.2)
    (readsBack : ∀ entry ∈ entries, ReadsBack inner entry.2) : ReadsBack limits (.map entries) := by
  intro spacing level depth rest enough
  cases entries with
  | nil =>
      cases depth with
      | zero => simp [valueText] at enough
      | succ depth =>
          rw [valueText, List.cons_append, value, room]
          rfl
  | cons entry entries =>
      have filled := List.cons_ne_nil entry entries
      rcases keys.of_cons with ⟨_, name, named, _⟩
      rcases entry with ⟨key, content⟩
      dsimp only at named
      subst named
      have shape :
          valueText spacing level (.map ((.text name, content) :: entries)) ++ rest =
          '\x7b' :: (spacing.edge (level + 1) ++
            (entriesText spacing (level + 1) ((.text name, content) :: entries) ++
              (spacing.edge level ++ '\x7d' :: rest))) := by
        simp [valueText]
      have longer :
          (entriesText spacing (level + 1)
            ((.text name, content) :: entries)).length + 2 ≤
          (valueText spacing level
            (.map ((.text name, content) :: entries))).length := by
        simp only [valueText, List.length_cons, List.length_append]
        omega
      cases depth with
      | zero => omega
      | succ depth =>
          rw [shape, value_map_of_starts room (fun _ => isSpace_of_mem_edge)
            (starts_entriesText name content entries spacing _ _),
            entries_entriesText [] (hasTextKeys_joinedEntries keys) unpaired trees readsBack filled
              depth (by omega)]
          rfl

end

/-! ## Documents -/

theorem IsTextTree.readsBack {height : Nat} {document : Value} (tree : IsTextTree height document)
    {limits : Limits} (room : limits.Allow height) : ReadsBack limits document := by
  induction tree generalizing limits with
  | text text => exact readsBack_ofText limits text
  | list trees ih =>
      rcases room.inner with ⟨inner, deeper, room⟩
      exact readsBack_list deeper trees fun item member => ih item member room
  | map keys unpaired trees ih =>
      rcases room.inner with ⟨inner, deeper, room⟩
      exact readsBack_map deeper keys unpaired trees fun entry member => ih entry member room

/-- A tree of texts is read from its text, with joined pairs, whatever lines its members stand on,
unless it is nested deeper than the limits allow. -/
theorem IsTextTree.read_eq {height : Nat} {document : Value} (tree : IsTextTree height document)
    {limits : Limits} (room : limits.Allow height) (spacing : Spacing) :
    Json.read limits (String.ofList (valueText spacing 0 document)) =
      .ok (joinedTexts document) := by
  have starts := tree.starts spacing 0 []
  have result := tree.readsBack room spacing 0
    (2 * (valueText spacing 0 document).length + 2) [] (by omega)
  rw [List.append_nil] at starts result
  rw [Json.read, String.toList_ofList]
  simp only [starts.skipSpace_eq, result, bind, Except.bind]
  rfl

end TargetFeatures.Json
