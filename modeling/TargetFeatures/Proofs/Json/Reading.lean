import TargetFeatures.Json.Reader
import TargetFeatures.Proofs.Data.Document
import TargetFeatures.Proofs.Data.Failure

/-!
# What reading JSON makes

Every document that is read is a tree in which the keys of a mapping are distinct texts
(`isTree_of_read`), however often a key is repeated in the text. Values, items and entries are read
by one recursion; `ReadsTrees` is what holds of all three at one depth, and the entries keep it of
those that were read before them.
-/

namespace TargetFeatures.Json

open Value

/-- Whether a document is a tree over any scalars. -/
abbrev IsDocument (document : Value) : Prop := IsTree (fun _ => True) document

/-- Whether the reader makes trees when its recursion is bounded by a depth. -/
structure ReadsTrees (depth : Nat) : Prop where
  value : ∀ {limits characters document rest},
    Json.value limits depth characters = .ok (document, rest) → IsDocument document
  items : ∀ {limits characters contents rest},
    Json.items limits depth characters = .ok (contents, rest) →
      ∀ item ∈ contents, IsDocument item
  entries : ∀ {limits known characters contents rest},
    Json.entries limits depth known characters = .ok (contents, rest) →
      IsDocument (.map known) → IsDocument (.map contents)

theorem readsTrees_zero : ReadsTrees 0 where
  value read := by simp [Json.value] at read
  items read := by simp [Json.items] at read
  entries read := by simp [Json.entries] at read

/-- Giving a key a value in a tree keeps it one. -/
theorem isDocument_put {known : List (Scalar × Value)} {content : Value}
    (before : IsDocument (.map known)) (name : String) (holds : IsDocument content) :
    IsDocument (.map (put known (.text name) content)) := by
  cases before with
  | map keys trees =>
      refine .map (keys.put name content) fun entry member => ?_
      rcases mem_put member with old | new
      · exact trees entry old
      · exact new ▸ holds

namespace ReadsTrees

variable {depth : Nat} (reads : ReadsTrees depth) {limits : Limits} {characters rest : List Char}

include reads

theorem value_succ {document : Value}
    (read : Json.value limits (depth + 1) characters = .ok (document, rest)) :
    IsDocument document := by
  unfold Json.value at read
  split at read
  · next bound => cases bound
  · rcases bind_eq_ok_iff.mp read with ⟨⟨text, following⟩, _, same⟩
    cases same
    exact .scalar trivial
  · next bound =>
      cases bound
      split at read
      · cases read
      · cases read
        exact .list fun item member => absurd member List.not_mem_nil
      · rcases map_eq_ok_iff.mp read with ⟨⟨contents, following⟩, inside, same⟩
        cases same
        exact .list (reads.items inside)
  · next bound =>
      cases bound
      split at read
      · cases read
      · cases read
        exact .map hasTextKeys_nil fun entry member => absurd member List.not_mem_nil
      · rcases map_eq_ok_iff.mp read with ⟨⟨contents, following⟩, inside, same⟩
        cases same
        exact reads.entries inside (.map hasTextKeys_nil fun entry member =>
          absurd member List.not_mem_nil)
  · rcases map_eq_ok_iff.mp read with ⟨⟨leaf, following⟩, _, same⟩
    cases same
    exact .scalar trivial

theorem items_succ {contents : List Value}
    (read : Json.items limits (depth + 1) characters = .ok (contents, rest)) :
    ∀ item ∈ contents, IsDocument item := by
  rw [Json.items] at read
  rcases bind_eq_ok_iff.mp read with ⟨⟨first, afterFirst⟩, firstRead, read⟩
  have firstHolds := reads.value firstRead
  dsimp only at read
  split at read
  · cases read
    exact List.forall_mem_singleton.mpr firstHolds
  · rcases bind_eq_ok_iff.mp read with ⟨⟨more, afterMore⟩, moreRead, same⟩
    cases same
    exact List.forall_mem_cons.mpr ⟨firstHolds, reads.items moreRead⟩
  · cases read

theorem entries_succ {known contents : List (Scalar × Value)}
    (read : Json.entries limits (depth + 1) known characters = .ok (contents, rest))
    (before : IsDocument (.map known)) : IsDocument (.map contents) := by
  unfold Json.entries at read
  split at read
  · next bound => cases bound
  · next bound =>
      cases bound
      rcases bind_eq_ok_iff.mp read with ⟨⟨name, afterName⟩, _, read⟩
      dsimp only at read
      split at read
      · rcases bind_eq_ok_iff.mp read with ⟨⟨content, afterContent⟩, contentRead, read⟩
        have next := isDocument_put before name (reads.value contentRead)
        dsimp only at read
        split at read
        · cases read
          exact next
        · exact reads.entries read next
        · cases read
      · cases read
  · cases read

theorem succ : ReadsTrees (depth + 1) where
  value := reads.value_succ
  items := reads.items_succ
  entries := reads.entries_succ

end ReadsTrees

theorem readsTrees (depth : Nat) : ReadsTrees depth := by
  induction depth with
  | zero => exact readsTrees_zero
  | succ depth ih => exact ih.succ

/-- What is read is a tree of lists and mappings with distinct texts as keys. -/
theorem isTree_of_read {limits : Limits} {text : String} {document : Value}
    (read : Json.read limits text = .ok document) : IsDocument document := by
  rw [Json.read] at read
  rcases bind_eq_ok_iff.mp read with ⟨⟨found, rest⟩, foundRead, read⟩
  have holds := (readsTrees _).value foundRead
  dsimp only at read
  split at read
  · cases read
    exact holds
  · cases read

end TargetFeatures.Json
