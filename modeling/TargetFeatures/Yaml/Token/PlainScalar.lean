import TargetFeatures.Yaml.Cursor

/-!
# Scalars without quotes

A plain scalar ends at a comment, at a colon that is followed by a gap, at a line that is
indented less than its block, and in flow context at the brackets and commas around it. A line
end inside it becomes one space, and further empty lines become line feeds.
-/

namespace TargetFeatures.Yaml.PlainScalar

/-- Whether a colon before the given text ends a plain scalar. -/
def colonEnds (inFlow : Bool) (after : List Char) : Bool :=
  startsGap after || (inFlow && after.head?.any (",[]\x7b\x7d".toList.contains ·))

/-- The characters up to the next gap or the end of the scalar. -/
def word (inFlow : Bool) : List Char → List Char
  | [] => []
  | character :: rest =>
    if isGap character || (character == ':' && colonEnds inFlow rest) ||
        (inFlow && ",?[]\x7b\x7d".toList.contains character) then []
    else character :: word inFlow rest

/-- Line feeds for the empty lines here; `none` when a document separator follows one. The first
argument bounds the number of steps. -/
def emptyLines : Nat → Cursor → Option (List Char) × Cursor
  | 0, cursor => (some [], cursor)
  | depth + 1, cursor =>
    if cursor.rest.head? == some ' ' then emptyLines depth cursor.next
    else
      match cursor.takeBreak? with
      | some (value, after) =>
        if after.atSeparator then (none, after)
        else
          let (more, after) := emptyLines depth after
          (more.map (value :: ·), after)
      | none => (some [], cursor)

/-- What stands between two words. -/
structure Gap where
  /-- The characters that the gap stands for, none when the scalar ends here. -/
  text : List Char
  /-- Whether the gap contains a line end. -/
  broken : Bool
  after : Cursor

/-- The gap at a cursor. -/
def gap (cursor : Cursor) : Gap :=
  let (run, after) := cursor.span (· == ' ')
  match after.takeBreak? with
  | none => ⟨run, false, after⟩
  | some (value, after) =>
    if after.atSeparator then ⟨[], true, after⟩
    else
      let (more, after) := emptyLines (after.left + 1) after
      match more with
      | none => ⟨[], true, after⟩
      | some lines =>
        if value != '\n' then ⟨value :: lines, true, after⟩
        else if lines.isEmpty then ⟨[' '], true, after⟩
        else ⟨lines, true, after⟩

/-- A plain scalar as it was read. -/
structure Reading where
  text : List Char
  /-- Whether the reading ended after a line end. -/
  broken : Bool
  after : Cursor

/-- The words of a plain scalar. The first argument bounds their number. -/
def words (inFlow : Bool) (indent : Int) : Nat → Cursor → Reading
  | 0, cursor => ⟨[], false, cursor⟩
  | depth + 1, cursor =>
    let run := if cursor.rest.head? == some '#' then [] else word inFlow cursor.rest
    let gap := gap (cursor.advance run.length)
    if gap.text.isEmpty || gap.after.rest.head? == some '#' ||
        (!inFlow && (gap.after.column : Int) < indent) then
      ⟨run, gap.broken, gap.after⟩
    else if word inFlow gap.after.rest == [] then ⟨run, gap.broken, gap.after⟩
    else
      let next := words inFlow indent depth gap.after
      ⟨run ++ gap.text ++ next.text, next.broken, next.after⟩

/-- The plain scalar at a cursor, inside a block with the given indentation. -/
def read (inFlow : Bool) (indent : Int) (cursor : Cursor) : Reading :=
  words inFlow (indent + 1) (cursor.left + 1) cursor

end TargetFeatures.Yaml.PlainScalar
