import TargetFeatures.Yaml.Cursor
import TargetFeatures.Yaml.Error
import TargetFeatures.Yaml.Token
import TargetFeatures.Json.Reader

/-!
# Names, tags and directives

The tokens that are written as one word: anchors and aliases, tags, and the directives that stand
before a document. Each function reads at a cursor and returns what it read and the place after
it.
-/

namespace TargetFeatures.Yaml.Token

/-- Whether a character may occur in a name. -/
def isNameChar (character : Char) : Bool :=
  character.isAlphanum || character == '-' || character == '_'

/-- Whether a character may occur in the suffix of a tag. -/
def isTagChar (character : Char) : Bool :=
  character.isAlphanum || "-;/?:@&=+$,_.!~*'()[]%".contains character

/-- A name of at least one character. -/
def name (cursor : Cursor) : Except Error (String × Cursor) :=
  let (run, after) := cursor.span isNameChar
  if run.isEmpty then throw .malformed else return (String.ofList run, after)

/-- The name of an anchor or an alias, after its indicator. -/
def anchorName (cursor : Cursor) : Except Error (String × Cursor) := do
  let (text, after) ← name cursor
  if startsGap after.rest || after.rest.head?.all ("?:,]\x7d%@`".contains ·) then
    return (text, after)
  else throw .malformed

/-- The octets of a run of percent escapes, and the text after them. -/
def escapedOctets : List Char → Except Error (List UInt8 × List Char)
  | '%' :: high :: low :: rest => do
    match Json.hexDigit? high, Json.hexDigit? low with
    | some upper, some lower =>
      let (octets, after) ← escapedOctets rest
      return (UInt8.ofNat (16 * upper + lower) :: octets, after)
    | _, _ => throw .malformed
  | '%' :: _ => throw .malformed
  | rest => return ([], rest)

/-- Characters of a tag suffix: runs of escapes denote characters by their octets, all other
characters stand for themselves. The first argument bounds the number of runs. -/
def suffixChars : Nat → List Char → Except Error (List Char)
  | 0, _ => return []
  | _ + 1, [] => return []
  | depth + 1, '%' :: rest => do
    let (octets, after) ← escapedOctets ('%' :: rest)
    match String.fromUTF8? (ByteArray.mk octets.toArray) with
    | some decoded => return decoded.toList ++ (← suffixChars depth after)
    | none => throw .malformed
  | depth + 1, character :: rest => return character :: (← suffixChars depth rest)

/-- The suffix of a tag, which has at least one character. -/
def tagSuffix (cursor : Cursor) : Except Error (String × Cursor) := do
  let (run, after) := cursor.span isTagChar
  if run.isEmpty then throw .malformed
  let characters ← suffixChars (run.length + 1) run
  return (String.ofList characters, after)

/-- The handle of a tag: an exclamation mark, or a name between two of them. -/
def tagHandle (cursor : Cursor) : Except Error (String × Cursor) :=
  match cursor.rest with
  | '!' :: rest =>
    if rest.head? == some ' ' then return ("!", cursor.next)
    else
      let (run, after) := cursor.next.span isNameChar
      if after.rest.head? == some '!' then
        return (String.ofList ('!' :: run ++ ['!']), after.next)
      else throw .malformed
  | _ => throw .malformed

/-- A tag, from its exclamation mark on. -/
def tagAt (cursor : Cursor) : Except Error (Token × Cursor) := do
  let rest := cursor.rest.drop 1
  let (token, after) ←
    if rest.head? == some '<' then do
      let (suffix, after) ← tagSuffix (cursor.advance 2)
      if after.rest.head? == some '>' then pure (Token.tag none suffix, after.next)
      else throw .malformed
    else if startsGap rest then pure (Token.tag none "!", cursor.next)
    else do
      let word := rest.takeWhile fun character => !(character == ' ' || isBreak character)
      let (handle, after) ←
        if word.contains '!' then tagHandle cursor else pure ("!", cursor.next)
      let (suffix, after) ← tagSuffix after
      pure (Token.tag (some handle) suffix, after)
  if endsWord after.rest then return (token, after) else throw .malformed

/-- A number of a version. -/
def versionNumber (cursor : Cursor) : Except Error (Nat × Cursor) :=
  let (run, after) := cursor.span Char.isDigit
  if run.isEmpty then throw .malformed else return (Numeral.digitsValue run, after)

/-- What follows the name of a version directive. -/
def versionDirective (cursor : Cursor) : Except Error (Directive × Cursor) := do
  let (major, after) ← versionNumber cursor.skipSpaces
  if after.rest.head? != some '.' then throw .malformed
  let (minor, after) ← versionNumber after.next
  if endsWord after.rest then return (.version major minor, after) else throw .malformed

/-- What follows the name of a tag directive. -/
def tagDirective (cursor : Cursor) : Except Error (Directive × Cursor) := do
  let (handle, after) ← tagHandle cursor.skipSpaces
  if after.rest.head? != some ' ' then throw .malformed
  let (expansion, after) ← tagSuffix after.skipSpaces
  if endsWord after.rest then return (.tagHandle handle expansion, after) else throw .malformed

/-- The rest of a line that may hold nothing more than a comment. -/
def restOfLine (cursor : Cursor) : Except Error Cursor :=
  let after := cursor.skipSpaces.skipComment
  if endsLine after.rest then return after.next else throw .malformed

/-- A directive, from its percent sign on. -/
def directiveAt (cursor : Cursor) : Except Error (Token × Cursor) := do
  let (word, after) ← name cursor.next
  if !endsWord after.rest then throw .malformed
  let (content, after) ←
    if word == "YAML" then versionDirective after
    else if word == "TAG" then tagDirective after
    else pure (Directive.reserved, (after.span (!isBreak ·)).2)
  return (.directive content, ← restOfLine after)

end TargetFeatures.Yaml.Token
