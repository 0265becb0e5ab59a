import TargetFeatures.Text.Surrogate
import TargetFeatures.Yaml.Cursor
import TargetFeatures.Yaml.Tag

/-!
# How a text can be written

A text is written plain when it would be read back as itself and nothing in it could be taken for
structure; else between apostrophes, unless it needs escapes; else between quotation marks. A key
that stands on the line of its value must not be split over lines.
-/

namespace TargetFeatures.Yaml

/-- The ways to write a scalar. -/
inductive ScalarStyle where
  | plain
  | single
  | double
  deriving DecidableEq, Repr

namespace ScalarStyle

/-- Whether a character can only be written as an escape. -/
def needsEscape (character : Char) : Bool :=
  let code := character.toNat
  !(character == '\n' || (0x20 ≤ code && code ≤ 0x7E) ||
    ((code == 0x85 || (0xA0 ≤ code && code ≤ 0xD7FF) || (0xE000 ≤ code && code ≤ 0xFFFD) ||
      (0x10000 ≤ code && code < 0x10FFFF)) && code != 0xFEFF)) ||
    (Text.half? character).isSome

/-- Whether a text starts with a character that opens another kind of node. -/
def startsIndicator : List Char → Bool
  | [] => false
  | character :: rest =>
    "#,[]\x7b\x7d&*!|>'\"%@`".contains character ||
      ("?:-".contains character && startsGap rest)

/-- Whether a text contains a colon before a gap or a number sign after one; the flag says whether
a gap stands before the text. -/
def containsIndicator (afterGap : Bool) : List Char → Bool
  | [] => false
  | character :: rest =>
    (character == ':' && startsGap rest) || (character == '#' && afterGap) ||
      containsIndicator (isGap character || character == '\x00') rest

/-- Whether a text starts like a document separator. -/
def startsSeparator : List Char → Bool
  | '-' :: '-' :: '-' :: _ => true
  | '.' :: '.' :: '.' :: _ => true
  | _ => false

/-- Whether a space follows a line end somewhere in a text. -/
def hasBreakSpace : List Char → Bool
  | first :: second :: rest =>
    (isBreak first && second == ' ') || hasBreakSpace (second :: rest)
  | _ => false

/-- Whether a line end follows a space somewhere in a text. -/
def hasSpaceBreak : List Char → Bool
  | first :: second :: rest =>
    (first == ' ' && isBreak second) || hasSpaceBreak (second :: rest)
  | _ => false

/-- Whether a text starts or ends with a space. -/
def hasOuterSpace (characters : List Char) : Bool :=
  characters.head? == some ' ' || characters.getLast? == some ' '

/-- Whether a text may be written plain. -/
def allowsPlain (characters : List Char) : Bool :=
  Tag.ofPlain (String.ofList characters) == .text && !characters.any isBreak &&
    !characters.any needsEscape && !hasOuterSpace characters && !startsSeparator characters &&
    !startsIndicator characters && !containsIndicator true characters

/-- Whether a text may be written between apostrophes. -/
def allowsSingle (characters : List Char) : Bool :=
  !characters.any needsEscape && !hasBreakSpace characters && !hasSpaceBreak characters

/-- The style of a text. -/
def ofText (asKey : Bool) (characters : List Char) : ScalarStyle :=
  if allowsPlain characters then .plain
  else if allowsSingle characters && !(asKey && characters.any isBreak) then .single
  else .double

/-- Whether a text may be a key on the line of its value. The limit on the length includes a tag
of five characters. -/
def isSimpleKey (characters : List Char) : Bool :=
  !characters.isEmpty && !characters.any isBreak && 5 + characters.length < 128

end ScalarStyle

end TargetFeatures.Yaml
