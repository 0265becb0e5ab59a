import TargetFeatures.Data.Value
import TargetFeatures.Yaml.ScalarStyle

/-!
# Writing a document as indented blocks

`Yaml.write` writes one entry of a mapping or item of a sequence a line. The items of a sequence
stand in the column of the key before it. A text longer than eighty columns continues on the next
line at one of its spaces.

A `Page` is what has been written so far. Besides the text it keeps the column, whether the last
character was blank, and whether the line holds nothing but indentation and dashes: that is all
the layout depends on.
-/

namespace TargetFeatures.Yaml

/-- What has been written so far. -/
structure Page where
  /-- The characters, the last one first. -/
  written : List Char
  column : Nat
  /-- Whether a token may follow without a space. -/
  blank : Bool
  /-- Whether the line holds only indentation and indicators of collections. -/
  indenting : Bool

namespace Page

/-- The page with nothing on it. -/
def start : Page := ⟨[], 0, true, true⟩

/-- Number of columns after which a line may be continued on the next one. -/
def width : Nat := 80

/-- Adds characters on the same line. -/
def put (page : Page) (characters : List Char) : Page :=
  { page with
    written := characters.reverseAux page.written, column := page.column + characters.length }

/-- Ends the line with the given character. -/
def endLine (page : Page) (character : Char) : Page :=
  ⟨character :: page.written, 0, true, true⟩

/-- Moves to a column, on the next line when the present one is in use. -/
def indentTo (page : Page) (indent : Nat) : Page :=
  let page :=
    if !page.indenting || page.column > indent || (page.column == indent && !page.blank) then
      page.endLine '\n'
    else page
  if page.column < indent then
    { page.put (List.replicate (indent - page.column) ' ') with blank := true }
  else page

/-- Adds an indicator; `spaced` asks for a space before it, and the two flags say whether it
counts as blank and as part of the indentation. -/
def indicator (page : Page) (character : Char) (spaced blank indenting : Bool) : Page :=
  let page := page.put (if page.blank || !spaced then [character] else [' ', character])
  { page with blank, indenting := page.indenting && indenting }

/-- Adds a plain text after a space. -/
def openPlain (page : Page) : Page :=
  { (if page.blank then page else page.put [' ']) with blank := false, indenting := false }

/-- Groups neighbours that have the same value under a function. -/
def runs (kind : Char → Nat) : List Char → List (List Char)
  | [] => []
  | character :: rest =>
    match runs kind rest with
    | (next :: more) :: others =>
      if kind character = kind next then (character :: next :: more) :: others
      else [character] :: (next :: more) :: others
    | others => [character] :: others

/-- A plain text; a single space beyond the width becomes a line end when `split` allows it. -/
def plain (page : Page) (indent : Nat) (split : Bool) (characters : List Char) : Page :=
  (runs (fun character => if character == ' ' then 0 else 1) characters).foldl
    (fun page run =>
      if run == [' '] && page.column > width && split then
        { page.indentTo indent with blank := false, indenting := false }
      else page.put run)
    page.openPlain

/-- The line ends inside an apostrophised text: one more than the text has, so that the first is
not taken for a space. -/
def lineEnds (page : Page) (indent : Nat) (run : List Char) : Page :=
  let page := if run.head? == some '\n' then page.endLine '\n' else page
  (run.foldl endLine page).indentTo indent

/-- The runs of an apostrophised text. `first` says whether the first of them starts the text. -/
def singleRuns (indent : Nat) (split : Bool) : Bool → List (List Char) → Page → Page
  | _, [], page => page
  | first, run :: rest, page =>
    let page :=
      match run.head? with
      | some ' ' =>
        if run == [' '] && page.column > width && split && !first && !rest.isEmpty then
          page.indentTo indent
        else page.put run
      | some '\'' => page.put (run ++ run)
      | some character => if isBreak character then page.lineEnds indent run else page.put run
      | none => page
    singleRuns indent split false rest page

/-- A text between apostrophes. -/
def single (page : Page) (indent : Nat) (split : Bool) (characters : List Char) : Page :=
  let kind (character : Char) : Nat :=
    if character == ' ' then 0 else if isBreak character then 1
    else if character == '\'' then 2 else 3
  let page := page.indicator '\'' true false false
  let page := singleRuns indent split true (runs kind characters) page
  page.indicator '\'' false false false

/-- Letters that stand for a character after a backslash. -/
def escapeLetters : List (Char × Char) :=
  [('\x00', '0'), ('\x07', 'a'), ('\x08', 'b'), ('\t', 't'), ('\n', 'n'), ('\x0b', 'v'),
   ('\x0c', 'f'), ('\r', 'r'), ('\x1b', 'e'), ('"', '"'), ('\\', '\\'), ('\x85', 'N'),
   ('\xa0', '_'), ('\u2028', 'L'), ('\u2029', 'P')]

/-- Upper case hexadecimal digits, padded to a width. -/
def hexadecimal (width code : Nat) : List Char :=
  let digits := (Nat.toDigits 16 code).map Char.toUpper
  List.replicate (width - digits.length) '0' ++ digits

/-- Whether a character may stand for itself between quotation marks. -/
def isLiteral (character : Char) : Bool :=
  let code := character.toNat
  !("\"\\\x85\u2028\u2029\uFEFF".contains character) &&
    ((0x20 ≤ code && code ≤ 0x7E) || (0xA0 ≤ code && code ≤ 0xD7FF) ||
      (0xE000 ≤ code && code ≤ 0xFFFD))

/-- The escape of a character. -/
def escape (character : Char) : List Char :=
  match escapeLetters.lookup character with
  | some letter => ['\\', letter]
  | none =>
    let code := (Text.half? character).getD character.toNat
    if code ≤ 0xFF then '\\' :: 'x' :: hexadecimal 2 code
    else if code ≤ 0xFFFF then '\\' :: 'u' :: hexadecimal 4 code
    else '\\' :: 'U' :: hexadecimal 8 code

/-- Continues a text between quotation marks on the next line; a space that comes first there is
escaped. -/
def continueLine (page : Page) (indent : Nat) (next : Option Char) : Page :=
  let page := { (page.put ['\\']).indentTo indent with blank := false, indenting := false }
  if next == some ' ' then page.put ['\\'] else page

/-- The rest of a text between quotation marks. `index` counts the characters before it, and
`pending` holds, last first, those of them that are not yet on the page. -/
def doubleRest (indent : Nat) (split : Bool) : Nat → List Char → List Char → Page → Page
  | _, pending, [], page => page.put pending.reverse
  | index, pending, character :: rest, page =>
    let literal := isLiteral character
    let page := if literal then page else (page.put pending.reverse).put (escape character)
    let pending := if literal then pending else []
    let length := page.column + pending.length
    let tooLong := if literal then length > width else length > width + 1
    if 0 < index && !rest.isEmpty && (!literal || character == ' ' || pending.isEmpty) &&
        tooLong && split then
      if literal then
        doubleRest indent split (index + 1) [character] rest
          ((page.put pending.reverse).continueLine indent (some character))
      else
        doubleRest indent split (index + 1) [] rest (page.continueLine indent rest.head?)
    else
      doubleRest indent split (index + 1) (if literal then character :: pending else []) rest page

/-- A text between quotation marks. -/
def double (page : Page) (indent : Nat) (split : Bool) (characters : List Char) : Page :=
  let page := page.indicator '"' true false false
  (doubleRest indent split 0 [] characters page).indicator '"' false false false

/-- A text in the style that suits it. -/
def text (page : Page) (indent : Nat) (asKey : Bool) (characters : List Char) : Page :=
  match ScalarStyle.ofText asKey characters with
  | .plain => page.plain indent (!asKey) characters
  | .single => page.single indent (!asKey) characters
  | .double => page.double indent (!asKey) characters

/-- A leaf of a document. -/
def scalar (page : Page) (indent : Nat) (asKey : Bool) : Scalar → Page
  | .text value => page.text indent asKey value.toList
  | .null => page.plain indent (!asKey) "null".toList
  | .bool value => page.plain indent (!asKey) (if value then "true" else "false").toList
  | leaf => page.plain indent (!asKey) leaf.display.toList

/-- A key up to its colon. -/
def key (page : Page) (indent : Nat) (leaf : Scalar) : Page :=
  let characters := match leaf with
    | .text value => value.toList
    | other => other.display.toList
  let page := page.indentTo indent
  if ScalarStyle.isSimpleKey characters then
    (page.scalar (indent + 2) true leaf).indicator ':' false false false
  else
    let page := (page.indicator '?' true false true).scalar (indent + 2) false leaf
    (page.indentTo indent).indicator ':' true false true

mutual

/-- A document inside a collection at an indentation. `inMapping` says whether it is the value of
a key. -/
def value (indent : Nat) (inMapping : Bool) : Value → Page → Page
  | .scalar leaf, page => page.scalar (indent + 2) false leaf
  | .list [], page => (page.indicator '[' true true false).indicator ']' false false false
  | .tuple [], page => (page.indicator '[' true true false).indicator ']' false false false
  | .list content, page => items (if inMapping && !page.indenting then indent else indent + 2)
      content page
  | .tuple content, page => items (if inMapping && !page.indenting then indent else indent + 2)
      content page
  | .map [], page => (page.indicator '\x7b' true true false).indicator '\x7d' false false false
  | .map content, page => entries (indent + 2) content page
  | .set members, page =>
    members.foldl (fun page member => (page.key (indent + 2) member).plain (indent + 4) true
      "null".toList) page
  | .recurrence _, page => page.scalar (indent + 2) false .null

/-- Items of a sequence, each after a dash in the given column. -/
def items (indent : Nat) : List Value → Page → Page
  | [], page => page
  | item :: rest, page =>
    items indent rest
      (value indent false item ((page.indentTo indent).indicator '-' true false true))

/-- Entries of a mapping, each key in the given column. -/
def entries (indent : Nat) : List (Scalar × Value) → Page → Page
  | [], page => page
  | (name, content) :: rest, page =>
    entries indent rest (value indent true content (page.key indent name))

end

/-- The text on a page. -/
def toText (page : Page) : String := String.ofList page.written.reverse

end Page

/-- The text of a mapping in block style. -/
def write (content : List (Scalar × Value)) : String :=
  let page := match content with
    | [] => (Page.start.indicator '\x7b' true true false).indicator '\x7d' false false false
    | content => Page.entries 0 content Page.start
  (page.indentTo 0).toText

end TargetFeatures.Yaml
