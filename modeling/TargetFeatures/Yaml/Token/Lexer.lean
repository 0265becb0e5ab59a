import TargetFeatures.Yaml.Token.BlockScalar
import TargetFeatures.Yaml.Token.PlainScalar
import TargetFeatures.Yaml.Token.QuotedScalar

/-!
# From a text to its tokens

The lexer makes block structure explicit. It keeps the columns of the open blocks and closes
those that are indented more than the next token. A key is recognised only at the colon after it,
so the place where it started is remembered, one for each nesting of brackets, and the tokens
that announce it are inserted there. A remembered place is given up at the end of its line and
after 1024 characters; giving up one that had to be a key is an error.

Tokens are handed on as soon as nothing can be inserted before them any more, and the text is
checked for characters that may not occur in it block by block, as far as it is read. When
reading stops at a number that is no character, what was handed on before therefore still counts,
and so do bad characters in the blocks up to that place.
-/

namespace TargetFeatures.Yaml

/-- A place at which a key may have started. -/
structure PossibleKey where
  /-- Nesting of brackets at that place. -/
  nesting : Nat
  /-- Number of tokens before the key. -/
  position : Nat
  /-- Whether the place cannot be anything but a key. -/
  required : Bool
  index : Nat
  line : Nat
  column : Nat
  deriving Repr

/-- The tokens read so far and what is needed to read on. -/
structure Lexer where
  cursor : Cursor
  /-- The tokens, the last one first. -/
  tokens : List Token
  /-- Number of tokens. -/
  count : Nat
  /-- Columns of the open blocks, the innermost first. -/
  blocks : List Nat
  /-- Number of open brackets. -/
  nesting : Nat
  /-- Whether a key may start at the next token. -/
  keyAllowed : Bool
  possibleKeys : List PossibleKey

namespace Lexer

/-- The lexer at the start of a text. -/
def start (characters : List Char) : Lexer :=
  ⟨Cursor.start characters, [], 0, [], 0, true, []⟩

/-- Column of the innermost block, minus one outside all blocks. -/
def indent (lexer : Lexer) : Int :=
  match lexer.blocks with
  | [] => -1
  | column :: _ => column

/-- Whether the next token stands between brackets. -/
def inFlow (lexer : Lexer) : Bool := lexer.nesting != 0

/-- Adds a token. -/
def push (lexer : Lexer) (token : Token) : Lexer :=
  { lexer with tokens := token :: lexer.tokens, count := lexer.count + 1 }

/-- Inserts a token behind the given number of tokens. -/
def insert (lexer : Lexer) (position : Nat) (token : Token) : Lexer :=
  let (later, earlier) := lexer.tokens.splitAt (lexer.count - position)
  { lexer with tokens := later ++ token :: earlier, count := lexer.count + 1 }

/-- Adds a token and moves on by the given number of characters. -/
def take (lexer : Lexer) (token : Token) (length : Nat) : Lexer :=
  { lexer.push token with cursor := lexer.cursor.advance length }

/-- Closes the blocks that are indented more than the given column. -/
def closeBlocks (column : Nat) : List Nat → Lexer → Lexer
  | [], lexer => { lexer with blocks := [] }
  | block :: rest, lexer =>
    if block > column then closeBlocks column rest (lexer.push .blockEnd)
    else { lexer with blocks := block :: rest }

/-- Closes the blocks that are indented more than the next token. -/
def unwind (lexer : Lexer) : Lexer :=
  if lexer.inFlow then lexer else closeBlocks lexer.cursor.column lexer.blocks lexer

/-- Closes all blocks. -/
def unwindAll (lexer : Lexer) : Lexer :=
  if lexer.inFlow then lexer
  else { lexer.blocks.foldl (fun lexer _ => lexer.push .blockEnd) lexer with blocks := [] }

/-- Opens a block at a column when it is indented more than the innermost one; the flag says
whether it was opened. -/
def openBlock (lexer : Lexer) (column : Nat) : Bool × Lexer :=
  if lexer.indent < column then (true, { lexer with blocks := column :: lexer.blocks })
  else (false, lexer)

/-- Forgets the possible key at the present nesting. -/
def dropKey (lexer : Lexer) : Except Error Lexer :=
  let (here, others) := lexer.possibleKeys.partition (·.nesting == lexer.nesting)
  if here.any (·.required) then throw .malformed
  else return { lexer with possibleKeys := others }

/-- Whether a possible key is too far away. -/
def isStale (lexer : Lexer) (key : PossibleKey) : Bool :=
  key.line != lexer.cursor.line || lexer.cursor.index - key.index > 1024

/-- Forgets the possible keys that are too far away. -/
def dropStaleKeys (lexer : Lexer) : Except Error Lexer :=
  let (stale, fresh) := lexer.possibleKeys.partition lexer.isStale
  if stale.any (·.required) then throw .malformed
  else return { lexer with possibleKeys := fresh }

/-- Remembers that a key may start here, and that none may start at the token after it. -/
def markKey (lexer : Lexer) : Except Error Lexer := do
  if lexer.keyAllowed then
    let required := !lexer.inFlow && lexer.indent == (lexer.cursor.column : Int)
    let lexer ← lexer.dropKey
    let key : PossibleKey :=
      ⟨lexer.nesting, lexer.count, required, lexer.cursor.index, lexer.cursor.line,
        lexer.cursor.column⟩
    return { lexer with possibleKeys := key :: lexer.possibleKeys, keyAllowed := false }
  else return lexer

/-- Skips the spaces, comments and line ends before the next token. The second argument bounds
the number of lines. -/
def skipGap (lexer : Lexer) : Nat → Lexer
  | 0 => lexer
  | depth + 1 =>
    let after := lexer.cursor.skipSpaces.skipComment
    match after.takeBreak? with
    | some (_, after) =>
      skipGap { lexer with cursor := after, keyAllowed := lexer.keyAllowed || !lexer.inFlow } depth
    | none => { lexer with cursor := after }

/-- A byte order mark at the very start is no part of the text. -/
def skipMark (lexer : Lexer) : Lexer :=
  if lexer.cursor.index == 0 && lexer.cursor.rest.head? == some '\uFEFF' then
    { lexer with cursor := lexer.cursor.next }
  else lexer

/-- Ends the blocks of a document before a token that stands outside it. -/
def leaveDocument (lexer : Lexer) : Except Error Lexer := do
  let lexer ← lexer.unwindAll.dropKey
  return { lexer with keyAllowed := false }

/-- An opening bracket. -/
def openBracket (lexer : Lexer) (token : Token) : Except Error Lexer := do
  let lexer ← lexer.markKey
  return { lexer.take token 1 with nesting := lexer.nesting + 1, keyAllowed := true }

/-- A closing bracket, which needs an open one. -/
def closeBracket (lexer : Lexer) (token : Token) : Except Error Lexer := do
  let lexer ← lexer.dropKey
  if lexer.nesting == 0 then throw .malformed
  return { lexer.take token 1 with nesting := lexer.nesting - 1, keyAllowed := false }

/-- A comma between brackets. -/
def flowEntry (lexer : Lexer) : Except Error Lexer := do
  let lexer ← lexer.dropKey
  return { lexer.take .flowEntry 1 with keyAllowed := true }

/-- A dash before an item. -/
def blockEntry (lexer : Lexer) : Except Error Lexer := do
  let lexer ←
    if lexer.inFlow then pure lexer
    else if !lexer.keyAllowed then throw .malformed
    else
      let (opened, lexer) := lexer.openBlock lexer.cursor.column
      pure (if opened then lexer.push .blockSequenceStart else lexer)
  let lexer ← lexer.dropKey
  return { lexer.take .blockEntry 1 with keyAllowed := true }

/-- A question mark before a key. -/
def explicitKey (lexer : Lexer) : Except Error Lexer := do
  let lexer ←
    if lexer.inFlow then pure lexer
    else if !lexer.keyAllowed then throw .malformed
    else
      let (opened, lexer) := lexer.openBlock lexer.cursor.column
      pure (if opened then lexer.push .blockMappingStart else lexer)
  let lexer ← lexer.dropKey
  return { lexer.take .key 1 with keyAllowed := !lexer.inFlow }

/-- A colon before a value: when a key may have started before it, that key is announced. -/
def valueMark (lexer : Lexer) : Except Error Lexer := do
  match lexer.possibleKeys.find? (·.nesting == lexer.nesting) with
  | some key =>
    let remaining := lexer.possibleKeys.filter (·.nesting != lexer.nesting)
    let lexer := { lexer.insert key.position .key with
      possibleKeys := remaining, keyAllowed := false }
    let lexer :=
      if lexer.inFlow then lexer
      else
        let (opened, lexer) := lexer.openBlock key.column
        if opened then lexer.insert key.position .blockMappingStart else lexer
    return lexer.take .value 1
  | none =>
    let lexer ←
      if lexer.inFlow then pure lexer
      else if !lexer.keyAllowed then throw .malformed
      else
        let (opened, lexer) := lexer.openBlock lexer.cursor.column
        pure (if opened then lexer.push .blockMappingStart else lexer)
    let lexer ← lexer.dropKey
    return { lexer.take .value 1 with keyAllowed := !lexer.inFlow }

/-- Adds a token that may be a key or the start of one. -/
def keyToken (lexer : Lexer) (read : Cursor → Except Error (Token × Cursor)) :
    Except Error Lexer := do
  let lexer ← lexer.markKey
  let (token, after) ← read lexer.cursor
  return { lexer.push token with cursor := after, keyAllowed := false }

/-- A scalar between quotes. -/
def quotedScalar (lexer : Lexer) (double : Bool) : Except Error Lexer :=
  lexer.keyToken fun cursor => do
    let (text, after) ← QuotedScalar.read double cursor
    return (.scalar text false, after)

/-- A scalar as an indented block. -/
def blockScalar (lexer : Lexer) (folded : Bool) : Except Error Lexer := do
  let lexer ← lexer.dropKey
  let (text, after) ← BlockScalar.read folded lexer.indent lexer.cursor
  return { lexer.push (.scalar text false) with cursor := after, keyAllowed := true }

/-- A scalar without quotes. -/
def plainScalar (lexer : Lexer) : Except Error Lexer := do
  let lexer ← lexer.markKey
  let reading := PlainScalar.read lexer.inFlow lexer.indent lexer.cursor
  return { lexer.push (.scalar (String.ofList reading.text) true) with
    cursor := reading.after, keyAllowed := reading.broken }

/-- Whether a plain scalar may start with the given character before the given text. -/
def startsPlain (inFlow : Bool) (character : Char) (rest : List Char) : Bool :=
  !(isGap character || "-?:,[]\x7b\x7d#&*!|>'\"%@`".toList.contains character) ||
    (!startsGap rest && (character == '-' || (!inFlow && "?:".toList.contains character)))

/-- A line of three dashes or three points. -/
def separator (lexer : Lexer) (token : Token) : Except Error Lexer := do
  let lexer ← lexer.leaveDocument
  return lexer.take token 3

/-- Reads the token that starts with the given character. -/
def token (lexer : Lexer) (character : Char) (rest : List Char) : Except Error Lexer :=
  let atMargin := lexer.cursor.column == 0
  if atMargin && character == '%' then do
    let lexer ← lexer.leaveDocument
    let (token, after) ← Token.directiveAt lexer.cursor
    return { lexer.push token with cursor := after }
  else if atMargin && character == '-' && lexer.cursor.atSeparator then
    lexer.separator .documentStart
  else if atMargin && character == '.' && lexer.cursor.atSeparator then
    lexer.separator .documentEnd
  else if character == '[' then lexer.openBracket .flowSequenceStart
  else if character == '\x7b' then lexer.openBracket .flowMappingStart
  else if character == ']' then lexer.closeBracket .flowSequenceEnd
  else if character == '\x7d' then lexer.closeBracket .flowMappingEnd
  else if character == ',' then lexer.flowEntry
  else if character == '-' && startsGap rest then lexer.blockEntry
  else if character == '?' && (lexer.inFlow || startsGap rest) then lexer.explicitKey
  else if character == ':' && (lexer.inFlow || startsGap rest) then lexer.valueMark
  else if character == '*' then
    lexer.keyToken fun cursor => do
      let (name, after) ← Token.anchorName cursor.next
      return (.alias name, after)
  else if character == '&' then
    lexer.keyToken fun cursor => do
      let (name, after) ← Token.anchorName cursor.next
      return (.anchor name, after)
  else if character == '!' then lexer.keyToken Token.tagAt
  else if character == '|' && !lexer.inFlow then lexer.blockScalar false
  else if character == '>' && !lexer.inFlow then lexer.blockScalar true
  else if character == '\'' then lexer.quotedScalar false
  else if character == '"' then lexer.quotedScalar true
  else if startsPlain lexer.inFlow character rest then lexer.plainScalar
  else throw .malformed

/-- Reads one token; the flag says whether the text is at its end instead. -/
def step (lexer : Lexer) : Except Error (Bool × Lexer) := do
  let lexer := lexer.skipMark.skipGap (lexer.cursor.left + 1)
  let lexer ← lexer.dropStaleKeys
  let lexer := lexer.unwind
  match lexer.cursor.rest with
  | [] => return (true, ← lexer.leaveDocument)
  | character :: rest => return (false, ← lexer.token character rest)

/-- Reads tokens up to the end of the text, or up to a failure. Every step but the last takes at
least one character, so the number of characters, which the first argument exceeds, bounds the
number of steps. -/
def run : Nat → Lexer → Option Error × Lexer
  | 0, lexer => (some .malformed, lexer)
  | depth + 1, lexer =>
    match lexer.step with
    | .error error => (some error, lexer)
    | .ok (true, lexer) => (none, lexer)
    | .ok (false, lexer) => run depth lexer

/-- Number of tokens before which nothing can be inserted any more. -/
def settled (lexer : Lexer) : Nat :=
  (lexer.possibleKeys.filter (!lexer.isStale ·)).foldl (fun count key => min count key.position)
    lexer.count

end Lexer

/-- Whether a character may occur in a markup text. -/
def isAllowed (character : Char) : Bool :=
  let code := character.toNat
  code == 9 || code == 10 || code == 13 || (0x20 ≤ code && code ≤ 0x7E) || code == 0x85 ||
    (0xA0 ≤ code && code ≤ 0xD7FF) || (0xE000 ≤ code && code ≤ 0xFFFD) || 0x10000 ≤ code

/-- Number of characters in a block of the text; the first block is twice as long. -/
def blockLength : Nat := 4096

/-- Number of characters that are looked at to have the given number of them, in whole blocks. -/
def lookedAt (count : Nat) : Nat :=
  blockLength * max 2 ((count + blockLength - 1) / blockLength)

/-- The tokens of a text. -/
def tokens (characters : List Char) : Except Error (List Token) :=
  let (failure, lexer) := Lexer.run (characters.length + 2) (Lexer.start characters)
  match failure with
  | none => if characters.all isAllowed then .ok lexer.tokens.reverse else .error .malformed
  | some (.characterNumber number place) =>
    if (characters.take (lookedAt (place + 8))).all isAllowed then
      .ok (lexer.tokens.reverse.take lexer.settled ++ [.failure (.characterNumber number place)])
    else .error .malformed
  | some error => .error error

end TargetFeatures.Yaml
