import TargetFeatures.Text.Width

/-!
# Text on a terminal

A terminal would act on some control characters in place of showing them, so these are left out
of a line before it is printed, and tabs are filled up to the next stop with blanks, where a
column is a cell of the terminal. A line that goes into a record instead keeps all its characters,
but what looks like a style tag in it is escaped.

What a console makes of the style tags in a line, and which lines it refuses because of them, is
left to the console.
-/

namespace TargetFeatures.Text

/-- Whether a terminal would act on a character: bell, backspace, vertical tab, form feed and
carriage return. -/
def isControlCode (character : Char) : Bool :=
  ['\x07', '\x08', '\x0b', '\x0c', '\x0d'].contains character

/-- The distance between two tab stops. -/
def tabWidth : Nat := 8

/-- Fills tabs with blanks. The characters stand after those in `part`, the last of them first,
which start in a column and hold no tab. A tab counts as one blank and as many more as are missing
to the next stop. -/
def expandTabs (column : Nat) (part : List Char) : List Char → List Char
  | [] => part.reverse
  | '\n' :: rest => part.reverse ++ '\n' :: expandTabs 0 [] rest
  | '\t' :: rest =>
    let after := column + textWidth (part.reverse ++ [' '])
    let missing := (tabWidth - after % tabWidth) % tabWidth
    part.reverse ++ List.replicate (missing + 1) ' ' ++ expandTabs (after + missing) [] rest
  | character :: rest => expandTabs column (character :: part) rest

/-- A text as a terminal shows it. -/
def onTerminal (text : String) : String :=
  String.ofList (expandTabs 0 [] (text.toList.filter (!isControlCode ·)))

/-- Whether a style tag may start with a character. -/
def startsTag (character : Char) : Bool :=
  ('a' ≤ character && character ≤ 'z') || ['#', '/', '@'].contains character

/-- Whether a style tag is closed before another bracket opens. -/
def closesTag : List Char → Bool
  | [] => false
  | ']' :: _ => true
  | '[' :: _ => false
  | _ :: rest => closesTag rest

/-- Whether a text starts with a style tag. -/
def isTag : List Char → Bool
  | '[' :: first :: rest => startsTag first && closesTag rest
  | _ => false

/-- Escapes style tags; `slashes` is the number of backslashes just before the text, which are
doubled in front of a tag. -/
def escapeTagsFrom (slashes : Nat) : List Char → List Char
  | [] => if slashes = 1 then ['\\'] else []
  | '\\' :: rest => '\\' :: escapeTagsFrom (slashes + 1) rest
  | character :: rest =>
    let added := if isTag (character :: rest) then slashes + 1 else 0
    List.replicate added '\\' ++ character :: escapeTagsFrom 0 rest

/-- A text with its style tags escaped. -/
def escapeTags (text : String) : String := String.ofList (escapeTagsFrom 0 text.toList)

end TargetFeatures.Text

namespace TargetFeatures

/-- What a console prints for a text, if it prints it at all: it prints no text in which a style tag
closes what was never opened, and none with a character that has no octets. -/
abbrev Console := String → Option String

/-- The console that prints every text as it stands. -/
def Console.plain : Console := fun text => some (Text.onTerminal text)

end TargetFeatures
