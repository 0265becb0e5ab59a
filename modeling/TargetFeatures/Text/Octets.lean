import TargetFeatures.Text.Quoted

/-!
# Texts as octets

Files are known to the system by octets rather than characters. A text becomes octets by UTF-8,
where some halves of surrogate pairs stand for single octets that are no part of a character. The
other halves are stray: a text with one of them has no octets.
-/

namespace TargetFeatures.Text

/-- Whether a character is half of a surrogate pair that stands for no octet. -/
def isStray (character : Char) : Bool :=
  (half? character).any fun half => half < 0xDC80 || 0xDCFF < half

/-- Number of octets of a text without stray halves. -/
def octetCount (text : String) : Nat :=
  text.toList.foldl
    (fun count character => count + if isHalf character then 1 else character.utf8Size) 0

/-- Halves in a row of which the first one is stray, at their place in a text. -/
structure StrayHalves where
  place : Nat
  first : Char
  /-- Number of halves that follow the first one. -/
  following : Nat
  deriving DecidableEq, Repr

/-- The first stray half in characters that start at a place, and the halves that follow it. -/
def strayHalves? (place : Nat) : List Char → Option StrayHalves
  | [] => none
  | character :: rest =>
    if isStray character then some ⟨place, character, (rest.takeWhile isHalf).length⟩
    else strayHalves? (place + 1) rest

/-- Message for stray halves. -/
def StrayHalves.message (found : StrayHalves) : String :=
  let place (value : Nat) : String := String.ofList (Nat.toDigits 10 value)
  "'utf-8' codec can't encode " ++
    (if found.following = 0 then
      "character " ++ quoted found.first.toString ++ " in position " ++ place found.place
    else
      "characters in position " ++ place found.place ++ "-" ++
        place (found.place + found.following)) ++
    ": surrogates not allowed"

end TargetFeatures.Text
