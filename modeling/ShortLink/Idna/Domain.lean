import ShortLink.Idna.Canonical
import ShortLink.Idna.Class
import ShortLink.Idna.Mapping
import ShortLink.Idna.Punycode

/-!
# Domain names in ASCII

A domain name is compared in a form that is written in ASCII: its characters are mapped, it is
composed and split into labels, and labels with characters beyond ASCII are written with an `xn--`
in front. Labels that already come in that form have to be what the others would have become.

## Main definitions

- `Idna.joinersPlaced` — whether joiners stand only where they make a difference
- `Idna.directionsMixed?` — whether the labels of a name with right-to-left letters are well-formed
- `Idna.toAscii?` — the ASCII form of a domain name
-/

namespace ShortLink.Idna

open Text (fields)

/-- The non-joiner. -/
def nonJoiner : Char := '\u200c'

/-- The joiner. -/
def joiner : Char := '\u200d'

/-- The class of marks that suppress a vowel. -/
def virama : Nat := 9

/-- The first character of a text that joins at all, when it joins on the given side. -/
def joinsAcross (side : Joining) (text : List Char) : Bool :=
  match text.dropWhile fun c => joining c == .transparent with
  | c :: _ => joining c == side || joining c == .dual
  | [] => false

/-- Whether every joiner in a text stands behind a mark that suppresses a vowel, and every
non-joiner behind such a mark or between letters that would join. The text before is given in
reverse. -/
def joinersPlacedAfter (before : List Char) : List Char → Bool
  | [] => true
  | c :: rest =>
    let afterVirama := before.head?.any fun b => combiningClass b == virama
    let placed :=
      if c == joiner then afterVirama
      else if c == nonJoiner then
        afterVirama || (joinsAcross .left before && joinsAcross .right rest)
      else true
    placed && joinersPlacedAfter (c :: before) rest

/-- Whether the joiners in a label stand where they may. -/
def joinersPlaced (label : List Char) : Bool := joinersPlacedAfter [] label

/-- Whether a label is well-formed in a name with right-to-left letters. -/
def isDirected (label : List Char) : Bool :=
  let directions := label.map direction
  let last := (directions.reverse.dropWhile (· == .mark)).head?
  match directions with
  | [] => true
  | .rightToLeft :: _ =>
    directions.all (· ≠ .leftToRight)
      && (last == some .rightToLeft || last == some .europeanNumber || last == some .arabicNumber)
      && !(directions.contains .europeanNumber && directions.contains .arabicNumber)
  | .leftToRight :: _ =>
    directions.all (fun d => d ≠ .rightToLeft ∧ d ≠ .arabicNumber)
      && (last == some .leftToRight || last == some .europeanNumber)
  | _ => false

/-- Whether a text is ASCII. -/
def isAscii (text : List Char) : Bool := text.all (·.toNat < 0x80)

/-- Whether a label makes its name one with right-to-left letters. -/
def isRightToLeft (label : List Char) : Bool :=
  !isAscii label && label.any fun c => direction c == .rightToLeft || direction c == .arabicNumber

/-- What stands in front of a written form. -/
def acePrefix : List Char := "xn--".toList

/-- Longest label beyond ASCII, in characters. -/
def maxShown : Nat := 1000

/-- Longest written form that is decoded, without what stands in front of it. -/
def maxWritten : Nat := 2000

/-- Whether a label beyond ASCII is well-formed by itself. -/
def isLabel (label : List Char) : Bool :=
  label.length ≤ maxShown && normalize label == label && label.all isValid
    && !label.head?.any isMark && joinersPlaced label && !label.contains '.'

/-- A label as it is shown, when it is well-formed: a written form is decoded, once. -/
def showLabel? (label : List Char) : Option (List Char) :=
  if acePrefix.isPrefixOf label then do
    let written := label.drop acePrefix.length
    if maxWritten < written.length then none
    let shown ← Punycode.decode? written
    if !isAscii shown && isLabel shown then some shown else none
  else if isAscii label || isLabel label then some label
  else none

/-- A label in ASCII. -/
def writeLabel (label : List Char) : List Char :=
  if isAscii label then label else acePrefix ++ Punycode.encode label

/-- The characters of a domain name, mapped and composed, when all of them are allowed. ASCII is in
composed form already. -/
def prepare? (name : List Char) : Option (List Char) :=
  if isAscii name then some (name.map Char.toLower)
  else (name.mapM mapChar).map fun texts => normalize texts.flatten

/-- The ASCII form of a domain name. -/
def toAscii? (name : List Char) : Option (List Char) := do
  let labels ← (fields '.' (← prepare? name)).mapM showLabel?
  if labels.any isRightToLeft ∧ ¬ labels.all isDirected then none
  return ['.'].intercalate (labels.map writeLabel)

end ShortLink.Idna
