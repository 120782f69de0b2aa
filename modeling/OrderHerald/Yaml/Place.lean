/-!
# Places in a YAML text

Layout matters in YAML: a text is read together with the line and the column that each character
stands at.  Line ends are made equal first, so that each of them is one character.

* `Yaml.lines?` — the characters of a text; `none` if it holds characters that no document may hold.
* `Yaml.Place` — what is left of a text, and where.
-/

namespace OrderHerald.Yaml

/-- The characters a document may hold. -/
def isAllowed (c : Char) : Bool :=
  c = '\t' || c = '\n' || c = '\r' || (' ' ≤ c && c ≤ '~') || c = '\x85' ||
    (0xA0 ≤ c.toNat && c.toNat ≠ 0xFFFE && c.toNat ≠ 0xFFFF)

/-- Every line end as one line feed; the two separators of lines and paragraphs stay. -/
def joinLineEnds : List Char → List Char
  | '\r' :: '\n' :: rest => '\n' :: joinLineEnds rest
  | '\r' :: rest => '\n' :: joinLineEnds rest
  | c :: rest => (if c = '\x85' then '\n' else c) :: joinLineEnds rest
  | [] => []

/-- The mark that may stand in front of a text. -/
def byteOrderMark : Char := '\uFEFF'

/-- The characters of a document, without the mark in front. -/
def lines? (text : String) : Option (List Char) :=
  let chars := match text.toList with
    | c :: rest => if c = byteOrderMark then rest else c :: rest
    | [] => []
  if chars.all isAllowed then some (joinLineEnds chars) else none

/-- A space or a tab. -/
def isBlank (c : Char) : Bool := c = ' ' || c = '\t'

/-- The end of a line. -/
def isBreak (c : Char) : Bool := c = '\n' || c = '\u2028' || c = '\u2029'

/-- What is left of a text, and where it stands. -/
structure Place where
  rest : List Char
  line : Nat := 0
  column : Nat := 0
  /-- Characters before this place. -/
  index : Nat := 0
  deriving Repr

namespace Place

/-- The place after one character. -/
def next (place : Place) : Place :=
  match place.rest with
  | [] => place
  | c :: rest =>
    if isBreak c then ⟨rest, place.line + 1, 0, place.index + 1⟩
    else ⟨rest, place.line, place.column + 1, place.index + 1⟩

/-- The place after a number of characters. -/
def skip : Nat → Place → Place
  | 0, place => place
  | n + 1, place => skip n place.next

/-- The character at an offset. -/
def at? (place : Place) (offset : Nat) : Option Char := place.rest[offset]?

/-- The character at an offset has a property. -/
def has (place : Place) (offset : Nat) (p : Char → Bool) : Bool :=
  match place.at? offset with
  | some c => p c
  | none => false

/-- A character stands at an offset. -/
def isChar (place : Place) (offset : Nat) (c : Char) : Bool := place.has offset (· = c)

/-- The text ends at an offset. -/
def isEnd (place : Place) (offset : Nat) : Bool := (place.at? offset).isNone

/-- A blank, the end of a line or the end of the text. -/
def isGap (place : Place) (offset : Nat) : Bool :=
  place.isEnd offset || place.has offset fun c => isBlank c || isBreak c

/-- The end of a line or of the text. -/
def isLineEnd (place : Place) (offset : Nat) : Bool :=
  place.isEnd offset || place.has offset isBreak

/-- Three dashes or three points alone at the start of a line. -/
def isDocumentMark (place : Place) (c : Char) : Bool :=
  place.column = 0 && place.isChar 0 c && place.isChar 1 c && place.isChar 2 c && place.isGap 3

/-- Either mark between documents. -/
def isBoundary (place : Place) : Bool := place.isDocumentMark '-' || place.isDocumentMark '.'

/-- The characters with a property that follow, and the place after them. -/
def takeWhile (p : Char → Bool) (place : Place) : List Char × Place :=
  let taken := place.rest.takeWhile p
  (taken, place.skip taken.length)

end Place

end OrderHerald.Yaml
