import OrderHerald.Json.Literal
import OrderHerald.Yaml.Place

/-!
# Written scalars

A scalar is written plainly, in quotes, or as an indented block.  Where it runs over several lines,
the line ends are folded: a single one becomes a space, of several the first is dropped.

* `Yaml.fold` — the rule of folding.
* `Yaml.Gap.take?` — blanks and line ends between two words.
* `Yaml.plain?`, `Yaml.quoted?`, `Yaml.block?` — the text of a scalar and the place after it.
-/

namespace OrderHerald.Yaml

/-- How a scalar is written. -/
inductive Style where
  | plain
  | quoted
  | literal
  | folded
  deriving DecidableEq, Repr

/-- Blanks and line ends between two words. -/
structure Gap where
  /-- The blanks before the first line end, in reverse. -/
  blanks : List Char := []
  /-- The first line end; empty if it was escaped. -/
  firstBreak : Option (List Char) := none
  /-- The further line ends, in reverse. -/
  moreBreaks : List Char := []
  deriving Repr

/-- **Folding**: a single line feed becomes a space, of several the first is dropped. -/
def fold (first more : List Char) : List Char :=
  if first = ['\n'] then (if more.isEmpty then [' '] else more) else first ++ more

/-- What a gap contributes to the text when a word follows. -/
def Gap.text (gap : Gap) : List Char :=
  match gap.firstBreak with
  | none => gap.blanks.reverse
  | some first => fold first gap.moreBreaks.reverse

/-- **The gap at a place.**  With an indentation given, a tab to the left of it is refused on every
line but the first. -/
def Gap.take? (indent : Option Int) : Nat → Gap → Place → Option (Gap × Place)
  | 0, gap, place => some (gap, place)
  | fuel + 1, gap, place =>
    match place.rest with
    | [] => some (gap, place)
    | c :: _ =>
      if isBlank c then
        match gap.firstBreak with
        | none => take? indent fuel { gap with blanks := c :: gap.blanks } place.next
        | some _ =>
          if c = '\t' ∧ indent.any (fun i => (place.column : Int) < i) then none
          else take? indent fuel gap place.next
      else if isBreak c then
        match gap.firstBreak with
        | none => take? indent fuel { gap with firstBreak := some [c] } place.next
        | some _ => take? indent fuel { gap with moreBreaks := c :: gap.moreBreaks } place.next
      else some (gap, place)

/-! ### Plain scalars -/

/-- The characters that end a plain scalar inside brackets. -/
def isFlowMark (c : Char) : Bool := c = ',' || c = '[' || c = ']' || c = '{' || c = '}'

/-- One word of a plain scalar. -/
def plainWord? (flow : Bool) : Nat → List Char → Place → Option (List Char × Place)
  | 0, word, place => some (word.reverse, place)
  | fuel + 1, word, place =>
    match place.rest with
    | [] => some (word.reverse, place)
    | c :: _ =>
      if isBlank c || isBreak c then some (word.reverse, place)
      else if flow && c = ':' && place.has 1 (fun d => isFlowMark d || d = '?') then none
      else if (c = ':' && place.isGap 1) || (flow && isFlowMark c) then some (word.reverse, place)
      else plainWord? flow fuel (c :: word) place.next

/-- The words of a plain scalar from a place on.  `joint` is what stands before the next word, and
`broken` tells that a line ended there; the last part of the answer tells whether the scalar ended
after the end of a line. -/
def plainWords? (flow : Bool) (indent : Int) : Nat → List Char → Bool → Place →
    Option (List Char × Place × Bool)
  | 0, _, broken, place => some ([], place, broken)
  | fuel + 1, joint, broken, place =>
    if place.isBoundary || place.isChar 0 '#' then some ([], place, broken)
    else
      match plainWord? flow place.rest.length [] place with
      | none => none
      | some ([], place) => some ([], place, broken)
      | some (word, after) =>
        if after.isEnd 0 || !after.isGap 0 then some (joint ++ word, after, false)
        else
          match Gap.take? (some indent) after.rest.length {} after with
          | none => none
          | some (gap, place) =>
            if !flow && (place.column : Int) < indent then
              some (joint ++ word, place, gap.firstBreak.isSome)
            else
              match plainWords? flow indent fuel gap.text gap.firstBreak.isSome place with
              | none => none
              | some (more, place, broken) => some (joint ++ word ++ more, place, broken)

/-- **A plain scalar**: its text, the place after it, and whether the end of a line stands in
between. -/
def plain? (flow : Bool) (indent : Int) (place : Place) : Option (String × Place × Bool) :=
  (plainWords? flow indent place.rest.length [] false place).map
    fun (text, place, broken) => (String.ofList text, place, broken)

/-! ### Quoted scalars -/

/-- The character that a letter after a backslash names. -/
def shortEscape? : Char → Option Char
  | '0' => some '\x00'
  | 'a' => some '\x07'
  | 'b' => some '\x08'
  | 't' => some '\t'
  | '\t' => some '\t'
  | 'n' => some '\n'
  | 'v' => some '\x0b'
  | 'f' => some '\x0c'
  | 'r' => some '\r'
  | 'e' => some '\x1b'
  | ' ' => some ' '
  | '"' => some '"'
  | '/' => some '/'
  | '\\' => some '\\'
  | 'N' => some '\x85'
  | '_' => some '\xa0'
  | 'L' => some '\u2028'
  | 'P' => some '\u2029'
  | _ => none

/-- How many hexadecimal digits follow a letter after a backslash. -/
def longEscape? : Char → Option Nat
  | 'x' => some 2
  | 'u' => some 4
  | 'U' => some 8
  | _ => none

/-- The character with a number, if the number is a character's. -/
def charOfNumber? (n : Nat) : Option Char :=
  if n < 0xD800 ∨ (0xDFFF < n ∧ n < 0x110000) then some (Char.ofNat n) else none

/-- The character that an escape at a place stands for, and the place after it. -/
def escape? (place : Place) : Option (Char × Place) :=
  match place.at? 1 with
  | none => none
  | some letter =>
    match shortEscape? letter, longEscape? letter with
    | some c, _ => some (c, place.skip 2)
    | none, some count =>
      let digits := (place.rest.drop 2).take count
      if digits.length = count then
        match digits.mapM Escape.hexDigit? with
        | some ds =>
          (charOfNumber? (ds.foldl (fun n d => n * 16 + d) 0)).map (·, place.skip (2 + count))
        | none => none
      else none
    | none, none => none

/-- One word of a quoted scalar, up to the quote, a blank or the end of a line; the last part of the
answer tells that the line end was escaped. -/
def quotedWord? (quote : Char) : Nat → List Char → Place → Option (List Char × Place × Bool)
  | 0, word, place => some (word.reverse, place, false)
  | fuel + 1, word, place =>
    match place.rest with
    | [] => some (word.reverse, place, false)
    | c :: _ =>
      if isBlank c || isBreak c then some (word.reverse, place, false)
      else if quote = '\'' && c = '\'' && place.isChar 1 '\'' then
        quotedWord? quote fuel ('\'' :: word) (place.skip 2)
      else if c = quote then some (word.reverse, place, false)
      else if quote = '"' && c = '\\' then
        if place.has 1 isBreak then some (word.reverse, place.skip 2, true)
        else
          match escape? place with
          | none => none
          | some (named, place) => quotedWord? quote fuel (named :: word) place
      else quotedWord? quote fuel (c :: word) place.next

/-- The words of a quoted scalar up to its closing quote. -/
def quotedWords? (quote : Char) : Nat → Place → Option (List Char × Place)
  | 0, _ => none
  | fuel + 1, place =>
    if place.isBoundary || place.isEnd 0 then none
    else
      match quotedWord? quote place.rest.length [] place with
      | none => none
      | some (word, place, escaped) =>
        if !escaped && place.isChar 0 quote then some (word, place.next)
        else
          let start : Gap := { firstBreak := if escaped then some [] else none }
          match Gap.take? none place.rest.length start place with
          | none => none
          | some (gap, place) =>
            (quotedWords? quote fuel place).map
              fun (more, place) => (word ++ gap.text ++ more, place)

/-- **A quoted scalar**, from its opening quote on. -/
def quoted? (quote : Char) (place : Place) : Option (String × Place) :=
  (quotedWords? quote place.rest.length place.next).map
    fun (text, place) => (String.ofList text, place)

/-! ### Block scalars -/

/-- What becomes of the line ends at the end of a block. -/
inductive Chomping where
  | strip
  | clip
  | keep
  deriving DecidableEq, Repr

/-- The indentation and the empty lines in front of a line of a block.  An indentation of zero is
still to be found. -/
structure Margin where
  indent : Nat
  breaks : List Char
  place : Place
  deriving Repr

/-- The empty lines at a place; their line ends in reverse, and the widest of them. -/
def emptyLines? (indent : Nat) : Nat → List Char → Nat → Place → Option (List Char × Nat × Place)
  | 0, breaks, widest, place => some (breaks, widest, place)
  | fuel + 1, breaks, widest, place =>
    let inMargin := indent = 0 || place.column < indent
    match place.rest with
    | [] => some (breaks, max widest place.column, place)
    | c :: _ =>
      if inMargin && c = ' ' then emptyLines? indent fuel breaks widest place.next
      else
        let widest := max widest place.column
        if inMargin && c = '\t' then none
        else if isBreak c then emptyLines? indent fuel (c :: breaks) widest place.next
        else some (breaks, widest, place)

/-- The margin at a place; an indentation not known yet is that of the first line, but more than the
surrounding one. -/
def margin? (outer : Int) (indent : Nat) (place : Place) : Option Margin :=
  (emptyLines? indent (place.rest.length + 1) [] 0 place).map fun (breaks, widest, place) =>
    ⟨if indent = 0 then max (max widest (outer + 1).toNat) 1 else indent, breaks.reverse, place⟩

/-- The lines of a block from a place on. `carried` are the line end of the line before and what is
known of it: that it ended a line at all, and that the line began with a blank. -/
def blockLines? (folded : Bool) (outer : Int) : Nat → Margin → List Char → Bool →
    Option (List Char × List Char × List Char × Place)
  | 0, margin, carried, _ => some ([], carried, margin.breaks, margin.place)
  | fuel + 1, margin, carried, leadingBlank =>
    let place := margin.place
    if place.column = margin.indent && !place.isEnd 0 then
      let blank := place.has 0 isBlank
      let joint :=
        if folded && carried = ['\n'] && !leadingBlank && !blank then
          (if margin.breaks.isEmpty then [' '] else []) ++ margin.breaks
        else carried ++ margin.breaks
      let (line, after) := place.takeWhile (!isBreak ·)
      let (ending, after) :=
        match after.rest with
        | [] => ([], after)
        | c :: _ => ([c], after.next)
      match margin? outer margin.indent after with
      | none => none
      | some margin =>
        (blockLines? folded outer fuel margin ending blank).map
          fun (text, ending, breaks, place) => (joint ++ line ++ text, ending, breaks, place)
    else some ([], carried, margin.breaks, place)

/-- The signs after the mark of a block: how it ends, and how far it is indented. -/
def blockHeader? (place : Place) : Option (Chomping × Nat × Place) :=
  let chomping? (p : Place) : Option Chomping :=
    if p.isChar 0 '+' then some .keep else if p.isChar 0 '-' then some .strip else none
  let increment? (p : Place) : Option Nat :=
    match p.at? 0 with
    | some c => if c.isDigit then some (c.toNat - '0'.toNat) else none
    | none => none
  let found : Chomping × Option Nat × Place :=
    match chomping? place with
    | some chomping =>
      match increment? place.next with
      | some n => (chomping, some n, place.next.next)
      | none => (chomping, none, place.next)
    | none =>
      match increment? place with
      | some n =>
        match chomping? place.next with
        | some chomping => (chomping, some n, place.next.next)
        | none => (.clip, some n, place.next)
      | none => (.clip, none, place)
  match found with
  | (_, some 0, _) => none
  | (chomping, increment, place) =>
    let place := (place.takeWhile isBlank).2
    let place := if place.isChar 0 '#' then (place.takeWhile (!isBreak ·)).2 else place
    if place.isLineEnd 0 then some (chomping, increment.getD 0, place.next) else none

/-- **A block scalar**, from its mark on. -/
def block? (folded : Bool) (outer : Int) (place : Place) : Option (String × Place) := do
  let (chomping, increment, place) ← blockHeader? place.next
  let indent := if increment = 0 then 0 else (max outer 0).toNat + increment
  let margin ← margin? outer indent place
  let (text, ending, breaks, place) ←
    blockLines? folded outer (place.rest.length + 1) margin [] false
  let tail := match chomping with
    | .strip => []
    | .clip => ending
    | .keep => ending ++ breaks
  some (String.ofList (text ++ tail), place)

end OrderHerald.Yaml
