import OrderHerald.Yaml.Scalar

/-!
# The tokens of a YAML text

Indentation is turned into tokens that open and close blocks, so that the tree of a document can be
read off its tokens alone.

Whether a scalar is a key shows only when a colon follows it on its line.  Every place where a key
might begin is therefore noted among the tokens as a *candidate*; a colon settles it, and when all
tokens are known the settled candidates turn into keys and the others vanish.

* `Yaml.Token` — the tokens.
* `Yaml.Reading` — what has been read so far: tokens, open blocks, candidates.
* `Yaml.scan?` — the tokens of a text.
-/

namespace OrderHerald.Yaml

/-- A token of a YAML text. -/
inductive Token where
  | blockSequence
  | blockMapping
  | blockEnd
  | openSequence
  | closeSequence
  | openMapping
  | closeMapping
  | item
  | comma
  | key
  | value
  | alias (name : String)
  | anchor (name : String)
  /-- A tag, as the short name of its beginning and the rest. -/
  | tag (handle rest : String)
  | scalar (style : Style) (text : String)
  | documentStart
  | documentEnd
  | version (major minor : Nat)
  /-- A short name for the beginnings of tags. -/
  | tagHandle (handle beginning : String)
  deriving DecidableEq, Repr

/-- A token, or a place where a key might begin. -/
inductive Entry where
  | token (token : Token)
  | candidate (id : Nat)
  deriving Repr

/-- A place where a key might begin. -/
structure Candidate where
  id : Nat
  line : Nat
  column : Nat
  index : Nat
  /-- Nothing else can stand here. -/
  required : Bool
  deriving Repr

/-- What has been read so far. -/
structure Reading where
  place : Place
  /-- The entries, in reverse. -/
  entries : List Entry := []
  /-- The columns of the open blocks, the innermost first. -/
  columns : List Int := []
  /-- A key may begin here. -/
  keyAllowed : Bool := true
  /-- The candidate of each open pair of brackets, the innermost first, and of the block around
  them. -/
  candidates : List (Option Candidate) := [none]
  /-- The candidates that are keys; those marked open a mapping too. -/
  settled : List (Nat × Bool) := []
  /-- The number of the next candidate. -/
  nextId : Nat := 0
  deriving Repr

namespace Reading

/-- Inside of brackets. -/
def inFlow (r : Reading) : Bool := r.candidates.length > 1

/-- The column of the innermost block; outside of all blocks it is `-1`. -/
def indent (r : Reading) : Int := r.columns.head?.getD (-1)

/-- Adds a token. -/
def emit (r : Reading) (token : Token) : Reading := { r with entries := .token token :: r.entries }

/-- Moves to another place. -/
def moveTo (r : Reading) (place : Place) : Reading := { r with place := place }

/-- Moves over characters. -/
def skip (r : Reading) (n : Nat) : Reading := r.moveTo (r.place.skip n)

/-- Says whether a key may begin. -/
def allowKey (r : Reading) (allowed : Bool) : Reading := { r with keyAllowed := allowed }

/-- Closes the blocks to the right of a column. -/
def closeTo (column : Int) : List Int → Reading → Reading
  | [], r => { r with columns := [] }
  | c :: rest, r =>
    if c > column then closeTo column rest (r.emit .blockEnd) else { r with columns := c :: rest }

/-- Closes the blocks to the right of a column, except inside of brackets. -/
def unindent (r : Reading) (column : Int) : Reading :=
  if r.inFlow then r else closeTo column r.columns r

/-- Opens a block at a column, unless one is open there or inside of brackets. -/
def opensAt (r : Reading) (column : Nat) : Bool := !r.inFlow && r.indent < column

/-- Opens a block. -/
def indentTo (r : Reading) (column : Nat) (token : Token) : Reading :=
  if r.opensAt column then { r.emit token with columns := (column : Int) :: r.columns } else r

/-- Gives up the innermost candidate; `none` if nothing else can stand there. -/
def dropCandidate? (r : Reading) : Option Reading :=
  match r.candidates with
  | some c :: rest => if c.required then none else some { r with candidates := none :: rest }
  | _ => some r

/-- Notes that a key might begin here. -/
def noteCandidate? (r : Reading) : Option Reading :=
  if r.keyAllowed then
    match r.dropCandidate? with
    | none => none
    | some r =>
      let candidate : Candidate :=
        ⟨r.nextId, r.place.line, r.place.column, r.place.index,
          !r.inFlow && r.indent = (r.place.column : Int)⟩
      some { r with
        entries := .candidate r.nextId :: r.entries
        nextId := r.nextId + 1
        candidates := some candidate :: r.candidates.drop 1 }
  else some r

/-- A candidate on an earlier line, or too far away, is no key. -/
def isStale (r : Reading) (c : Candidate) : Bool :=
  c.line < r.place.line || c.index + 1024 < r.place.index

/-- Gives up all stale candidates; `none` if one of them must be a key. -/
def dropStale? (r : Reading) : Option Reading :=
  let fresh? : Option Candidate → Option (Option Candidate)
    | some c => if r.isStale c then (if c.required then none else some none) else some (some c)
    | none => some none
  (r.candidates.mapM fresh?).map fun candidates => { r with candidates := candidates }

/-! ### Blanks and comments -/

/-- Moves to the next token. -/
def toNext : Nat → Reading → Reading
  | 0, r => r
  | fuel + 1, r =>
    match r.place.rest with
    | [] => r
    | c :: _ =>
      if (c = byteOrderMark && r.place.column = 0) || c = ' '
          || (c = '\t' && (r.inFlow || !r.keyAllowed)) then toNext fuel (r.skip 1)
      else if c = '#' then toNext fuel (r.moveTo (r.place.takeWhile (!isBreak ·)).2)
      else if isBreak c then
        toNext fuel ((r.skip 1).allowKey (r.keyAllowed || !r.inFlow))
      else r

/-! ### Names, tags and directives -/

/-- The characters of names. -/
def isNameChar (c : Char) : Bool := c.isAlphanum || c = '_' || c = '-'

/-- The name of an anchor or alias, after its sign. -/
def takeName? (place : Place) : Option (String × Place) :=
  let (name, after) := place.takeWhile isNameChar
  if !name.isEmpty && (after.isGap 0 || after.has 0 fun c => "?:,]\x7d%@\x60".toList.contains c) then
    some (String.ofList name, after)
  else none

/-- The characters of tags. -/
def isTagChar (flow : Bool) (c : Char) : Bool :=
  isNameChar c || ";/?:@&=+$.%!~*'()".toList.contains c
    || (!flow && (c = ',' || c = '[' || c = ']'))

/-- The tag at a place. -/
def takeTag? (place : Place) : Option (Token × Place) :=
  if place.isChar 1 '<' then
    let (rest, after) := (place.skip 2).takeWhile (isTagChar false)
    if !rest.isEmpty && after.isChar 0 '>' then
      some (.tag "" (String.ofList rest), after.next)
    else none
  else
    let (name, after) := place.next.takeWhile isNameChar
    let (handle, after) :=
      if after.isChar 0 '!' then ("!" ++ String.ofList name ++ "!", after.next)
      else ("!", place.next)
    let (rest, after) := after.takeWhile (isTagChar true)
    if handle ≠ "!" && rest.isEmpty then none
    else some (.tag handle (String.ofList rest), after)

/-- A number after a directive, or nothing. -/
def takeNumber? (place : Place) : Option (Nat × Place) :=
  let (digits, after) := place.takeWhile Char.isDigit
  if digits.isEmpty || digits.length > 9 then none
  else some (digits.foldl (fun n d => n * 10 + (d.toNat - '0'.toNat)) 0, after)

/-- The directive at a place, from its percent sign on. -/
def takeDirective? (place : Place) : Option (Token × Place) := do
  let (name, after) := place.next.takeWhile isNameChar
  let blank := (after.takeWhile isBlank).2
  if !after.isGap 0 then none
  let (token, after) ←
    match String.ofList name with
    | "YAML" => do
      let (major, point) ← takeNumber? blank
      if !point.isChar 0 '.' then none
      let (minor, after) ← takeNumber? point.next
      some (Token.version major minor, after)
    | "TAG" => do
      if !blank.isChar 0 '!' then none
      let (inner, close) := blank.next.takeWhile isNameChar
      let (handle, after) ←
        if close.isChar 0 '!' then some ("!" ++ String.ofList inner ++ "!", close.next)
        else if inner.isEmpty then some ("!", blank.next)
        else none
      if !after.has 0 isBlank then none
      let (beginning, after) := (after.takeWhile isBlank).2.takeWhile (isTagChar false)
      if beginning.isEmpty || !after.isGap 0 then none
      some (Token.tagHandle handle (String.ofList beginning), after)
    | _ => none
  let after := (after.takeWhile isBlank).2
  let after := if after.isChar 0 '#' then (after.takeWhile (!isBreak ·)).2 else after
  if after.isLineEnd 0 then some (token, after.next) else none

/-! ### One token -/

/-- A mark between documents. -/
def boundary? (r : Reading) (token : Token) : Option Reading :=
  ((r.unindent (-1)).dropCandidate?).map fun r => ((r.allowKey false).skip 3).emit token

/-- An opening bracket. -/
def openFlow? (r : Reading) (token : Token) : Option Reading :=
  r.noteCandidate?.map fun r =>
    (({ r with candidates := none :: r.candidates }.allowKey true).skip 1).emit token

/-- A closing bracket. -/
def closeFlow? (r : Reading) (token : Token) : Option Reading :=
  r.dropCandidate?.map fun r =>
    let candidates := if r.candidates.length > 1 then r.candidates.drop 1 else r.candidates
    (({ r with candidates }.allowKey false).skip 1).emit token

/-- A dash in front of an item. -/
def item? (r : Reading) : Option Reading :=
  if r.inFlow || r.keyAllowed then
    (r.indentTo r.place.column .blockSequence).dropCandidate?.map fun r =>
      ((r.allowKey true).skip 1).emit .item
  else none

/-- A question mark in front of a key. -/
def explicitKey? (r : Reading) : Option Reading :=
  if r.inFlow || r.keyAllowed then
    (r.indentTo r.place.column .blockMapping).dropCandidate?.map fun r =>
      ((r.allowKey !r.inFlow).skip 1).emit .key
  else none

/-- A colon in front of a value.  It makes a key of the candidate on its line. -/
def value? (r : Reading) : Option Reading :=
  match r.candidates with
  | some c :: rest =>
    let opens := r.opensAt c.column
    let columns := if opens then (c.column : Int) :: r.columns else r.columns
    let r := { r with
      columns, candidates := none :: rest, settled := (c.id, opens) :: r.settled }
    some (((r.allowKey false).skip 1).emit .value)
  | _ =>
    if r.inFlow || r.keyAllowed then
      let r := r.indentTo r.place.column .blockMapping
      some (((r.allowKey !r.inFlow).skip 1).emit .value)
    else none

/-- A part of a node: an anchor, an alias, a tag or a quoted scalar. -/
def part? (r : Reading) (take? : Place → Option (Token × Place)) : Option Reading :=
  match r.noteCandidate? with
  | none => none
  | some r =>
    (take? r.place).map fun (token, after) => ((r.allowKey false).moveTo after).emit token

/-- A block scalar. -/
def blockScalar? (r : Reading) (folded : Bool) : Option Reading :=
  match r.dropCandidate? with
  | none => none
  | some r =>
    (block? folded r.indent r.place).map fun (text, after) =>
      ((r.allowKey true).moveTo after).emit (.scalar (if folded then .folded else .literal) text)

/-- A plain scalar. -/
def plainScalar? (r : Reading) : Option Reading :=
  match r.noteCandidate? with
  | none => none
  | some r =>
    (plain? r.inFlow (r.indent + 1) r.place).map fun (text, after, broken) =>
      ((r.allowKey broken).moveTo after).emit (.scalar .plain text)

/-- A plain scalar may begin with this character. -/
def startsPlain (r : Reading) (c : Char) : Bool :=
  !"-?:,[]\x7b\x7d#&*!|>'\"%@\x60".toList.contains c
    || (c = '-' && !r.place.has 1 isBlank)
    || (!r.inFlow && (c = '?' || c = ':') && !r.place.isGap 1)

/-- **The token at a place**, which is neither blank nor the end. -/
def token? (r : Reading) (c : Char) : Option Reading :=
  if r.place.column = 0 && c = '%' then
    ((r.unindent (-1)).dropCandidate?).bind fun r =>
      (takeDirective? r.place).map fun (token, after) =>
        ((r.allowKey false).moveTo after).emit token
  else if r.place.isDocumentMark '-' then r.boundary? .documentStart
  else if r.place.isDocumentMark '.' then r.boundary? .documentEnd
  else if c = '[' then r.openFlow? .openSequence
  else if c = '{' then r.openFlow? .openMapping
  else if c = ']' then r.closeFlow? .closeSequence
  else if c = '}' then r.closeFlow? .closeMapping
  else if c = ',' then
    r.dropCandidate?.map fun r => ((r.allowKey true).skip 1).emit .comma
  else if c = '-' && r.place.isGap 1 then r.item?
  else if c = '?' && (r.inFlow || r.place.isGap 1) then r.explicitKey?
  else if c = ':' && (r.inFlow || r.place.isGap 1) then r.value?
  else if c = '*' then
    r.part? fun p => (takeName? p.next).map fun (name, after) => (.alias name, after)
  else if c = '&' then
    r.part? fun p => (takeName? p.next).map fun (name, after) => (.anchor name, after)
  else if c = '!' then
    r.part? fun p =>
      match takeTag? p with
      | some (token, after) =>
        if after.isGap 0 || (r.inFlow && after.isChar 0 ',') then some (token, after) else none
      | none => none
  else if c = '|' && !r.inFlow then r.blockScalar? false
  else if c = '>' && !r.inFlow then r.blockScalar? true
  else if c = '\'' || c = '"' then
    r.part? fun p => (quoted? c p).map fun (text, after) => (.scalar .quoted text, after)
  else if r.startsPlain c then r.plainScalar?
  else none

/-- Closes what is open at the end of the text. -/
def finish? (r : Reading) : Option Reading :=
  (r.unindent (-1)).dropCandidate?

/-- All tokens from a place on. -/
def run? : Nat → Reading → Option Reading
  | 0, r => r.finish?
  | fuel + 1, r =>
    match (r.toNext (r.place.rest.length + 1)).dropStale? with
    | none => none
    | some r =>
      let r := r.unindent r.place.column
      match r.place.rest with
      | [] => r.finish?
      | c :: _ =>
        match r.token? c with
        | none => none
        | some r => run? fuel r

/-- The tokens of the entries, settled candidates turned into keys. -/
def tokens (r : Reading) : List Token :=
  r.entries.reverse.flatMap fun
    | .token token => [token]
    | .candidate id =>
      match r.settled.lookup id with
      | none => []
      | some opens => if opens then [.blockMapping, .key] else [.key]

end Reading

/-- **The tokens of a text.** -/
def scan? (text : String) : Option (List Token) :=
  match lines? text with
  | none => none
  | some chars => (Reading.run? (chars.length + 1) { place := ⟨chars, 0, 0, 0⟩ }).map Reading.tokens

end OrderHerald.Yaml
