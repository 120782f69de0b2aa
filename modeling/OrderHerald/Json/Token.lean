import OrderHerald.Json.Literal
import OrderHerald.Json.Numeral

/-!
# The tokens of a JSON text

A JSON text is cut into brackets, commas, colons, words and quoted texts by reading it once from
left to right.  `Token.step` says what one symbol does: which tokens it completes, and what is open
after it.  A word is a run of letters, digits, signs and points, so a number and whatever follows it
without a blank are judged together.

A quoted text that spells nothing and a number too large for a double are tokens all the same; they
carry `none`.

* `Token`, `Token.Open` — the tokens, and what can be open between two symbols.
* `Token.scan?` — the tokens of a text; `none` if it is not made of tokens.
-/

namespace OrderHerald

/-- A token of a JSON text. -/
inductive Token where
  | openArray
  | closeArray
  | openObject
  | closeObject
  | comma
  | colon
  | null
  | bool (value : Bool)
  /-- A number; `none` beyond the largest double. -/
  | number (value : Option Number)
  /-- A text in quotes; `none` if it spells no text. -/
  | string (value : Option String)
  deriving DecidableEq, Repr

namespace Token

/-- What is open between two symbols.  Everything read so far stands in reverse. -/
inductive Open where
  /-- Nothing: the next symbol starts a token or is blank. -/
  | gap
  /-- A word. -/
  | word (read : List Char)
  /-- A quoted text. -/
  | quoted (read : List Piece)
  /-- A quoted text, right after a backslash. -/
  | escape (read : List Piece)
  /-- A quoted text, inside the number of a unit. -/
  | unit (read : List Piece) (digits : List Nat)
  deriving DecidableEq, Repr

/-- The blanks between tokens. -/
def isBlank (c : Char) : Bool :=
  c = ' ' || c = '\n' || c = '\t' || c = '\r'

/-- The characters words are made of. -/
def isWordChar (c : Char) : Bool :=
  c.isAlphanum || c = '-' || c = '+' || c = '.'

/-- The token a word is. -/
def ofWord? (word : List Char) : Option Token :=
  if word = ['n', 'u', 'l', 'l'] then some .null
  else if word = ['t', 'r', 'u', 'e'] then some (.bool true)
  else if word = ['f', 'a', 'l', 's', 'e'] then some (.bool false)
  else (Numeral.ofChars? word).map fun numeral => .number numeral.value?

/-- What a character does where no token is open. -/
def start? (c : Char) : Option (List Token × Open) :=
  if isBlank c then some ([], .gap)
  else if isWordChar c then some ([], .word [c])
  else match c with
    | '[' => some ([openArray], .gap)
    | ']' => some ([closeArray], .gap)
    | '{' => some ([openObject], .gap)
    | '}' => some ([closeObject], .gap)
    | ',' => some ([comma], .gap)
    | ':' => some ([colon], .gap)
    | '"' => some ([], .quoted [])
    | _ => none

/-- The number of a unit, from its digits in reverse. -/
def unitOfDigits (digits : List Nat) : Nat :=
  digits.reverse.foldl (fun n d => n * 16 + d) 0

/-- **What one symbol does**: the tokens it completes and what is open after it; `none` where no
text of tokens goes on like that. -/
def step? : Open → Symbol → Option (List Token × Open)
  | .gap, some c => start? c
  | .gap, none => none
  | .word read, some c =>
    if isWordChar c then some ([], .word (c :: read))
    else
      match ofWord? read.reverse, start? c with
      | some token, some (tokens, next) => some (token :: tokens, next)
      | _, _ => none
  | .word _, none => none
  | .quoted read, some c =>
    if c = '"' then
      some ([.string ((Piece.text? read.reverse).map String.ofList)], .gap)
    else if c = '\\' then some ([], .escape read)
    else if c.toNat < 0x20 then none
    else some ([], .quoted (.char c :: read))
  | .quoted read, none => some ([], .quoted (.broken :: read))
  | .escape read, some c =>
    if c = 'u' then some ([], .unit read [])
    else (Escape.short? c).map fun named => ([], .quoted (.char named :: read))
  | .escape _, none => none
  | .unit read digits, some c =>
    (Escape.hexDigit? c).map fun d =>
      if digits.length < 3 then ([], .unit read (d :: digits))
      else ([], .quoted (.unit (unitOfDigits (d :: digits)) :: read))
  | .unit _ _, none => none

/-- What the end of the text completes. -/
def finish? : Open → Option (List Token)
  | .gap => some []
  | .word read => (ofWord? read.reverse).map ([·])
  | _ => none

/-- The tokens of the rest of a text. -/
def scanFrom? : Open → List Symbol → Option (List Token)
  | state, [] => finish? state
  | state, symbol :: rest =>
    match step? state symbol with
    | none => none
    | some (tokens, next) => (scanFrom? next rest).map (tokens ++ ·)

/-- **The tokens of a text.** -/
def scan? (text : List Symbol) : Option (List Token) :=
  scanFrom? .gap text

end Token

end OrderHerald
