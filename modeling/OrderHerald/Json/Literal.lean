import OrderHerald.Text.Utf8

/-!
# Text in quotes

The inside of a JSON string is a sequence of *pieces*: characters that stand for themselves,
characters named by a short escape, and 16-bit units named by `\u` and four hexadecimal digits.
Whether the pieces are a text is a second question, because units pair up: a high surrogate needs a
low one right after it.

* `Piece`, `Piece.text?` — the pieces, and the text they spell.
* `Escape.encode` — the one way in which this library writes a character inside quotes.
-/

namespace OrderHerald

/-- One element of a quoted text. -/
inductive Piece where
  /-- A character as it stands, or one named by a short escape. -/
  | char (c : Char)
  /-- A 16-bit unit given by its number. -/
  | unit (value : Nat)
  /-- Bytes that encode no character. -/
  | broken
  deriving DecidableEq, Repr

namespace Piece

/-- A unit that opens a surrogate pair. -/
def isHigh (unit : Nat) : Bool := 0xD800 ≤ unit && unit < 0xDC00

/-- A unit that closes a surrogate pair. -/
def isLow (unit : Nat) : Bool := 0xDC00 ≤ unit && unit < 0xE000

/-- **The text that pieces spell**, if they spell one: no broken place and no unit of a surrogate
pair without its other half. -/
def text? : List Piece → Option (List Char)
  | [] => some []
  | .char c :: rest => (text? rest).map (c :: ·)
  | .broken :: _ => none
  | .unit high :: .unit low :: rest =>
    if isHigh high then
      if isLow low then
        (text? rest).map (Char.ofNat (0x10000 + (high - 0xD800) * 0x400 + (low - 0xDC00)) :: ·)
      else none
    else if isLow high then none
    else (text? (.unit low :: rest)).map (Char.ofNat high :: ·)
  | .unit value :: rest =>
    if isHigh value || isLow value then none else (text? rest).map (Char.ofNat value :: ·)

end Piece

namespace Escape

/-- The value of a hexadecimal digit of either case. -/
def hexDigit? (c : Char) : Option Nat :=
  if '0' ≤ c ∧ c ≤ '9' then some (c.toNat - '0'.toNat)
  else if 'a' ≤ c ∧ c ≤ 'f' then some (c.toNat - 'a'.toNat + 10)
  else if 'A' ≤ c ∧ c ≤ 'F' then some (c.toNat - 'A'.toNat + 10)
  else none

/-- The hexadecimal digit of a value below sixteen, in lower case. -/
def hexDigit (value : Nat) : Char :=
  if value < 10 then Char.ofNat ('0'.toNat + value) else Char.ofNat ('a'.toNat + value - 10)

/-- The character that a letter after the backslash names. -/
def short? : Char → Option Char
  | '"' => some '"'
  | '\\' => some '\\'
  | '/' => some '/'
  | 'b' => some '\x08'
  | 'f' => some '\x0c'
  | 'n' => some '\n'
  | 'r' => some '\r'
  | 't' => some '\t'
  | _ => none

/-- **One character inside quotes**: quote, backslash and control characters are escaped, the
control characters without a letter of their own by number; all others stand for themselves. -/
def encodeChar (c : Char) : List Char :=
  match c with
  | '"' => ['\\', '"']
  | '\\' => ['\\', '\\']
  | '\x08' => ['\\', 'b']
  | '\x0c' => ['\\', 'f']
  | '\n' => ['\\', 'n']
  | '\r' => ['\\', 'r']
  | '\t' => ['\\', 't']
  | c =>
    if c.toNat < 0x20 then
      ['\\', 'u', '0', '0', hexDigit (c.toNat / 16), hexDigit (c.toNat % 16)]
    else [c]

/-- A text inside quotes, without the quotes. -/
def encode (text : List Char) : List Char :=
  text.flatMap encodeChar

end Escape

end OrderHerald
