/-!
# Characters out of bytes

Documents arrive as bytes that claim to be UTF-8.  `Utf8.decode` reads them as a list of
*symbols*: a symbol is a character, or `none` for bytes that encode none.  An ASCII byte always
stands for itself, also right after a sequence that was cut short, so the structure of a document
(quotes, brackets, line ends) can be read off the symbols even where a text inside it is broken.

* `Symbol` — a character, or a place where there is none.
* `Utf8.decode` — the symbols of a byte sequence.
* `symbols` — the symbols of a text, all of them characters.
-/

namespace OrderHerald

/-- A character of a document, or `none` where its bytes encode no character. -/
abbrev Symbol := Option Char

/-- **A text has no broken places**: each of its characters is a symbol. -/
def symbols (text : String) : List Symbol :=
  text.toList.map some

namespace Utf8

/-- A multi-byte sequence of which some bytes are still to come. -/
structure Pending where
  /-- Continuation bytes still to come, this one included. -/
  remaining : Nat
  /-- The bits read so far. -/
  bits : Nat
  /-- The next byte is not below this one. -/
  lowest : UInt8
  /-- The next byte is not above this one. -/
  highest : UInt8
  deriving DecidableEq, Repr

/-- What one byte contributes: the symbols it completes and what it leaves open. -/
abbrev Step := List Symbol × Option Pending

/-- The first byte of a character.  The bounds on the second byte exclude overlong forms,
surrogates and everything past the last code point. -/
def lead (byte : UInt8) : Step :=
  if byte < 0x80 then ([some (Char.ofNat byte.toNat)], none)
  else if byte < 0xC2 then ([none], none)
  else if byte < 0xE0 then ([], some ⟨1, byte.toNat - 0xC0, 0x80, 0xBF⟩)
  else if byte < 0xF0 then
    ([], some ⟨2, byte.toNat - 0xE0, if byte = 0xE0 then 0xA0 else 0x80,
      if byte = 0xED then 0x9F else 0xBF⟩)
  else if byte < 0xF5 then
    ([], some ⟨3, byte.toNat - 0xF0, if byte = 0xF0 then 0x90 else 0x80,
      if byte = 0xF4 then 0x8F else 0xBF⟩)
  else ([none], none)

/-- One byte of the document.  A byte that does not continue the open sequence breaks it and
starts a character of its own. -/
def step (pending : Option Pending) (byte : UInt8) : Step :=
  match pending with
  | none => lead byte
  | some p =>
    if p.lowest ≤ byte ∧ byte ≤ p.highest then
      let bits := p.bits * 64 + (byte.toNat - 0x80)
      if p.remaining ≤ 1 then ([some (Char.ofNat bits)], none)
      else ([], some ⟨p.remaining - 1, bits, 0x80, 0xBF⟩)
    else
      let (out, next) := lead byte
      (none :: out, next)

/-- The symbols of the bytes that follow an open sequence. -/
def decodeFrom : Option Pending → List UInt8 → List Symbol
  | none, [] => []
  | some _, [] => [none]
  | pending, byte :: rest =>
    let (out, next) := step pending byte
    out ++ decodeFrom next rest

/-- The symbols of a byte sequence. -/
def decode (bytes : List UInt8) : List Symbol :=
  decodeFrom none bytes

@[simp] theorem decode_nil : decode [] = [] := rfl

end Utf8

/-- **All or nothing**: the text the bytes encode, if every one of them belongs to a character. -/
def Utf8.text? (bytes : List UInt8) : Option String :=
  ((Utf8.decode bytes).mapM id).map String.ofList

end OrderHerald
