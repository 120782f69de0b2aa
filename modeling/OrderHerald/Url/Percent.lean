import OrderHerald.Json.Literal

/-!
# Percent-encoding

A character that a part of a url cannot hold is written as its UTF-8 bytes, each as a percent sign
and two hexadecimal digits.  Which characters these are depends on the part; control characters and
everything beyond ASCII are among them everywhere.

* `Percent.encode` — a text with the characters of a set encoded.
* `Percent.decode` — the bytes of a text with its encoded bytes decoded.
* `Percent.fragment`, `Percent.path`, `Percent.pathSegment`, … — the sets.
-/

namespace OrderHerald

namespace Percent

/-- A hexadecimal digit in upper case. -/
def digit (value : Nat) : Char :=
  if value < 10 then Char.ofNat ('0'.toNat + value) else Char.ofNat ('A'.toNat + value - 10)

/-- One encoded byte. -/
def encodeByte (byte : UInt8) : List Char :=
  ['%', digit (byte.toNat / 16), digit (byte.toNat % 16)]

/-- Control characters and characters beyond ASCII, which no part of a url holds. -/
def isControl (c : Char) : Bool :=
  c.toNat < 0x20 || c.toNat ≥ 0x7F

/-- One character, encoded if it is in the set or in no url at all. -/
def encodeChar (set : Char → Bool) (c : Char) : List Char :=
  if isControl c || set c then (String.utf8EncodeChar c).flatMap encodeByte else [c]

/-- **A text with the characters of a set encoded.** -/
def encode (set : Char → Bool) (text : List Char) : List Char :=
  text.flatMap (encodeChar set)

/-- **The bytes a text stands for**: a percent sign with two hexadecimal digits is one byte, every
other character its own bytes. -/
def decode : List Char → List UInt8
  | [] => []
  | '%' :: a :: b :: rest =>
    match Escape.hexDigit? a, Escape.hexDigit? b with
    | some high, some low => UInt8.ofNat (high * 16 + low) :: decode rest
    | _, _ => String.utf8EncodeChar '%' ++ decode (a :: b :: rest)
  | c :: rest => String.utf8EncodeChar c ++ decode rest

/-- Nothing but what no url holds. -/
def controls (_ : Char) : Bool := false

/-- The set of fragments. -/
def fragment (c : Char) : Bool :=
  c = ' ' || c = '"' || c = '<' || c = '>' || c = '`'

/-- The set of paths. -/
def path (c : Char) : Bool :=
  fragment c || c = '#' || c = '?' || c = '{' || c = '}'

/-- The set of path segments that are put into a path one by one. -/
def pathSegment (c : Char) : Bool :=
  path c || c = '/' || c = '%'

/-- The same where a backslash divides paths too. -/
def specialPathSegment (c : Char) : Bool :=
  pathSegment c || c = '\\'

/-- The set of names and passwords. -/
def userinfo (c : Char) : Bool :=
  path c || c = '/' || c = ':' || c = ';' || c = '=' || c = '@' || c = '[' || c = '\\' || c = ']'
    || c = '^' || c = '|'

/-- The set of queries. -/
def query (c : Char) : Bool :=
  c = ' ' || c = '"' || c = '#' || c = '<' || c = '>'

/-- The set of queries of special schemes. -/
def specialQuery (c : Char) : Bool :=
  query c || c = '\''

end Percent

end OrderHerald
