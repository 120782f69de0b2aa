import OrderHerald.Text.Decimal
import OrderHerald.Text.Split
import OrderHerald.Text.Utf8
import OrderHerald.Url.Percent

/-!
# Hosts

The host of a url is a domain, an IPv4 address or an IPv6 address; a url of a scheme without rules
of its own may have no host, or one that means nothing here.

A domain is taken in lower case after percent-decoding.  A domain whose last label is a number must
be an IPv4 address, of one to four parts in decimal, octal or hexadecimal, the last filling all bytes
that are left.

**International domain names.**  A domain beyond ASCII stands for a domain in ASCII, by tables that lie
outside of this library; and a label that looks like the outcome of that must be one.  `DomainNames` is
what is asked about such domains, and everything that reads urls takes it for given.

* `Host`, `UrlError` — the hosts, and what can be wrong with a url.
* `DomainNames` — the international domain names.
* `Host.ofSpecial`, `Host.ofOther` — the host a text is, by scheme.
* `Host.text` — its canonical text.

## Main statements

* `Host.isDomain_of_ofSpecial` — a domain is of ASCII characters that a domain can hold.
-/

namespace OrderHerald

/-- What is wrong with a url. -/
inductive UrlError where
  | noBase
  | emptyHost
  | invalidPort
  | invalidIpv4
  | invalidIpv6
  | invalidDomainCharacter
  | invalidInternationalDomain
  deriving DecidableEq, Repr

/-- The text of an error. -/
def UrlError.message : UrlError → String
  | .noBase => "relative URL without a base"
  | .emptyHost => "empty host"
  | .invalidPort => "invalid port number"
  | .invalidIpv4 => "invalid IPv4 address"
  | .invalidIpv6 => "invalid IPv6 address"
  | .invalidDomainCharacter => "invalid domain character"
  | .invalidInternationalDomain => "invalid international domain name"

/-- Where a url points. -/
inductive Host where
  /-- Nowhere. -/
  | empty
  | domain (name : String)
  | ipv4 (address : Nat)
  /-- The eight 16-bit pieces of the address. -/
  | ipv6 (pieces : List Nat)
  deriving DecidableEq, Repr, Inhabited

namespace Host

/-! ### IPv4 -/

/-- The digits of a number in a base. -/
def digits? (base : Nat) : Nat → List Char → Option Nat
  | n, [] => some n
  | n, c :: rest =>
    match Escape.hexDigit? c with
    | some d => if d < base then digits? base (n * base + d) rest else none
    | none => none

/-- One part of an IPv4 address: decimal, octal after a zero, hexadecimal after `0x`. -/
def ipv4Part? : List Char → Option Nat
  | [] => none
  | '0' :: 'x' :: rest => digits? 16 0 rest
  | '0' :: 'X' :: rest => digits? 16 0 rest
  | '0' :: c :: rest => digits? 8 0 (c :: rest)
  | part => digits? 10 0 part

/-- The labels of a domain, without an empty one at its end. -/
def labels (domain : List Char) : List (List Char) :=
  let all := splitOn '.' domain
  if all.getLast? = some [] then all.dropLast else all

/-- A domain must be an IPv4 address if its last label is a number. -/
def endsInNumber (domain : List Char) : Bool :=
  match (labels domain).getLast? with
  | none => false
  | some last =>
    (!last.isEmpty && last.all fun c => (Decimal.digit? c).isSome) || (ipv4Part? last).isSome

/-- The address of which these are the parts: the last part fills the bytes that are left. -/
def ipv4OfParts? (parts : List Nat) : Option Nat :=
  match parts.reverse with
  | [] => none
  | last :: before =>
    let firsts := before.reverse
    if firsts.length > 3 then none
    else if last ≥ 1 <<< (8 * (4 - firsts.length)) then none
    else if firsts.any (· > 255) then none
    else some ((firsts ++ List.replicate (4 - firsts.length) 0).foldl (fun n p => n * 256 + p) 0 + last)

/-- The IPv4 address a domain is. -/
def ipv4? (domain : List Char) : Option Nat :=
  let parts := labels domain
  if parts.length > 4 then none else (parts.mapM ipv4Part?).bind ipv4OfParts?

/-- Four numbers with points between them. -/
def ipv4Text (address : Nat) : String :=
  let part (i : Nat) := toString (address >>> (8 * i) % 256)
  part 3 ++ "." ++ part 2 ++ "." ++ part 1 ++ "." ++ part 0

/-! ### IPv6 -/

/-- One to four hexadecimal digits. -/
def ipv6Piece? (group : List Char) : Option Nat :=
  if group.isEmpty || group.length > 4 then none else digits? 16 0 group

/-- A byte in decimal, without leading zeros. -/
def byte? (part : List Char) : Option Nat :=
  match Decimal.natural? part with
  | some n => if n > 255 || (part.length > 1 && part.head? = some '0') then none else some n
  | none => none

/-- The two pieces that an IPv4 address at the end stands for. -/
def ipv6Tail? (group : List Char) : Option (List Nat) :=
  match (splitOn '.' group).mapM byte? with
  | some [a, b, c, d] => some [a * 256 + b, c * 256 + d]
  | _ => none

/-- The pieces of groups with colons between them; the last group may be an IPv4 address if nothing
follows it. -/
def ipv6Groups? (final : Bool) : List (List Char) → Option (List Nat)
  | [] => some []
  | [last] =>
    if final && last.contains '.' then ipv6Tail? last else (ipv6Piece? last).map ([·])
  | group :: groups =>
    match ipv6Piece? group, ipv6Groups? final groups with
    | some piece, some pieces => some (piece :: pieces)
    | _, _ => none

/-- The text before the first double colon and the text after it, if there is one. -/
def cutDoubleColon : List Char → List Char × Option (List Char)
  | [] => ([], none)
  | ':' :: ':' :: rest => ([], some rest)
  | c :: rest => (c :: (cutDoubleColon rest).1, (cutDoubleColon rest).2)

/-- The groups on one side of a double colon; an empty side has none. -/
def ipv6Side? (final : Bool) (side : List Char) : Option (List Nat) :=
  if side.isEmpty then some [] else ipv6Groups? final (splitOn ':' side)

/-- **The IPv6 address a text is**: eight pieces, or fewer with one double colon for the rest. -/
def ipv6? (text : List Char) : Option (List Nat) :=
  match cutDoubleColon text with
  | (whole, none) =>
    match ipv6Side? true whole with
    | some pieces => if pieces.length = 8 then some pieces else none
    | none => none
  | (left, some right) =>
    match ipv6Side? false left, ipv6Side? true right with
    | some front, some back =>
      if front.length + back.length ≤ 7 then
        some (front ++ List.replicate (8 - front.length - back.length) 0 ++ back)
      else none
    | _, _ => none

/-- The length of the run of zeros at the front. -/
def zeros (pieces : List Nat) : Nat := (pieces.takeWhile (· = 0)).length

/-- Where the longest run of zeros starts, and how long it is; of equal runs the first. -/
def longestZeros (pieces : List Nat) : Nat × Nat :=
  (List.range pieces.length).foldl
    (fun best i =>
      let run := zeros (pieces.drop i)
      if run > best.2 then (i, run) else best)
    (0, 0)

/-- The lower-case hexadecimal digits of a number. -/
def hexText (n : Nat) : String := String.ofList (Nat.toDigits 16 n)

/-- The pieces in hexadecimal with colons between them, the longest run of two zeros or more
written as a double colon. -/
def ipv6Text (pieces : List Nat) : String :=
  let group (ps : List Nat) := ":".intercalate (ps.map hexText)
  let (start, run) := longestZeros pieces
  if run < 2 then group pieces
  else group (pieces.take start) ++ "::" ++ group (pieces.drop (start + run))

/-! ### Hosts of urls -/

/-- The characters a domain cannot hold. -/
def isForbidden (c : Char) : Bool :=
  c.toNat ≤ 0x20 || c.toNat = 0x7F || "#/:<>?@[\\]^|%".toList.contains c

/-- An address in square brackets. -/
def bracketed (rest : List Char) : Except UrlError Host :=
  if rest.getLast? = some ']' then
    match ipv6? rest.dropLast with
    | some pieces => .ok (.ipv6 pieces)
    | none => .error .invalidIpv6
  else .error .invalidIpv6

/-- A domain holds ASCII characters that a domain can hold, and no others. -/
def IsDomain (domain : List Char) : Prop := ∀ c ∈ domain, isForbidden c = false ∧ c.toNat < 0x80

/-- A domain is international if it goes beyond ASCII or a label of it stands for what does. -/
def isInternational (domain : List Char) : Bool :=
  domain.any (·.toNat ≥ 0x80) || (labels domain).any fun label => "xn--".toList.isPrefixOf label

end Host

/-- **The international domain names**: the domain in ASCII that such a domain stands for, if it stands
for one. -/
class DomainNames where
  toAscii? : String → Option (List Char)
  isDomain : ∀ (name : String) (domain : List Char), toAscii? name = some domain →
    Host.IsDomain domain

/-- Where nothing is known of international domain names, none of them stands for a domain. -/
instance (priority := low) : DomainNames where
  toAscii? _ := none
  isDomain := nofun

namespace Host

variable [DomainNames]

/-- **The domain in ASCII that a domain stands for**: itself in lower case, if it is not
international. -/
def asciiDomain? (name : String) : Option (List Char) :=
  let domain := name.toList.map Char.toLower
  if isInternational domain then DomainNames.toAscii? name
  else if domain.any isForbidden then none
  else some domain

/-- The host a domain of ASCII characters is. -/
def ofDomain (domain : List Char) : Except UrlError Host :=
  if domain.isEmpty then .error .emptyHost
  else if endsInNumber domain then
    match ipv4? domain with
    | some address => if address < UInt32.size then .ok (.ipv4 address) else .error .invalidIpv4
    | none => .error .invalidIpv4
  else .ok (.domain (String.ofList domain))

/-- **The host of a special scheme.** -/
def ofSpecial (text : List Char) : Except UrlError Host :=
  match text with
  | '[' :: rest => bracketed rest
  | _ =>
    match (Utf8.text? (Percent.decode text)).bind asciiDomain? with
    | none => .error .invalidInternationalDomain
    | some ascii => ofDomain ascii

theorem isDomain_of_asciiDomain? {name : String} {domain : List Char}
    (h : asciiDomain? name = some domain) : IsDomain domain := by
  simp only [asciiDomain?] at h
  split at h
  · exact DomainNames.isDomain name domain h
  · rename_i plain
    split at h
    · cases h
    · rename_i allowed
      obtain rfl := Option.some.inj h
      intro c mem
      have ascii : ¬ c.toNat ≥ 0x80 := fun beyond => plain (by
        rw [isInternational, Bool.or_eq_true, List.any_eq_true]
        exact .inl ⟨c, mem, decide_eq_true beyond⟩)
      refine ⟨?_, Nat.lt_of_not_le ascii⟩
      rw [← Bool.not_eq_true]
      exact fun forbidden => allowed (List.any_eq_true.mpr ⟨c, mem, forbidden⟩)

/-- **A domain is of ASCII characters that a domain can hold**, also an international one. -/
theorem isDomain_of_ofSpecial {text : List Char} {name : String}
    (h : ofSpecial text = .ok (.domain name)) : IsDomain name.toList := by
  have ofBracketed : ∀ rest, bracketed rest ≠ .ok (.domain name) := by
    intro rest
    unfold bracketed
    split
    · split <;> nofun
    · nofun
  unfold ofSpecial at h
  split at h
  · exact absurd h (ofBracketed _)
  · split at h
    · cases h
    · rename_i ascii stands
      obtain ⟨decoded, -, known⟩ := Option.bind_eq_some_iff.mp stands
      unfold ofDomain at h
      split at h
      · cases h
      · split at h
        · split at h
          · split at h <;> cases h
          · cases h
        · obtain rfl : String.ofList ascii = name := by simpa using h
          rw [String.toList_ofList]
          exact isDomain_of_asciiDomain? known

/-- The characters that no host holds, whatever its scheme. -/
def isForbiddenAnywhere (c : Char) : Bool :=
  c = '\x00' || "\t\n\r #/:<>?@[\\]^|".toList.contains c

/-- **The host of any other scheme**, taken as it is. -/
def ofOther (text : List Char) : Except UrlError Host :=
  match text with
  | [] => .ok .empty
  | '[' :: rest => bracketed rest
  | _ =>
    if text.any isForbiddenAnywhere then .error .invalidDomainCharacter
    else .ok (.domain (String.ofList (Percent.encode Percent.controls text)))

/-- The canonical text of a host. -/
def text : Host → String
  | .empty => ""
  | .domain name => name
  | .ipv4 address => ipv4Text address
  | .ipv6 pieces => "[" ++ ipv6Text pieces ++ "]"

end Host

end OrderHerald
