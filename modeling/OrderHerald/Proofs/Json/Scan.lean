import Mathlib.Data.List.Forall2
import OrderHerald.Json.Token
import OrderHerald.Json.Writer
import OrderHerald.Proofs.Text.Decimal

/-!
# The tokens of a written value

A value whose numbers are integers, and which has no part without a meaning, is written in a text
that tells all about it.  Here the text is cut into tokens again; `Proofs/Json/RoundTrip.lean` makes
the value of them.

**Texts side by side.**  A word ends where a character follows that no word holds, so whether a text
spells its tokens depends on what comes after it.  `Token.Spells` asks for a boundary there, and then
texts can be put one after the other.

* `Json.IsExact` — the values that their texts tell all about.
* `Json.tokens` — the tokens of such a text.
* `Token.Spells` — a text spells tokens, whatever follows at a boundary.

## Main statements

* `Token.completes_quoted` — a text in quotes is one token, for every text.
* `Json.IsExact.spells` — the text of a value spells the tokens of the value.
-/

namespace OrderHerald

/-! ### Pieces of a quoted text -/

namespace Piece

/-- **A piece stands for a character**: as it is, or a control character by its number. -/
inductive IsFor : Piece → Char → Prop
  | char (c : Char) : IsFor (.char c) c
  | unit {c : Char} (h : c.toNat < 0x20) : IsFor (.unit c.toNat) c

/-- The number of a control character is no half of a pair. -/
theorem text?_unit {value : Nat} (h : value < 0x20) (rest : List Piece) :
    text? (.unit value :: rest) = (text? rest).map (Char.ofNat value :: ·) := by
  have notHigh : isHigh value = false := by simp [isHigh]; omega
  have notLow : isLow value = false := by simp [isLow]; omega
  cases rest with
  | nil => simp [text?, notHigh, notLow]
  | cons piece rest => cases piece <;> simp [text?, notHigh, notLow]

/-- **Pieces that stand for the characters of a text spell the text.** -/
theorem text?_of_isFor {pieces : List Piece} {text : List Char}
    (h : List.Forall₂ IsFor pieces text) : text? pieces = some text := by
  induction h with
  | nil => rfl
  | cons head _ ih =>
    cases head with
    | char c => simp [text?, ih]
    | unit small => simp [text?_unit small, ih]

end Piece

theorem Escape.hexDigit?_hexDigit : ∀ v < 16, hexDigit? (hexDigit v) = some v := by
  decide

/-! ### Scanning -/

namespace Token

variable {state next : Open} {symbol : Symbol} {rest : List Symbol}

/-- A symbol that completes nothing changes what is open. -/
theorem scanFrom?_silent (h : step? state symbol = some ([], next)) :
    scanFrom? state (symbol :: rest) = scanFrom? next rest := by
  rw [scanFrom?, h]
  simp

/-- What comes next is not part of a word. -/
def IsBoundary (rest : List Symbol) : Prop :=
  ∀ c, rest.head? = some (some c) → isWordChar c = false

/-- **A text completes tokens**: they are the first tokens of what is scanned, whatever follows. -/
def Completes (text : List Char) (tokens : List Token) : Prop :=
  ∀ rest, scanFrom? .gap (text.map some ++ rest) = (scanFrom? .gap rest).map (tokens ++ ·)

/-- **A text spells tokens**: the same in front of a boundary. -/
def Spells (text : List Char) (tokens : List Token) : Prop :=
  ∀ rest, IsBoundary rest →
    scanFrom? .gap (text.map some ++ rest) = (scanFrom? .gap rest).map (tokens ++ ·)

section Append

variable {front back : List Char} {first second : List Token}

theorem Completes.spells (h : Completes front first) : Spells front first := fun rest _ => h rest

theorem completes_nil : Completes [] [] := by
  intro rest
  simp

/-- What two texts spell, if the scan gets from the one to the other. -/
theorem scanFrom?_append (rest : List Symbol)
    (hfront : scanFrom? .gap (front.map some ++ (back.map some ++ rest))
      = (scanFrom? .gap (back.map some ++ rest)).map (first ++ ·))
    (hback : scanFrom? .gap (back.map some ++ rest) = (scanFrom? .gap rest).map (second ++ ·)) :
    scanFrom? .gap ((front ++ back).map some ++ rest)
      = (scanFrom? .gap rest).map (first ++ second ++ ·) := by
  rw [List.map_append, List.append_assoc, hfront, hback, Option.map_map]
  congr 1
  funext tokens
  exact (List.append_assoc first second tokens).symm

/-- Behind a text that completes its tokens any other may stand. -/
theorem Completes.append (hfront : Completes front first) (hback : Spells back second) :
    Spells (front ++ back) (first ++ second) :=
  fun rest h => scanFrom?_append rest (hfront _) (hback rest h)

/-- **Behind a text that spells its tokens** one may stand that begins with a boundary. -/
theorem Spells.append (hfront : Spells front first) (hback : Spells back second)
    (boundary : ∀ rest, IsBoundary rest → IsBoundary (back.map some ++ rest)) :
    Spells (front ++ back) (first ++ second) :=
  fun rest h => scanFrom?_append rest (hfront _ (boundary rest h)) (hback rest h)

/-- Behind a text that spells its tokens a sign completes them. -/
theorem Spells.append_completes (hfront : Spells front first) (hback : Completes back second)
    (boundary : ∀ rest, IsBoundary (back.map some ++ rest)) :
    Completes (front ++ back) (first ++ second) :=
  fun rest => scanFrom?_append rest (hfront _ (boundary rest)) (hback rest)

end Append

/-- A character that is a token by itself. -/
theorem completes_sign {c : Char} {token : Token} (h : start? c = some ([token], .gap)) :
    Completes [c] [token] := by
  intro rest
  simp [scanFrom?, step?, h]

/-- A sign in front leaves no word open before it. -/
theorem isBoundary_cons {c : Char} (h : isWordChar c = false) (rest : List Symbol) :
    IsBoundary (some c :: rest) := by
  intro d eq
  obtain rfl : c = d := Option.some.inj (Option.some.inj eq)
  exact h

/-! ### Words -/

theorem start?_of_isWordChar {c : Char} (h : isWordChar c = true) :
    start? c = some ([], .word [c]) := by
  have visible : isBlank c = false := by
    rw [Bool.eq_false_iff]
    intro blank
    simp only [isBlank, Bool.or_eq_true, decide_eq_true_eq] at blank
    rcases blank with ((rfl | rfl) | rfl) | rfl <;> exact absurd h (by decide)
  simp [start?, visible, h]

/-- The characters of a word gather. -/
theorem scanFrom?_word {word : List Char} (h : ∀ c ∈ word, isWordChar c = true) (read : List Char) :
    scanFrom? (.word read) (word.map some ++ rest)
      = scanFrom? (.word (word.reverse ++ read)) rest := by
  induction word generalizing read with
  | nil => rfl
  | cons c word ih =>
    have here : step? (.word read) (some c) = some ([], .word (c :: read)) := by
      simp [step?, h c List.mem_cons_self]
    rw [List.map_cons, List.cons_append, scanFrom?_silent here,
      ih fun d mem => h d (List.mem_cons_of_mem c mem)]
    simp

/-- At a boundary a word is judged. -/
theorem scanFrom?_word_boundary {read : List Char} {token : Token}
    (word : ofWord? read.reverse = some token) (h : IsBoundary rest) :
    scanFrom? (.word read) rest = (scanFrom? .gap rest).map (token :: ·) := by
  cases rest with
  | nil => simp [scanFrom?, finish?, word]
  | cons symbol rest =>
    cases symbol with
    | none => rfl
    | some c =>
      have sign : isWordChar c = false := h c rfl
      simp only [scanFrom?, step?, word, sign]
      cases start? c with
      | none => rfl
      | some entry =>
        simp only [Bool.false_eq_true, if_false, Option.map_map]
        rfl

/-- **A word is one token.** -/
theorem spells_word {word : List Char} {token : Token} (nonempty : word ≠ [])
    (made : word.all isWordChar = true) (h : ofWord? word = some token) :
    Spells word [token] := by
  intro rest boundary
  have chars : ∀ c ∈ word, isWordChar c = true := List.all_eq_true.mp made
  cases word with
  | nil => exact absurd rfl nonempty
  | cons c word =>
    have begins : step? .gap (some c) = some ([], .word [c]) :=
      start?_of_isWordChar (chars c List.mem_cons_self)
    have whole : ofWord? (word.reverse ++ [c]).reverse = some token := by simpa using h
    rw [List.map_cons, List.cons_append, scanFrom?_silent begins,
      scanFrom?_word fun d mem => chars d (List.mem_cons_of_mem c mem),
      scanFrom?_word_boundary whole boundary]
    rfl

theorem spells_null : Spells ['n', 'u', 'l', 'l'] [.null] :=
  spells_word (by decide) (by decide) rfl

theorem spells_true : Spells ['t', 'r', 'u', 'e'] [.bool true] :=
  spells_word (by decide) (by decide) rfl

theorem spells_false : Spells ['f', 'a', 'l', 's', 'e'] [.bool false] :=
  spells_word (by decide) (by decide) rfl

/-- A numeral is none of the other words. -/
theorem ofWord?_of_numeral {word : List Char} {numeral : Numeral}
    (h : Numeral.ofChars? word = some numeral) :
    ofWord? word = some (.number numeral.value?) := by
  have other : ∀ name : List Char, Numeral.ofChars? name = none → word ≠ name := by
    rintro name none rfl
    cases none.symm.trans h
  rw [ofWord?, if_neg (other _ rfl), if_neg (other _ rfl), if_neg (other _ rfl), h]
  rfl

/-- Digits and a minus sign are characters of words. -/
theorem isWordChar_of_mem_repr {value : Int} {c : Char} (h : c ∈ value.repr.toList) :
    isWordChar c = true := by
  have digits : ∀ {n : Nat}, c ∈ Nat.toDigits 10 n → isWordChar c = true := by
    intro n mem
    simp [isWordChar, Char.isAlphanum, Decimal.isDigit_of_mem mem]
  rw [Int.repr_eq_if] at h
  split at h
  · rw [Nat.toList_repr] at h
    exact digits h
  · rw [String.toList_append, Nat.toList_repr, List.mem_append] at h
    rcases h with sign | mem
    · obtain rfl : c = '-' := List.mem_singleton.mp sign
      decide
    · exact digits mem

/-- **An integer is one token.** -/
theorem spells_integer {value : Int} (low : Int64.minValue.toInt ≤ value)
    (high : value < UInt64.size) :
    Spells (Json.numberChars (.integer value)) [.number (some (.integer value))] := by
  have numeral := Numeral.ofChars?_repr value
  have token := ofWord?_of_numeral numeral
  rw [Numeral.value?_ofInt low high] at token
  refine spells_word ?_ (List.all_eq_true.mpr fun c mem => isWordChar_of_mem_repr mem) token
  intro empty
  change value.repr.toList = [] at empty
  rw [empty] at numeral
  cases numeral

/-! ### Quoted texts -/

/-- A backslash and a letter name a character. -/
theorem scanFrom?_short {letter named : Char} (h : Escape.short? letter = some named)
    (other : letter ≠ 'u') (read : List Piece) (rest : List Symbol) :
    scanFrom? (.quoted read) (some '\\' :: some letter :: rest)
      = scanFrom? (.quoted (.char named :: read)) rest := by
  have opens : step? (.quoted read) (some '\\') = some ([], .escape read) := rfl
  have closes : step? (.escape read) (some letter) = some ([], .quoted (.char named :: read)) := by
    simp [step?, other, h]
  rw [scanFrom?_silent opens, scanFrom?_silent closes]

/-- A backslash, `u` and four digits name a character by its number; here the first two are zero. -/
theorem scanFrom?_unit {a b : Char} {high low : Nat} (ha : Escape.hexDigit? a = some high)
    (hb : Escape.hexDigit? b = some low) (read : List Piece) (rest : List Symbol) :
    scanFrom? (.quoted read) (some '\\' :: some 'u' :: some '0' :: some '0' :: some a :: some b :: rest)
      = scanFrom? (.quoted (.unit (high * 16 + low) :: read)) rest := by
  have opens : step? (.quoted read) (some '\\') = some ([], .escape read) := rfl
  have named : step? (.escape read) (some 'u') = some ([], .unit read []) := rfl
  have first : step? (.unit read []) (some '0') = some ([], .unit read [0]) := rfl
  have second : step? (.unit read [0]) (some '0') = some ([], .unit read [0, 0]) := rfl
  have third : step? (.unit read [0, 0]) (some a) = some ([], .unit read [high, 0, 0]) := by
    simp [step?, ha]
  have fourth : step? (.unit read [high, 0, 0]) (some b)
      = some ([], .quoted (.unit (high * 16 + low) :: read)) := by
    simp [step?, hb, unitOfDigits]
  rw [scanFrom?_silent opens, scanFrom?_silent named, scanFrom?_silent first,
    scanFrom?_silent second, scanFrom?_silent third, scanFrom?_silent fourth]

/-- **A character inside quotes becomes one piece that stands for it.** -/
theorem exists_piece (c : Char) : ∃ piece : Piece, piece.IsFor c ∧
    ∀ (read : List Piece) (rest : List Symbol),
      scanFrom? (.quoted read) ((Escape.encodeChar c).map some ++ rest)
        = scanFrom? (.quoted (piece :: read)) rest := by
  unfold Escape.encodeChar
  split
  · exact ⟨_, .char _, scanFrom?_short rfl (by decide)⟩
  · exact ⟨_, .char _, scanFrom?_short rfl (by decide)⟩
  · exact ⟨_, .char _, scanFrom?_short rfl (by decide)⟩
  · exact ⟨_, .char _, scanFrom?_short rfl (by decide)⟩
  · exact ⟨_, .char _, scanFrom?_short rfl (by decide)⟩
  · exact ⟨_, .char _, scanFrom?_short rfl (by decide)⟩
  · exact ⟨_, .char _, scanFrom?_short rfl (by decide)⟩
  · rename_i quote backslash _ _ _ _ _
    by_cases control : c.toNat < 0x20
    · have high := Escape.hexDigit?_hexDigit (c.toNat / 16) (by omega)
      have low := Escape.hexDigit?_hexDigit (c.toNat % 16) (by omega)
      have whole : c.toNat / 16 * 16 + c.toNat % 16 = c.toNat := by omega
      refine ⟨.unit c.toNat, .unit control, fun read rest => ?_⟩
      have scanned := scanFrom?_unit high low read rest
      rw [whole] at scanned
      rw [if_pos control]
      exact scanned
    · refine ⟨.char c, .char c, fun read rest => ?_⟩
      have here : step? (.quoted read) (some c) = some ([], .quoted (.char c :: read)) := by
        have notQuote : c ≠ '"' := quote
        have notBackslash : c ≠ '\\' := backslash
        simp [step?, notQuote, notBackslash, control]
      rw [if_neg control]
      exact scanFrom?_silent here

/-- The characters of a quoted text become pieces that stand for them. -/
theorem exists_pieces (text : List Char) : ∃ pieces, List.Forall₂ Piece.IsFor pieces text ∧
    ∀ (read : List Piece) (rest : List Symbol),
      scanFrom? (.quoted read) ((Escape.encode text).map some ++ rest)
        = scanFrom? (.quoted (pieces.reverse ++ read)) rest := by
  induction text with
  | nil => exact ⟨[], .nil, fun _ _ => rfl⟩
  | cons c text ih =>
    obtain ⟨piece, isFor, scanned⟩ := exists_piece c
    obtain ⟨pieces, areFor, scannedRest⟩ := ih
    refine ⟨piece :: pieces, .cons isFor areFor, fun read rest => ?_⟩
    rw [Escape.encode, List.flatMap_cons, List.map_append, List.append_assoc, scanned]
    exact (scannedRest _ _).trans (by simp)

/-- **A text in quotes is one token**, whatever its characters and whatever follows. -/
theorem completes_quoted (text : String) :
    Completes (Json.quoted text) [.string (some text)] := by
  intro rest
  obtain ⟨pieces, areFor, scanned⟩ := exists_pieces text.toList
  have opens : step? .gap (some '"') = some ([], .quoted []) := rfl
  have closes : step? (.quoted (pieces.reverse ++ [])) (some '"') = some ([.string (some text)], .gap) := by
    simp [step?, Piece.text?_of_isFor areFor]
  have split : (Json.quoted text).map some ++ rest
      = some '"' :: ((Escape.encode text.toList).map some ++ some '"' :: rest) := by
    simp [Json.quoted]
  rw [split, scanFrom?_silent opens, scanned, scanFrom?, closes]

end Token

namespace Json

/-! ### The tokens of a value -/

mutual

/-- **The tokens of a value's text.** -/
def tokens : Json → List Token
  | .null => [.null]
  | .bool value => [.bool value]
  | .number value => [.number (some value)]
  | .string value => [.string (some value)]
  | .array items => .openArray :: (itemTokens true items ++ [.closeArray])
  | .object members => .openObject :: (memberTokens true members ++ [.closeObject])
  | .defect => [.null]

/-- The tokens of the items of an array; a comma stands in front of all but the first. -/
def itemTokens : Bool → List Json → List Token
  | _, [] => []
  | first, item :: items =>
    (if first then [] else [.comma]) ++ (tokens item ++ itemTokens false items)

/-- The tokens of the members of an object; a comma stands in front of all but the first. -/
def memberTokens : Bool → Members → List Token
  | _, [] => []
  | first, (key, value) :: members =>
    (if first then [] else [.comma])
      ++ (.string (some key) :: .colon :: tokens value ++ memberTokens false members)

end

/-- **A value that its text tells all about**: its numbers are integers of at most 64 bits, no part
of it is a defect, and at most `depth` containers stand around each other. -/
inductive IsExact : Nat → Json → Prop
  | null {depth : Nat} : IsExact depth .null
  | bool {depth : Nat} (value : Bool) : IsExact depth (.bool value)
  | integer {depth : Nat} {value : Int} (low : Int64.minValue.toInt ≤ value)
    (high : value < UInt64.size) : IsExact depth (.number (.integer value))
  | string {depth : Nat} (value : String) : IsExact depth (.string value)
  | array {depth : Nat} {items : List Json} (h : ∀ item ∈ items, IsExact depth item) :
    IsExact (depth + 1) (.array items)
  | object {depth : Nat} {members : Members} (h : ∀ member ∈ members, IsExact depth member.2) :
    IsExact (depth + 1) (.object members)

/-- The items behind the first, and the end of the array, begin with a sign. -/
theorem isBoundary_itemChars {items : List Json} {rest : List Symbol} (h : Token.IsBoundary rest) :
    Token.IsBoundary ((itemChars false items).map some ++ rest) := by
  cases items with
  | nil => simpa [itemChars] using h
  | cons item items => exact Token.isBoundary_cons (by decide) _

theorem isBoundary_memberChars {members : Members} {rest : List Symbol}
    (h : Token.IsBoundary rest) :
    Token.IsBoundary ((memberChars false members).map some ++ rest) := by
  cases members with
  | nil => simpa [memberChars] using h
  | cons member members => exact Token.isBoundary_cons (by decide) _

/-- The comma in front of all but the first. -/
theorem completes_comma (first : Bool) :
    Token.Completes (if first then [] else [',']) (if first then [] else [.comma]) := by
  cases first with
  | true => exact Token.completes_nil
  | false => exact Token.completes_sign rfl

theorem spells_itemChars {items : List Json}
    (h : ∀ item ∈ items, Token.Spells (chars item) (tokens item)) (first : Bool) :
    Token.Spells (itemChars first items) (itemTokens first items) := by
  induction items generalizing first with
  | nil => exact Token.completes_nil.spells
  | cons item items ih =>
    have here := h item List.mem_cons_self
    have later := ih (fun other mem => h other (List.mem_cons_of_mem item mem)) false
    have both := here.append later fun rest => isBoundary_itemChars
    rw [itemChars, List.append_assoc]
    exact (completes_comma first).append both

theorem spells_memberChars {members : Members}
    (h : ∀ member ∈ members, Token.Spells (chars member.2) (tokens member.2)) (first : Bool) :
    Token.Spells (memberChars first members) (memberTokens first members) := by
  induction members generalizing first with
  | nil => exact Token.completes_nil.spells
  | cons member members ih =>
    obtain ⟨key, value⟩ := member
    have here := h (key, value) List.mem_cons_self
    have later := ih (fun other mem => h other (List.mem_cons_of_mem _ mem)) false
    have both := here.append later fun rest => isBoundary_memberChars
    have colon := (Token.completes_sign (c := ':') rfl).append both
    have named := (Token.completes_quoted key).append colon
    have all := (completes_comma first).append named
    simpa [memberChars, memberTokens] using all

/-- **The text of a value spells the tokens of the value.** -/
theorem IsExact.spells {depth : Nat} {value : Json} (h : IsExact depth value) :
    Token.Spells value.chars value.tokens := by
  induction h with
  | null => exact Token.spells_null
  | bool value =>
    cases value with
    | true => exact Token.spells_true
    | false => exact Token.spells_false
  | integer low high => exact Token.spells_integer low high
  | string value => exact (Token.completes_quoted value).spells
  | array _ ih =>
    have items := spells_itemChars ih true
    have closed := items.append_completes (Token.completes_sign (c := ']') rfl)
      fun rest => Token.isBoundary_cons (by decide) _
    exact (Token.completes_sign (c := '[') rfl).append closed.spells
  | object _ ih =>
    have members := spells_memberChars ih true
    have closed := members.append_completes (Token.completes_sign (c := '}') rfl)
      fun rest => Token.isBoundary_cons (by decide) _
    exact (Token.completes_sign (c := '{') rfl).append closed.spells

/-- **The tokens of the text of a value are the tokens of the value.** -/
theorem IsExact.scan?_chars {depth : Nat} {value : Json} (h : IsExact depth value) :
    Token.scan? (value.chars.map some) = some value.tokens := by
  have scanned := h.spells [] nofun
  simpa [Token.scan?, Token.scanFrom?, Token.finish?] using scanned

end Json

end OrderHerald
