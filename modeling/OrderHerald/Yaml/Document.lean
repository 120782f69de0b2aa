import OrderHerald.Document.Content
import OrderHerald.Json.Numeral
import OrderHerald.Yaml.Node

/-!
# YAML as a document format

Where a text is expected, every scalar is one, however it is written.  A number must be written
plainly.  A record is a mapping, a sequence of its fields, or nothing at all, which is a mapping
without members.

A value set aside has to say what it is by itself: a plain scalar is null, a truth value or a number
if it looks like one, and a text otherwise.

* `Yaml.unsigned?`, `Yaml.negative?` — integers in decimal or with a prefix for their base.
* `Yaml.resolve?` — what a plain scalar says by itself.
-/

namespace OrderHerald.Yaml

/-! ### Numbers -/

/-- The digits of a number in a base, at least one. -/
def inBase? (base : Nat) (text : List Char) : Option Nat :=
  if text.isEmpty then none
  else
    (text.mapM fun c => (Escape.hexDigit? c).bind fun d => if d < base then some d else none).map
      fun ds => ds.foldl (fun n d => n * base + d) 0

/-- A number after a prefix for its base. -/
def prefixed? : List Char → Option Nat
  | '0' :: 'x' :: rest => inBase? 16 rest
  | '0' :: 'o' :: rest => inBase? 8 rest
  | '0' :: 'b' :: rest => inBase? 2 rest
  | _ => none

/-- Zeros in front of further digits make a text of a number. -/
def hasLeadingZero (text : List Char) : Bool :=
  let digits := match text with
    | '-' :: rest => rest
    | '+' :: rest => rest
    | other => other
  match digits with
  | '0' :: c :: rest => (c :: rest).all Char.isDigit
  | _ => false

/-- A number without a sign, or with a plus sign, below a bound. -/
def unsigned? (bound : Nat) (text : List Char) : Option Nat :=
  let magnitude := match text with
    | '+' :: rest => rest
    | other => other
  match prefixed? magnitude with
  | some n => if n < bound then some n else none
  | none =>
    if hasLeadingZero text then none
    else (inBase? 10 magnitude).bind fun n => if n < bound then some n else none

/-- A number with a minus sign, down to `-bound`. -/
def negative? (bound : Nat) (text : List Char) : Option Int :=
  match text with
  | '-' :: magnitude =>
    let found := match prefixed? magnitude with
      | some n => some n
      | none => if hasLeadingZero text then none else inBase? 10 magnitude
    found.bind fun n => if n ≤ bound then some (-n : Int) else none
  | _ => none

/-- The digits of a number with a fraction or an exponent: digits, a power of ten. -/
def decimal? (text : List Char) : Option (Nat × Int) :=
  let (whole, rest) := (text.takeWhile Char.isDigit, text.dropWhile Char.isDigit)
  let (fraction, rest) := match rest with
    | '.' :: more => (more.takeWhile Char.isDigit, more.dropWhile Char.isDigit)
    | other => ([], other)
  let exponent? : Option Int := match rest with
    | [] => some 0
    | c :: more =>
      if c = 'e' || c = 'E' then
        match more with
        | '+' :: digits => (inBase? 10 digits).map fun n => (n : Int)
        | '-' :: digits => (inBase? 10 digits).map fun n => -(n : Int)
        | digits => (inBase? 10 digits).map fun n => (n : Int)
      else none
  if whole.isEmpty && fraction.isEmpty then none
  else
    exponent?.map fun e =>
      ((whole ++ fraction).foldl (fun n d => n * 10 + (d.toNat - '0'.toNat)) 0, e - fraction.length)

/-- A decimal as a double, if it is finite. -/
def finite? (digits : Nat) (exponent : Int) : Option Float :=
  let f :=
    if digits = 0 then 0.0
    else if exponent > 400 then Float.ofScientific 1 false 400
    else if exponent < -100000 then 0.0
    else Float.ofScientific digits (exponent < 0) exponent.natAbs
  if f.isInf || f.isNaN then none else some f

/-- The double a plain scalar is. -/
def double? (text : List Char) : Option Float :=
  let unpositive? := match text with
    | '+' :: '+' :: _ => none
    | '+' :: '-' :: _ => none
    | '+' :: rest => some rest
    | other => some other
  match unpositive? with
  | none => none
  | some unpositive =>
    if [".inf", ".Inf", ".INF"].contains (String.ofList unpositive) then some (1.0 / 0.0)
    else if ["-.inf", "-.Inf", "-.INF"].contains (String.ofList text) then some (-1.0 / 0.0)
    else if [".nan", ".NaN", ".NAN"].contains (String.ofList text) then some (0.0 / 0.0)
    else
      match unpositive with
      | '-' :: magnitude =>
        (decimal? magnitude).bind fun (n, e) => (finite? n e).map fun f => -f
      | magnitude => (decimal? magnitude).bind fun (n, e) => finite? n e

/-- The ways to write that there is no value. -/
def isNullText (text : String) : Bool := ["", "~", "null", "Null", "NULL"].contains text

/-- The ways to write a truth value. -/
def truth? (text : String) : Option Bool :=
  if ["true", "True", "TRUE"].contains text then some true
  else if ["false", "False", "FALSE"].contains text then some false
  else none

/-- The integer a plain scalar is; `none` inside if it fits 128 bits but not 64, and is no value
that can be set aside. -/
def integer? (text : List Char) : Option (Option Int) :=
  match unsigned? UInt64.size text, negative? (1 <<< 63) text with
  | some n, _ => some (some n)
  | none, some n => some (some n)
  | none, none =>
    if (unsigned? (1 <<< 128) text).isSome || (negative? (1 <<< 127) text).isSome then some none
    else none

/-- **What a plain scalar says by itself**; `none` for an integer of more than 64 bits. -/
def resolve? (text : String) : Option Content :=
  if isNullText text then some .null
  else
    match truth? text, integer? text.toList with
    | some value, _ => some (.bool value)
    | none, some (some n) => some (.integer n)
    | none, some none => none
    | none, none =>
      if hasLeadingZero text.toList then some (.text text)
      else
        match double? text.toList with
        | some f => some (.double f.toBits)
        | none => some (.text text)

namespace Node

/-- The text of a scalar. -/
def text? : Node → Option String
  | .scalar _ _ text => some text
  | _ => none

/-- The node is a plain scalar without characters. -/
def isNothing : Node → Bool
  | .scalar _ .plain "" => true
  | _ => false

/-- The tag of integers. -/
def integerTag : String := "tag:yaml.org,2002:int"

/-- A natural number below a bound. -/
def natural? (bound : Nat) : Node → Option Nat
  | .scalar tag style text =>
    if style = .plain || (style = .literal && tag = some integerTag) then
      (unsigned? UInt64.size text.toList).bind fun n => if n < bound then some n else none
    else none
  | _ => none

/-- The members of a mapping by the names of their keys. -/
def members? (pairs : List (Node × Node)) : Option (List (FieldKey × Node)) :=
  pairs.mapM fun pair => (text? pair.1).map (.name ·, pair.2)

/-- The parts of a record. -/
def parts? (node : Node) : Option (Parts Node) :=
  match node with
  | .mapping _ pairs => (members? pairs).map .named
  | .sequence _ items => some (.placed items)
  | _ => if node.isNothing then some (.named []) else none

/-- The node says that there is no value. -/
def isNull : Node → Bool
  | .scalar _ .plain text => isNullText text
  | _ => false

instance : Document Node where
  parts? := parts?
  text? := text?
  natural? := natural?
  isNull := isNull

/-- A tag of the document's own. -/
def isLocal : Option String → Bool
  | some tag => tag.toList.head? = some '!' && tag ≠ "!"
  | none => false

/-- The name of a choice that holds nothing further: a scalar, or nothing under a tag of the
document's own. -/
def variant? : Node → Option String
  | .scalar tag style text =>
    match tag with
    | some name =>
      if isLocal tag then
        if style = .plain && isNullText text then some (String.ofList (name.toList.drop 1)) else none
      else some text
    | none => some text
  | _ => none

/-- What a scalar with a tag says. -/
def tagged? (tag : String) (style : Style) (text : String) : Option Content :=
  match tag with
  | "tag:yaml.org,2002:bool" => (truth? text).map .bool
  | "tag:yaml.org,2002:int" =>
    match integer? text.toList with
    | some (some n) => some (.integer n)
    | _ => none
  | "tag:yaml.org,2002:float" => (double? text.toList).map fun f => .double f.toBits
  | "tag:yaml.org,2002:null" => if isNullText text && text ≠ "" then some .null else none
  | "!" => if style = .plain then resolve? text else some (.text text)
  | _ => some (.text text)

mutual

/-- **The value set aside.**  Tags of the document's own have no meaning here. -/
def content? : Node → Option Content
  | .scalar tag style text =>
    match tag with
    | some name => if isLocal tag then none else tagged? name style text
    | none => if style = .plain then resolve? text else some (.text text)
  | .sequence tag items => if isLocal tag then none else (contentItems? items).map .list
  | .mapping tag pairs => if isLocal tag then none else (contentPairs? pairs).map .map
  | .outOfReach => none

/-- The items of a sequence, set aside. -/
def contentItems? : List Node → Option (List Content)
  | [] => some []
  | item :: items =>
    match content? item, contentItems? items with
    | some item, some items => some (item :: items)
    | _, _ => none

/-- The pairs of a mapping, set aside. -/
def contentPairs? : List (Node × Node) → Option (List (Content × Content))
  | [] => some []
  | (key, value) :: pairs =>
    match content? key, content? value, contentPairs? pairs with
    | some key, some value, some pairs => some ((key, value) :: pairs)
    | _, _, _ => none

end

/-- The bindings of a table whose keys are numbers. -/
def numbered? (node : Node) : Option (List (UInt64 × Node)) :=
  match node with
  | .mapping _ pairs =>
    pairs.mapM fun pair => (natural? UInt64.size pair.1).map fun n => (UInt64.ofNat n, pair.2)
  | _ => if node.isNothing then some [] else none

instance : SettingsDocument Node where
  variant? := variant?
  content? := content?
  numbered? := numbered?

end Node

end OrderHerald.Yaml
