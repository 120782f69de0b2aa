import OrderHerald.Yaml.Token

/-!
# YAML documents

The tree of a token list.  A block or a pair of brackets holds items or pairs of a key and a value; a
key or a value that is left out is an empty plain scalar.  An alias stands for the node that last had
its name in the text before it.

A text is a document only if it holds exactly one.  A part of it that lies within too many blocks and
brackets, or within itself by an alias, is out of reach: it does no harm where nobody looks.

* `Yaml.Node` — the trees, with the tags written at them.
* `Yaml.Node.bounded` — what lies within too many others is out of reach.
* `Yaml.Node.read?` — the document a text is; `none` inside for a text without a document.
-/

namespace OrderHerald.Yaml

/-- A node of a document. -/
inductive Node where
  | scalar (tag : Option String) (style : Style) (text : String)
  | sequence (tag : Option String) (items : List Node)
  | mapping (tag : Option String) (pairs : List (Node × Node))
  /-- A part that cannot be looked at. -/
  | outOfReach
  deriving Repr, Inhabited

namespace Node

/-- What is left out. -/
def missing : Node := .scalar none .plain ""

/-- What is known while a tree is read: the names of nodes, the latest first, and the short names of
tags. -/
structure Names where
  anchors : List (String × Node) := []
  handles : List (String × String) := []
  deriving Repr

/-- The beginnings of tags that need no directive. -/
def defaultHandles : List (String × String) :=
  [("", ""), ("!", "!"), ("!!", "tag:yaml.org,2002:")]

/-- A reading step: what it finds, what is known after it, and the tokens left. -/
abbrev Step (α : Type) := Option (α × Names × List Token)

/-- The tag and the name in front of a node, in either order, each at most once. -/
def properties (tokens : List Token) : Option (String × String) × Option String × List Token :=
  match tokens with
  | .anchor name :: .tag handle text :: rest => (some (handle, text), some name, rest)
  | .tag handle text :: .anchor name :: rest => (some (handle, text), some name, rest)
  | .anchor name :: rest => (none, some name, rest)
  | .tag handle text :: rest => (some (handle, text), none, rest)
  | rest => (none, none, rest)

/-- The full tag of a short one; `none` inside if there is no tag. -/
def fullTag? (names : Names) : Option (String × String) → Option (Option String)
  | none => some none
  | some (handle, text) =>
    ((names.handles ++ defaultHandles).lookup handle).map fun beginning => some (beginning ++ text)

/-- Remembers a node under its name. -/
def remember (names : Names) (anchor : Option String) (node : Node) : Names :=
  match anchor with
  | none => names
  | some name => { names with anchors := (name, node) :: names.anchors }

/-- The same node with a tag. -/
def withTag (tag : Option String) : Node → Node
  | .scalar _ style text => .scalar tag style text
  | .sequence _ items => .sequence tag items
  | .mapping _ pairs => .mapping tag pairs
  | .outOfReach => .outOfReach

mutual

/-- **A nesting limit**: blocks and brackets with `depth` others around them are out of reach. -/
def bounded : Nat → Node → Node
  | 0, .sequence _ _ => .outOfReach
  | 0, .mapping _ _ => .outOfReach
  | depth + 1, .sequence tag items => .sequence tag (boundedItems depth items)
  | depth + 1, .mapping tag pairs => .mapping tag (boundedPairs depth pairs)
  | _, node => node

/-- The limit on the items of a sequence. -/
def boundedItems : Nat → List Node → List Node
  | _, [] => []
  | depth, item :: items => bounded depth item :: boundedItems depth items

/-- The limit on the pairs of a mapping. -/
def boundedPairs : Nat → List (Node × Node) → List (Node × Node)
  | _, [] => []
  | depth, (key, value) :: pairs =>
    (bounded depth key, bounded depth value) :: boundedPairs depth pairs

end

/-- The next token ends a part of a pair in a block. -/
def endsBlockPart : List Token → Bool
  | .key :: _ | .value :: _ | .blockEnd :: _ => true
  | _ => false

mutual

/-- A node.  `block` allows blocks, `bare` allows items without a block of their own. -/
def node? : Nat → Bool → Bool → Names → List Token → Step Node
  | 0, _, _, _, _ => none
  | _ + 1, _, _, names, .alias name :: rest =>
    (names.anchors.lookup name).map fun node => (node, names, rest)
  | fuel + 1, block, bare, names, tokens =>
    match properties tokens with
    | (shortTag, anchor, tokens) =>
      match fullTag? names shortTag with
      | none => none
      | some tag =>
        let inside := remember names anchor .outOfReach
        match body? fuel block bare (shortTag.isSome || anchor.isSome) inside tokens with
        | none => none
        | some (node, names, rest) =>
          let node := withTag tag node
          some (node, remember names anchor node, rest)

/-- A node without its tag and name. -/
def body? : Nat → Bool → Bool → Bool → Names → List Token → Step Node
  | 0, _, _, _, _, _ => none
  | fuel + 1, block, bare, optional, names, tokens =>
    match tokens with
    | .scalar style text :: rest => some (.scalar none style text, names, rest)
    | .openSequence :: rest =>
      (flowItems? fuel true names rest).map fun (items, names, rest) =>
        (.sequence none items, names, rest)
    | .openMapping :: rest =>
      (flowPairs? fuel true names rest).map fun (pairs, names, rest) =>
        (.mapping none pairs, names, rest)
    | .blockSequence :: rest =>
      if block then
        (blockItems? fuel names rest).map fun (items, names, rest) =>
          (.sequence none items, names, rest)
      else if optional then some (missing, names, tokens) else none
    | .blockMapping :: rest =>
      if block then
        (blockPairs? fuel names rest).map fun (pairs, names, rest) =>
          (.mapping none pairs, names, rest)
      else if optional then some (missing, names, tokens) else none
    | .item :: _ =>
      if bare then
        (bareItems? fuel names tokens).map fun (items, names, rest) =>
          (.sequence none items, names, rest)
      else if optional then some (missing, names, tokens) else none
    | _ => if optional then some (missing, names, tokens) else none

/-- The items of a block. -/
def blockItems? : Nat → Names → List Token → Step (List Node)
  | 0, _, _ => none
  | _ + 1, names, .blockEnd :: rest => some ([], names, rest)
  | fuel + 1, names, .item :: rest =>
    let first : Step Node := match rest with
      | .item :: _ | .blockEnd :: _ => some (missing, names, rest)
      | _ => node? fuel true false names rest
    match first with
    | none => none
    | some (node, names, rest) =>
      (blockItems? fuel names rest).map fun (items, names, rest) => (node :: items, names, rest)
  | _ + 1, _, _ => none

/-- Items without a block of their own. -/
def bareItems? : Nat → Names → List Token → Step (List Node)
  | 0, _, _ => none
  | fuel + 1, names, .item :: rest =>
    let first : Step Node := match rest with
      | .item :: _ | .key :: _ | .value :: _ | .blockEnd :: _ => some (missing, names, rest)
      | _ => node? fuel true false names rest
    match first with
    | none => none
    | some (node, names, rest) =>
      (bareItems? fuel names rest).map fun (items, names, rest) => (node :: items, names, rest)
  | _ + 1, names, rest => some ([], names, rest)

/-- A key or a value in a block. -/
def blockPart? : Nat → Names → List Token → Step Node
  | 0, _, _ => none
  | fuel + 1, names, rest =>
    if endsBlockPart rest then some (missing, names, rest) else node? fuel true true names rest

/-- The pairs of a block. -/
def blockPairs? : Nat → Names → List Token → Step (List (Node × Node))
  | 0, _, _ => none
  | _ + 1, names, .blockEnd :: rest => some ([], names, rest)
  | fuel + 1, names, .key :: rest =>
    match blockPart? fuel names rest with
    | none => none
    | some (key, names, rest) =>
      let value : Step Node := match rest with
        | .value :: rest => blockPart? fuel names rest
        | _ => some (missing, names, rest)
      match value with
      | none => none
      | some (value, names, rest) =>
        (blockPairs? fuel names rest).map fun (pairs, names, rest) =>
          ((key, value) :: pairs, names, rest)
  | _ + 1, _, _ => none

/-- The items between brackets; a pair among them is a mapping of its own. -/
def flowItems? : Nat → Bool → Names → List Token → Step (List Node)
  | 0, _, _, _ => none
  | _ + 1, _, names, .closeSequence :: rest => some ([], names, rest)
  | fuel + 1, first, names, tokens =>
    let tokens? : Option (List Token) :=
      if first then some tokens
      else match tokens with
        | .comma :: rest => some rest
        | _ => none
    match tokens? with
    | none => none
    | some (.closeSequence :: rest) => some ([], names, rest)
    | some tokens =>
      let item : Step Node := match tokens with
        | .key :: rest =>
          match flowPair? fuel names rest with
          | some (pair, names, rest) => some (.mapping none [pair], names, rest)
          | none => none
        | _ => node? fuel false false names tokens
      match item with
      | none => none
      | some (node, names, rest) =>
        (flowItems? fuel false names rest).map fun (items, names, rest) =>
          (node :: items, names, rest)

/-- A key or a value between brackets, or nothing in its place. -/
def flowPart? : Nat → Names → List Token → Step Node
  | 0, _, _ => none
  | fuel + 1, names, rest =>
    match rest with
    | .value :: _ | .comma :: _ | .closeSequence :: _ | .closeMapping :: _ =>
      some (missing, names, rest)
    | _ => node? fuel false false names rest

/-- A pair between brackets, after the mark of its key. -/
def flowPair? : Nat → Names → List Token → Step (Node × Node)
  | 0, _, _ => none
  | fuel + 1, names, tokens =>
    match flowPart? fuel names tokens with
    | none => none
    | some (key, names, rest) =>
      match rest with
      | .value :: rest =>
        (flowPart? fuel names rest).map fun (value, names, rest) => ((key, value), names, rest)
      | _ => some ((key, missing), names, rest)

/-- The pairs between braces; a key may stand alone. -/
def flowPairs? : Nat → Bool → Names → List Token → Step (List (Node × Node))
  | 0, _, _, _ => none
  | _ + 1, _, names, .closeMapping :: rest => some ([], names, rest)
  | fuel + 1, first, names, tokens =>
    let tokens? : Option (List Token) :=
      if first then some tokens
      else match tokens with
        | .comma :: rest => some rest
        | _ => none
    match tokens? with
    | none => none
    | some (.closeMapping :: rest) => some ([], names, rest)
    | some tokens =>
      let pair : Step (Node × Node) := match tokens with
        | .key :: rest => flowPair? fuel names rest
        | _ =>
          (node? fuel false false names tokens).map fun (key, names, rest) =>
            ((key, missing), names, rest)
      match pair with
      | none => none
      | some (pair, names, rest) =>
        (flowPairs? fuel false names rest).map fun (pairs, names, rest) =>
          (pair :: pairs, names, rest)

end

/-- The directives in front of a document: at most one version, and short names for tags. -/
def directives? : Bool → List (String × String) → List Token →
    Option (List (String × String) × List Token)
  | versioned, handles, .version major minor :: rest =>
    if versioned || major ≠ 1 || (minor ≠ 1 && minor ≠ 2) then none
    else directives? true handles rest
  | versioned, handles, .tagHandle handle beginning :: rest =>
    if (handles.lookup handle).isSome then none
    else directives? versioned ((handle, beginning) :: handles) rest
  | _, handles, rest => some (handles, rest)

/-- The root of a document, empty where nothing stands. -/
def root? (names : Names) (tokens : List Token) : Option (Node × List Token) :=
  match tokens with
  | [] | .documentStart :: _ | .documentEnd :: _ | .version _ _ :: _ | .tagHandle _ _ :: _ =>
    some (missing, tokens)
  | _ => (node? (4 * tokens.length + 4) true false names tokens).map
      fun (node, _, rest) => (node, rest)

/-- The only document of a token list; `none` inside if there is no document. -/
def ofTokens? (tokens : List Token) : Option (Option Node) :=
  match tokens with
  | [] => some none
  | .version _ _ :: _ | .tagHandle _ _ :: _ | .documentStart :: _ =>
    match directives? false [] tokens with
    | some (handles, .documentStart :: rest) => closed? (root? { handles } rest)
    | _ => none
  | _ => closed? (root? {} tokens)
where
  /-- Nothing but end marks may follow. -/
  closed? : Option (Node × List Token) → Option (Option Node)
    | some (node, rest) => if rest.all (· = .documentEnd) then some (some node) else none
    | none => none

/-- How many blocks and brackets may stand around each other where somebody looks. -/
def nestingLimit : Nat := 128

/-- **The document a text is**, if it holds no more than one. -/
def read? (text : String) : Option (Option Node) :=
  ((scan? text).bind ofTokens?).map fun node => node.map (bounded nestingLimit)

end Node

end OrderHerald.Yaml
