import PageNotes.Yaml.Kind
import PageNotes.Yaml.Lexer

/-!
The tree of a YAML document. Aliases stand for the nodes that their anchors name, and every tag is
read as the kind of value it names.

* `Yaml.Node`: scalars, sequences and mappings with their kinds;
* `Yaml.Document.ofTokens?`: the one document among some tokens.
-/

namespace PageNotes.Yaml

/-- A node of a document. -/
inductive Node where
  | scalar (kind : Kind) (content : Text)
  | sequence (kind : Kind) (items : List Node)
  | mapping (kind : Kind) (members : List (Node × Node))
  /-- A node that this one is a part of. -/
  | enclosing

/-- A scalar where nothing stands. -/
def Node.nothing : Node := .scalar .null []

/-- What is left to read, the nodes that anchors name, and whether a node is a part of itself. A
node has its name before it has been read. -/
structure Reading where
  tokens : List Token
  anchors : List (Text × Option Node) := []
  endless : Bool := false

namespace Reading

/-- Past a token. -/
def next (r : Reading) : Reading := { r with tokens := r.tokens.drop 1 }

/-- Whether the next token is one of some. -/
def isAt (r : Reading) (tokens : List Token) : Bool := r.tokens.head?.any (tokens.contains ·)

/-- The node that an alias stands for. -/
def alias? (r : Reading) (name : Text) : Option (Node × Reading) :=
  match r.anchors.lookup name with
  | some (some node) => some (node, r.next)
  | some none => some (.enclosing, { r.next with endless := true })
  | none => none

/-- Past a token if it comes next. -/
def take? (r : Reading) (token : Token) : Option Reading :=
  if r.isAt [token] then some r.next else none

end Reading

/-! ### What stands before a node -/

/-- The anchor and the tag of a node. -/
structure Properties where
  anchor : Option Text := none
  tag : Option Text := none

/-- The handles of tags and what they stand for. -/
abbrev Handles := List (Text × Text)

/-- What the handles stand for that every document has. -/
def standardHandles : Handles := [(['!'], ['!']), (['!', '!'], tagStart)]

/-- A tag in full; none if its handle stands for nothing. -/
def fullTag? (handles : Handles) (handle : Option Text) (rest : Text) : Option Text :=
  match handle with
  | none => some rest
  | some handle => (handles.lookup handle).map (· ++ rest)

/-- An anchor and a tag in either order. -/
def properties? (handles : Handles) : List Token → Option (Properties × List Token)
  | .anchor a :: .tag h rest :: ts => (fullTag? handles h rest).map fun t => (⟨some a, some t⟩, ts)
  | .tag h rest :: .anchor a :: ts => (fullTag? handles h rest).map fun t => (⟨some a, some t⟩, ts)
  | .anchor a :: ts => some (⟨some a, none⟩, ts)
  | .tag h rest :: ts => (fullTag? handles h rest).map fun t => (⟨none, some t⟩, ts)
  | ts => some ({}, ts)

/-- Whether there is no tag, or one that says nothing. -/
def Properties.untagged (p : Properties) : Bool := p.tag = none || p.tag = some ['!']

/-- The kind of a scalar. -/
def Properties.scalarKind (p : Properties) (plain : Bool) (content : Text) : Kind :=
  match p.tag with
  | none => if plain then .ofPlain content else .text
  | some ['!'] => .ofPlain content
  | some tag => .ofTag tag

/-- The kind of a node with parts. -/
def Properties.kind (p : Properties) (standard : Kind) : Kind :=
  match p.tag with
  | some tag => if p.untagged then standard else .ofTag tag
  | none => standard

/-- Gives what has been read of a node the name of its anchor. -/
def Properties.name (p : Properties) (node : Option Node) (r : Reading) : Reading :=
  match p.anchor with
  | some anchor => { r with anchors := (anchor, node) :: r.anchors }
  | none => r

/-! ### Nodes -/

/-- Where a node stands: in a block, as a part of a block mapping, where a sequence need not be
indented, or between brackets. -/
inductive Place where
  | block
  | member
  | flow
  deriving DecidableEq

mutual
/-- The node that begins here. -/
def node? (handles : Handles) (place : Place) (fuel : Nat) (r : Reading) :
    Option (Node × Reading) :=
  match fuel with
  | 0 => none
  | fuel + 1 =>
    match r.tokens with
    | .alias name :: _ => r.alias? name
    | tokens =>
      match properties? handles tokens with
      | none => none
      | some (p, tokens) =>
        if p.anchor.any fun name => (r.anchors.lookup name).isSome then none
        else
          let r := p.name none { r with tokens }
          let found : Option (Node × Reading) :=
            match tokens with
            | .scalar plain content :: _ =>
              some (.scalar (p.scalarKind plain content) content, r.next)
            | .openSequence :: _ =>
              (flowItems? handles fuel r.next).map fun (items, r) =>
                (.sequence (p.kind .list) items, r)
            | .openMapping :: _ =>
              (flowMembers? handles fuel r.next).map fun (members, r) =>
                (.mapping (p.kind .mapping) members, r)
            | token :: _ =>
              if token = .dash && place = .member then
                (looseItems? handles fuel r).map fun (items, r) =>
                  (.sequence (p.kind .list) items, r)
              else if token = .blockSequence && place ≠ .flow then
                (blockItems? handles fuel r.next).map fun (items, r) =>
                  (.sequence (p.kind .list) items, r)
              else if token = .blockMapping && place ≠ .flow then
                (blockMembers? handles fuel r.next).map fun (members, r) =>
                  (.mapping (p.kind .mapping) members, r)
              else if p.anchor.isSome || p.tag.isSome then
                some (.scalar (p.scalarKind true []) [], r)
              else none
            | [] => none
          found.map fun (node, r) => (node, p.name (some node) r)

/-- The node that begins here, or nothing before some tokens. -/
def nodeBefore? (handles : Handles) (place : Place) (ends : List Token) (fuel : Nat) (r : Reading) :
    Option (Node × Reading) :=
  match fuel with
  | 0 => none
  | fuel + 1 => if r.isAt ends then some (.nothing, r) else node? handles place fuel r

/-- A value behind its sign, or nothing if the sign is missing. -/
def value? (handles : Handles) (place : Place) (ends : List Token) (fuel : Nat) (r : Reading) :
    Option (Node × Reading) :=
  match fuel with
  | 0 => none
  | fuel + 1 =>
    if r.isAt [.value] then nodeBefore? handles place ends fuel r.next else some (.nothing, r)

/-- The items of a block sequence up to its end. -/
def blockItems? (handles : Handles) (fuel : Nat) (r : Reading) : Option (List Node × Reading) :=
  match fuel with
  | 0 => none
  | fuel + 1 =>
    if r.isAt [.dash] then
      match nodeBefore? handles .block [.dash, .blockEnd] fuel r.next with
      | some (item, r) => (blockItems? handles fuel r).map fun (items, r) => (item :: items, r)
      | none => none
    else (r.take? .blockEnd).map fun r => ([], r)

/-- The items of a sequence that is not indented. -/
def looseItems? (handles : Handles) (fuel : Nat) (r : Reading) : Option (List Node × Reading) :=
  match fuel with
  | 0 => none
  | fuel + 1 =>
    if r.isAt [.dash] then
      match nodeBefore? handles .block [.dash, .key, .value, .blockEnd] fuel r.next with
      | some (item, r) => (looseItems? handles fuel r).map fun (items, r) => (item :: items, r)
      | none => none
    else some ([], r)

/-- The members of a block mapping up to its end. -/
def blockMembers? (handles : Handles) (fuel : Nat) (r : Reading) :
    Option (List (Node × Node) × Reading) :=
  match fuel with
  | 0 => none
  | fuel + 1 =>
    if r.isAt [.key] then
      let ends := [Token.key, .value, .blockEnd]
      match nodeBefore? handles .member ends fuel r.next with
      | some (key, r) =>
        match value? handles .member ends fuel r with
        | some (value, r) =>
          (blockMembers? handles fuel r).map fun (members, r) => ((key, value) :: members, r)
        | none => none
      | none => none
    else (r.take? .blockEnd).map fun r => ([], r)

/-- One item between brackets; a key and a value there are a mapping of one member. -/
def flowItem? (handles : Handles) (fuel : Nat) (r : Reading) : Option (Node × Reading) :=
  match fuel with
  | 0 => none
  | fuel + 1 =>
    if r.isAt [.key] then
      match nodeBefore? handles .flow [.value, .comma, .closeSequence] fuel r.next with
      | some (key, r) =>
        (value? handles .flow [.comma, .closeSequence] fuel r).map fun (value, r) =>
          (.mapping .mapping [(key, value)], r)
      | none => none
    else node? handles .flow fuel r

/-- The items between brackets up to the closing one. -/
def flowItems? (handles : Handles) (fuel : Nat) (r : Reading) : Option (List Node × Reading) :=
  match fuel with
  | 0 => none
  | fuel + 1 =>
    if r.isAt [.closeSequence] then some ([], r.next)
    else match flowItem? handles fuel r with
      | some (item, r) =>
        if r.isAt [.comma] then
          (flowItems? handles fuel r.next).map fun (items, r) => (item :: items, r)
        else (r.take? .closeSequence).map fun r => ([item], r)
      | none => none

/-- One member between braces; without a sign it is a key alone. -/
def flowMember? (handles : Handles) (fuel : Nat) (r : Reading) : Option ((Node × Node) × Reading) :=
  match fuel with
  | 0 => none
  | fuel + 1 =>
    if r.isAt [.key] then
      match nodeBefore? handles .flow [.value, .comma, .closeMapping] fuel r.next with
      | some (key, r) =>
        (value? handles .flow [.comma, .closeMapping] fuel r).map fun (value, r) =>
          ((key, value), r)
      | none => none
    else (node? handles .flow fuel r).map fun (key, r) => ((key, .nothing), r)

/-- The members between braces up to the closing one. -/
def flowMembers? (handles : Handles) (fuel : Nat) (r : Reading) :
    Option (List (Node × Node) × Reading) :=
  match fuel with
  | 0 => none
  | fuel + 1 =>
    if r.isAt [.closeMapping] then some ([], r.next)
    else match flowMember? handles fuel r with
      | some (member, r) =>
        if r.isAt [.comma] then
          (flowMembers? handles fuel r.next).map fun (members, r) => (member :: members, r)
        else (r.take? .closeMapping).map fun r => ([member], r)
      | none => none
end

/-! ### Documents -/

/-- The directives before a document: whether a version was named, and the handles. -/
def directives? (versioned : Bool) (handles : Handles) : List Token → Option (Handles × List Token)
  | .version major :: ts =>
    if versioned || major ≠ 1 then none else directives? true handles ts
  | .tagHandle handle uri :: ts =>
    if (handles.lookup handle).isSome then none
    else directives? versioned ((handle, uri) :: handles) ts
  | .otherDirective :: ts => directives? versioned handles ts
  | ts => some (handles, ts)

/-- Whether a token is a directive. -/
def Token.isDirective : Token → Bool
  | .version _ => true
  | .tagHandle _ _ => true
  | .otherDirective => true
  | _ => false

/-- The node of a document that its marks surround; nothing may stand there. -/
def markedNode? (ts : List Token) : Option (Node × Reading) :=
  match directives? false [] ts with
  | some (handles, .documentStart :: ts) =>
    let r : Reading := { tokens := ts }
    if r.isAt [.documentStart, .documentEnd, .finish] || ts.head?.any Token.isDirective then
      some (.nothing, r)
    else node? (handles ++ standardHandles) .block (4 * ts.length + 4) r
  | _ => none

/-- The node of a document, and whether some node there is a part of itself. -/
structure Document where
  root : Node
  endless : Bool := false

/-- The one document among some tokens: none is a document of nothing, more than one are
malformed. -/
def Document.ofTokens? (ts : List Token) : Option Document :=
  match ts with
  | [.finish] => some { root := .nothing }
  | _ =>
    let found :=
      if ts.head?.any fun t => t = .documentStart || t.isDirective then markedNode? ts
      else node? standardHandles .block (4 * ts.length + 4) { tokens := ts }
    match found with
    | some (node, r) =>
      if r.tokens.dropWhile (· = .documentEnd) = [.finish] then some ⟨node, r.endless⟩ else none
    | none => none

/-- The one document of a text. -/
def Document.ofText? (t : Text) : Option Document := (tokens? t).bind Document.ofTokens?

end PageNotes.Yaml
