/-
Module: StudyDesk.Yaml.Node
Purpose: A YAML text as a document: a tree of nodes.
Main exports:
  Yaml.Node, Yaml.document?
-/
import StudyDesk.Yaml.Token

namespace StudyDesk.Yaml

/-- A node of a document. -/
inductive Node where
  /-- A document without content. -/
  | nothing
  | scalar (tag : Option (List Char)) (style : Style) (text : List Char)
  | sequence (tag : Option (List Char)) (items : List Node)
  | mapping (tag : Option (List Char)) (pairs : List (Node × Node))
  /-- An alias for a node that it stands in itself. -/
  | cycle
deriving Repr, Inhabited

/-- An anchor's node; none while the node is still being read. -/
abbrev Anchors := List (List Char × Option Node)

/-- The expansions of tag handles. -/
abbrev Handles := List (List Char × List Char)

/-- What is left of the tokens, and the anchors set so far. -/
structure Remains where
  tokens : List Token
  anchors : Anchors

/-- An empty plain scalar, which stands where a node may be left out. -/
def emptyScalar : Node := .scalar none .plain []

/-- The expansions that need no directive. -/
def defaultHandles : Handles :=
  [(['!'], ['!']), (['!', '!'], "tag:yaml.org,2002:".toList)]

/-- A tag written out; none if its handle is unknown. -/
def expandTag? (handles : Handles) (handle suffix : List Char) : Option (List Char) :=
  if handle.isEmpty then some suffix else (handles.lookup handle).map (· ++ suffix)

/-- Anchor and tag in front of a node, in either order. -/
structure Properties where
  anchor : Option (List Char)
  tag : Option (List Char)

/-- The properties at the front of the tokens. -/
def properties? (handles : Handles) (tokens : List Token) : Option (Properties × List Token) :=
  match tokens with
  | .anchor a :: .tag h s :: rest => do some (⟨some a, some (← expandTag? handles h s)⟩, rest)
  | .anchor a :: rest => some (⟨some a, none⟩, rest)
  | .tag h s :: .anchor a :: rest => do some (⟨some a, some (← expandTag? handles h s)⟩, rest)
  | .tag h s :: rest => do some (⟨none, some (← expandTag? handles h s)⟩, rest)
  | rest => some (⟨none, none⟩, rest)

/-- Where a node stands, which decides the tokens that may start it. -/
inductive Position where
  | flow
  | block
  /-- After a key mark or value mark, where a sequence needs no indentation. -/
  | entry
deriving DecidableEq, Repr

/-- Whether the next token is one of those after which a node has been left out. -/
def isOmitted (stops : List Token) (tokens : List Token) : Bool :=
  match tokens with
  | t :: _ => stops.contains t
  | [] => true

mutual

/-- The node at the front of the tokens. -/
def node? (handles : Handles) : Nat → Position → Remains → Option (Node × Remains)
  | 0, _, _ => none
  | fuel + 1, position, r =>
      match r.tokens with
      | .alias name :: rest =>
          match r.anchors.lookup name with
          | some (some node) => some (node, { r with tokens := rest })
          | some none => some (.cycle, { r with tokens := rest })
          | none => none
      | tokens => do
          let (props, tokens) ← properties? handles tokens
          let opened : Anchors :=
            match props.anchor with
            | some name => (name, none) :: r.anchors
            | none => r.anchors
          let r : Remains := ⟨tokens, opened⟩
          let (node, r) ←
            match tokens with
            | .scalar style text :: rest =>
                some (Node.scalar props.tag style text, { r with tokens := rest })
            | .flowSequenceStart :: rest => do
                let (items, r) ← flowItems? handles fuel true { r with tokens := rest }
                some (Node.sequence props.tag items, r)
            | .flowMappingStart :: rest => do
                let (pairs, r) ← flowPairs? handles fuel true { r with tokens := rest }
                some (Node.mapping props.tag pairs, r)
            | .blockSequenceStart :: rest =>
                if position = .flow then none
                else do
                  let (items, r) ← blockItems? handles fuel { r with tokens := rest }
                  some (Node.sequence props.tag items, r)
            | .blockMappingStart :: rest =>
                if position = .flow then none
                else do
                  let (pairs, r) ← blockPairs? handles fuel { r with tokens := rest }
                  some (Node.mapping props.tag pairs, r)
            | rest =>
                if position = .entry && rest.head? = some .blockEntry then do
                  let (items, r) ← looseItems? handles fuel r
                  some (Node.sequence props.tag items, r)
                else if props.anchor.isSome || props.tag.isSome then
                  some (Node.scalar props.tag .plain [], r)
                else none
          match props.anchor with
          | some name => some (node, { r with anchors := (name, some node) :: r.anchors })
          | none => some (node, r)

/-- A node, or an empty scalar where it is left out. -/
def nodeOr? (handles : Handles) : Nat → Position → List Token → Remains → Option (Node × Remains)
  | 0, _, _, _ => none
  | fuel + 1, position, stops, r =>
      if isOmitted stops r.tokens then some (emptyScalar, r) else node? handles fuel position r

/-- The items of a block sequence, up to and with its end. -/
def blockItems? (handles : Handles) : Nat → Remains → Option (List Node × Remains)
  | 0, _ => none
  | fuel + 1, r =>
      match r.tokens with
      | .blockEntry :: rest => do
          let (item, r) ←
            nodeOr? handles fuel .block [.blockEntry, .blockEnd] { r with tokens := rest }
          let (items, r) ← blockItems? handles fuel r
          some (item :: items, r)
      | .blockEnd :: rest => some ([], { r with tokens := rest })
      | _ => none

/-- The items of a sequence that is not indented, up to whatever else follows. -/
def looseItems? (handles : Handles) : Nat → Remains → Option (List Node × Remains)
  | 0, _ => none
  | fuel + 1, r =>
      match r.tokens with
      | .blockEntry :: rest => do
          let (item, r) ←
            nodeOr? handles fuel .block [.blockEntry, .key, .value, .blockEnd]
              { r with tokens := rest }
          let (items, r) ← looseItems? handles fuel r
          some (item :: items, r)
      | _ => some ([], r)

/-- The pairs of a block mapping, up to and with its end. -/
def blockPairs? (handles : Handles) : Nat → Remains → Option (List (Node × Node) × Remains)
  | 0, _ => none
  | fuel + 1, r =>
      match r.tokens with
      | .key :: rest => do
          let stops := [Token.key, .value, .blockEnd]
          let (key, r) ← nodeOr? handles fuel .entry stops { r with tokens := rest }
          let (value, r) ←
            match r.tokens with
            | .value :: rest => nodeOr? handles fuel .entry stops { r with tokens := rest }
            | _ => some (emptyScalar, r)
          let (pairs, r) ← blockPairs? handles fuel r
          some ((key, value) :: pairs, r)
      | .blockEnd :: rest => some ([], { r with tokens := rest })
      | _ => none

/-- The items of a sequence in brackets, up to and with the closing one.  A key among them makes a
mapping of one pair. -/
def flowItems? (handles : Handles) : Nat → Bool → Remains → Option (List Node × Remains)
  | 0, _, _ => none
  | fuel + 1, isFirst, r =>
      match r.tokens with
      | .flowSequenceEnd :: rest => some ([], { r with tokens := rest })
      | tokens => do
          let tokens ←
            if isFirst then some tokens
            else
              match tokens with
              | .flowEntry :: rest => some rest
              | _ => none
          match tokens with
          | .flowSequenceEnd :: rest => some ([], { r with tokens := rest })
          | .key :: rest => do
              let (key, r) ←
                match rest with
                | .value :: _ => some (emptyScalar, { r with tokens := rest.drop 1 })
                | .flowEntry :: _ => some (emptyScalar, { r with tokens := rest.drop 1 })
                | .flowSequenceEnd :: _ => some (emptyScalar, { r with tokens := rest.drop 1 })
                | _ => node? handles fuel .flow { r with tokens := rest }
              let (value, r) ←
                match r.tokens with
                | .value :: rest =>
                    nodeOr? handles fuel .flow [.flowEntry, .flowSequenceEnd]
                      { r with tokens := rest }
                | _ => some (emptyScalar, r)
              let (items, r) ← flowItems? handles fuel false r
              some (.mapping none [(key, value)] :: items, r)
          | tokens => do
              let (item, r) ← node? handles fuel .flow { r with tokens := tokens }
              let (items, r) ← flowItems? handles fuel false r
              some (item :: items, r)

/-- The pairs of a mapping in braces, up to and with the closing one. -/
def flowPairs? (handles : Handles) : Nat → Bool → Remains → Option (List (Node × Node) × Remains)
  | 0, _, _ => none
  | fuel + 1, isFirst, r =>
      match r.tokens with
      | .flowMappingEnd :: rest => some ([], { r with tokens := rest })
      | tokens => do
          let tokens ←
            if isFirst then some tokens
            else
              match tokens with
              | .flowEntry :: rest => some rest
              | _ => none
          match tokens with
          | .flowMappingEnd :: rest => some ([], { r with tokens := rest })
          | .key :: rest => do
              let (key, r) ←
                nodeOr? handles fuel .flow [.value, .flowEntry, .flowMappingEnd]
                  { r with tokens := rest }
              let (value, r) ←
                match r.tokens with
                | .value :: rest =>
                    nodeOr? handles fuel .flow [.flowEntry, .flowMappingEnd]
                      { r with tokens := rest }
                | _ => some (emptyScalar, r)
              let (pairs, r) ← flowPairs? handles fuel false r
              some ((key, value) :: pairs, r)
          | tokens => do
              let (key, r) ← node? handles fuel .flow { r with tokens := tokens }
              let (pairs, r) ← flowPairs? handles fuel false r
              some ((key, emptyScalar) :: pairs, r)

end

/-!
### Documents
-/

/-- The directives in front of a document: the version, at most once, and tag handles, each at most
once. -/
def directives? : Bool → Handles → List Token → Option (Handles × List Token)
  | versionSeen, handles, .version major minor :: rest =>
      if versionSeen || major != 1 || (minor != 1 && minor != 2) then none
      else directives? true handles rest
  | versionSeen, handles, .tagHandle handle expansion :: rest =>
      if (handles.lookup handle).isSome then none
      else directives? versionSeen ((handle, expansion) :: handles) rest
  | _, handles, tokens => some (handles, tokens)

/-- Whether the next token ends a document. -/
def isDocumentLimit (tokens : List Token) : Bool :=
  match tokens with
  | .version _ _ :: _ => true
  | .tagHandle _ _ :: _ => true
  | .documentStart :: _ => true
  | .documentEnd :: _ => true
  | .streamEnd :: _ => true
  | [] => true
  | _ => false

/-- The content of a document, and the tokens behind it. -/
def content? (handles : Handles) (explicit : Bool) (tokens : List Token) :
    Option (Node × List Token) :=
  if explicit && isDocumentLimit tokens then some (emptyScalar, tokens)
  else (node? handles (3 * tokens.length + 3) .block ⟨tokens, []⟩).map fun r => (r.1, r.2.tokens)

/-- Tokens without the marks that end documents. -/
def withoutEnds : List Token → List Token
  | .documentEnd :: rest => withoutEnds rest
  | tokens => tokens

/-- The first document of a text, which must be the only one.  A text without any document is a
document of nothing. -/
def document? (cs : List Char) : Option Node := do
  let tokens ← tokens? cs
  let (root, rest) ←
    match tokens with
    | .streamEnd :: _ => some (Node.nothing, tokens)
    | .version _ _ :: _ => explicit? tokens
    | .tagHandle _ _ :: _ => explicit? tokens
    | .documentStart :: _ => explicit? tokens
    | _ => content? defaultHandles false tokens
  match withoutEnds rest with
  | [.streamEnd] => some root
  | _ => none
where
  /-- A document behind its directives and its opening mark. -/
  explicit? (tokens : List Token) : Option (Node × List Token) := do
    let (handles, rest) ← directives? false [] tokens
    match rest with
    | .documentStart :: rest =>
        content? (handles ++ defaultHandles.filter fun d => (handles.lookup d.1).isNone) true rest
    | _ => none

end StudyDesk.Yaml
