import ApiTools.Yaml.Scan

/-!
# YAML nodes

A node is a scalar, a list or a mapping, with or without a tag.  `nodes?` reads the one document of
a text.  An alias stands for the node whose anchor was met last; a node that contains an alias of
itself is endless.
-/

namespace ApiTools.Yaml

/-- A node of a YAML document. -/
inductive Node where
  | scalar (style : ScalarStyle) (tag? : Option String) (text : String)
  | list (tag? : Option String) (items : List Node)
  | mapping (tag? : Option String) (entries : List (Node × Node))
  /-- A node that stands at the place of an alias, and the number of aliases that are met while it
  is read through. -/
  | aliased (node : Node) (visits : Nat)
  /-- An alias of a node that contains it. -/
  | endless
  /-- What an empty text holds. -/
  | nothing
  deriving Repr, Inhabited

mutual
/-- The number of aliases that are met while the node is read through. -/
def Node.visits : Node → Nat
  | .scalar .. => 0
  | .list _ items => visitsOfItems items
  | .mapping _ entries => visitsOfEntries entries
  | .aliased _ visits => visits
  | .endless => 0
  | .nothing => 0

/-- The number of aliases that are met while the items are read through. -/
def visitsOfItems : List Node → Nat
  | [] => 0
  | item :: rest => item.visits + visitsOfItems rest

/-- The number of aliases that are met while the entries are read through. -/
def visitsOfEntries : List (Node × Node) → Nat
  | [] => 0
  | (key, value) :: rest => key.visits + value.visits + visitsOfEntries rest
end

/-- What has been read of a document, and what follows. -/
structure Reader where
  tokens : List Token
  /-- The nodes with anchors, the last one first, each with the node that an alias of it becomes. -/
  anchors : List (String × Node)
  /-- The expansions of the handles of tags. -/
  handles : List (String × String)
  /-- The number of events met: one for a scalar or an alias, two for a list or a mapping. -/
  events : Nat

namespace Reader

/-- The reader after one token. -/
def skip (r : Reader) : Reader := { r with tokens := r.tokens.tail }

/-- The reader with more events counted. -/
def count (r : Reader) (events : Nat) : Reader := { r with events := r.events + events }

/-- The next token. -/
def next (r : Reader) : Token := r.tokens.headD .streamEnd

end Reader

/-- The properties of a node. -/
structure Properties where
  anchor? : Option String
  /-- The handle and the suffix of the tag. -/
  tag? : Option (String × String)

/-- Reads an anchor and a tag in either order. -/
def readProperties (r : Reader) : Properties × Reader :=
  match r.tokens with
  | .anchor name :: .tag handle suffix :: rest =>
    (⟨some name, some (handle, suffix)⟩, { r with tokens := rest })
  | .anchor name :: rest => (⟨some name, none⟩, { r with tokens := rest })
  | .tag handle suffix :: .anchor name :: rest =>
    (⟨some name, some (handle, suffix)⟩, { r with tokens := rest })
  | .tag handle suffix :: rest => (⟨none, some (handle, suffix)⟩, { r with tokens := rest })
  | _ => (⟨none, none⟩, r)

/-- The whole text of a tag; a handle without an expansion is an error. -/
def wholeTag? (handles : List (String × String)) : Option (String × String) →
    Option (Option String)
  | none => some none
  | some (handle, suffix) =>
    if handle.isEmpty then some (some suffix)
    else (handles.lookup handle).map fun expansion => some (expansion ++ suffix)

/-- The scalar that stands where nothing is written. -/
def emptyScalar : Node := .scalar .plain none ""

/-- The reader with the node of an anchor remembered. -/
def Reader.remember (r : Reader) (anchor? : Option String) (node : Node) : Reader :=
  match anchor? with
  | some name => { r with anchors := (name, .aliased node (node.visits + 1)) :: r.anchors }
  | none => r

/-- The node that stands where only an anchor or a tag is written. -/
def absentNode (properties : Properties) (tag? : Option String) (r : Reader) :
    Option (Node × Reader) :=
  if properties.anchor?.isSome || properties.tag?.isSome then
    let node := Node.scalar .plain tag? ""
    some (node, (r.remember properties.anchor? node).count 1)
  else none

/-- Is the token one of those that end a part of a block mapping? -/
def endsBlockPart : Token → Bool
  | .key => true
  | .value => true
  | .blockEnd => true
  | _ => false

mutual
/-- How deep lists and mappings are nested in one another. -/
def Node.depth : Node → Nat
  | .list _ items => depthOfItems items + 1
  | .mapping _ entries => depthOfEntries entries + 1
  | .aliased node _ => node.depth
  | _ => 0

/-- How deep lists and mappings are nested in the items. -/
def depthOfItems : List Node → Nat
  | [] => 0
  | item :: rest => max item.depth (depthOfItems rest)

/-- How deep lists and mappings are nested in the entries. -/
def depthOfEntries : List (Node × Node) → Nat
  | [] => 0
  | (key, value) :: rest => max (max key.depth value.depth) (depthOfEntries rest)
end

mutual
/-- Reads a node; `fuel` bounds the number of steps.  In a block, a list may begin with its first
hyphen where `indentless` is set. -/
def readNode : (fuel : Nat) → (block indentless : Bool) → Reader → Option (Node × Reader)
  | 0, _, _, _ => none
  | fuel + 1, block, indentless, r =>
    match r.tokens with
    | .alias name :: rest =>
      (r.anchors.lookup name).map fun node =>
        (node, { r with tokens := rest }.count 1)
    | _ =>
      let (properties, r) := readProperties r
      match wholeTag? r.handles properties.tag? with
      | none => none
      | some tag =>
        let begun := r.remember properties.anchor? .endless
        let finish (node : Node) (r : Reader) : Node × Reader :=
          (node, r.remember properties.anchor? node)
        match r.next with
        | .blockEntry =>
          if indentless then
            (readIndentlessItems fuel begun).map fun (items, r) =>
              finish (.list tag items) (r.count 2)
          else absentNode properties tag r
        | .scalar style text =>
          let tag := if tag = some "!" then none else tag
          some (finish (.scalar style tag text) (r.skip.count 1))
        | .flowSequenceStart =>
          (readFlowItems fuel true begun.skip).map fun (items, r) =>
            finish (.list tag items) (r.count 2)
        | .flowMappingStart =>
          (readFlowEntries fuel true begun.skip).map fun (entries, r) =>
            finish (.mapping tag entries) (r.count 2)
        | .blockSequenceStart =>
          if block then
            (readBlockItems fuel begun.skip).map fun (items, r) =>
              finish (.list tag items) (r.count 2)
          else absentNode properties tag r
        | .blockMappingStart =>
          if block then
            (readBlockEntries fuel begun.skip).map fun (entries, r) =>
              finish (.mapping tag entries) (r.count 2)
          else absentNode properties tag r
        | _ => absentNode properties tag r

/-- Reads the items of a list in a block, up to its end. -/
def readBlockItems : (fuel : Nat) → Reader → Option (List Node × Reader)
  | 0, _ => none
  | fuel + 1, r =>
    match r.next with
    | .blockEntry => do
      let r := r.skip
      let (item, r) ←
        match r.next with
        | .blockEntry => some (emptyScalar, r.count 1)
        | .blockEnd => some (emptyScalar, r.count 1)
        | _ => readNode fuel true false r
      let (items, r) ← readBlockItems fuel r
      return (item :: items, r)
    | .blockEnd => some ([], r.skip)
    | _ => none

/-- Reads the items of a list whose hyphens stand in the column of the keys around it. -/
def readIndentlessItems : (fuel : Nat) → Reader → Option (List Node × Reader)
  | 0, _ => none
  | fuel + 1, r =>
    match r.next with
    | .blockEntry => do
      let r := r.skip
      let (item, r) ←
        if r.next = .blockEntry || endsBlockPart r.next then some (emptyScalar, r.count 1)
        else readNode fuel true false r
      let (items, r) ← readIndentlessItems fuel r
      return (item :: items, r)
    | _ => some ([], r)

/-- Reads the entries of a mapping in a block, up to its end. -/
def readBlockEntries : (fuel : Nat) → Reader → Option (List (Node × Node) × Reader)
  | 0, _ => none
  | fuel + 1, r =>
    match r.next with
    | .key => do
      let r := r.skip
      let (key, r) ←
        if endsBlockPart r.next then some (emptyScalar, r.count 1) else readNode fuel true true r
      let (value, r) ←
        match r.next with
        | .value =>
          let r := r.skip
          if endsBlockPart r.next then some (emptyScalar, r.count 1) else readNode fuel true true r
        | _ => some (emptyScalar, r.count 1)
      let (entries, r) ← readBlockEntries fuel r
      return ((key, value) :: entries, r)
    | .blockEnd => some ([], r.skip)
    | _ => none

/-- Reads the items of a list in brackets, up to the closing one. -/
def readFlowItems : (fuel : Nat) → (first : Bool) → Reader → Option (List Node × Reader)
  | 0, _, _ => none
  | fuel + 1, first, r =>
    if r.next = .flowSequenceEnd then some ([], r.skip)
    else if !first && r.next ≠ .flowEntry then none
    else
      let r := if first then r else r.skip
      match r.next with
      | .flowSequenceEnd => some ([], r.skip)
      | .key => do
        let (entry, r) ← readFlowPair fuel r.skip
        let (items, r) ← readFlowItems fuel false r
        return (.mapping none [entry] :: items, r.count 2)
      | _ => do
        let (item, r) ← readNode fuel false false r
        let (items, r) ← readFlowItems fuel false r
        return (item :: items, r)

/-- Reads the one entry of a mapping that is written as an item of a list in brackets.  A key that
is missing takes the token with it that stands in its place. -/
def readFlowPair : (fuel : Nat) → Reader → Option ((Node × Node) × Reader)
  | 0, _ => none
  | fuel + 1, r => do
    let (key, r) ←
      if r.next = .value || r.next = .flowEntry || r.next = .flowSequenceEnd then
        some (emptyScalar, r.skip.count 1)
      else readNode fuel false false r
    let (value, r) ←
      if r.next = .value then
        let r := r.skip
        if r.next = .flowEntry || r.next = .flowSequenceEnd then some (emptyScalar, r.count 1)
        else readNode fuel false false r
      else some (emptyScalar, r.count 1)
    return ((key, value), r)

/-- Reads the entries of a mapping in braces, up to the closing one. -/
def readFlowEntries : (fuel : Nat) → (first : Bool) → Reader →
    Option (List (Node × Node) × Reader)
  | 0, _, _ => none
  | fuel + 1, first, r =>
    if r.next = .flowMappingEnd then some ([], r.skip)
    else if !first && r.next ≠ .flowEntry then none
    else
      let r := if first then r else r.skip
      match r.next with
      | .flowMappingEnd => some ([], r.skip)
      | .key => do
        let r := r.skip
        let (key, r) ←
          if r.next = .value || r.next = .flowEntry || r.next = .flowMappingEnd then
            some (emptyScalar, r.count 1)
          else readNode fuel false false r
        let (value, r) ←
          if r.next = .value then
            let r := r.skip
            if r.next = .flowEntry || r.next = .flowMappingEnd then some (emptyScalar, r.count 1)
            else readNode fuel false false r
          else some (emptyScalar, r.count 1)
        let (entries, r) ← readFlowEntries fuel false r
        return ((key, value) :: entries, r)
      | _ => do
        let (key, r) ← readNode fuel false false r
        let (entries, r) ← readFlowEntries fuel false (r.count 1)
        return ((key, emptyScalar) :: entries, r)
end

/-! ### Documents -/

/-- The handles that are known without a directive. -/
def defaultHandles : List (String × String) := [("!", "!"), ("!!", "tag:yaml.org,2002:")]

/-- Reads the directives of a document: at most one version, which must be 1.1 or 1.2, and no handle
twice. -/
def readDirectives : (seenVersion : Bool) → List (String × String) → List Token →
    Option (List (String × String) × List Token)
  | seenVersion, handles, .versionDirective major minor :: rest =>
    if seenVersion || major ≠ 1 || (minor ≠ 1 && minor ≠ 2) then none
    else readDirectives true handles rest
  | seenVersion, handles, .tagDirective handle expansion :: rest =>
    if (handles.lookup handle).isSome then none
    else readDirectives seenVersion ((handle, expansion) :: handles) rest
  | _, handles, tokens => some (handles, tokens)

/-- Is the token one that ends the content of a document? -/
def endsContent : Token → Bool
  | .versionDirective .. => true
  | .tagDirective .. => true
  | .documentStart => true
  | .documentEnd => true
  | .streamEnd => true
  | _ => false

/-- Is nothing left but ends of the document? -/
def atStreamEnd (tokens : List Token) : Bool :=
  match tokens.dropWhile (· = .documentEnd) with
  | [.streamEnd] => true
  | _ => false

/-- How deep lists and mappings may be nested in one another. -/
def maxDepth : Nat := 128

/-- Reads the content of a document, after which nothing may follow.  Aliases of aliases must not
grow beyond all bounds. -/
def readContent (handles : List (String × String)) (explicit : Bool) (tokens : List Token) :
    Option Node := do
  let (node, r) ←
    if explicit && endsContent (tokens.headD .streamEnd) then
      some (emptyScalar, ⟨tokens, [], handles, 1⟩)
    else readNode (4 * tokens.length + 4) true false ⟨tokens, [], handles, 0⟩
  if atStreamEnd r.tokens && node.visits ≤ 100 * r.events && node.depth ≤ maxDepth then return node
  else none

/-- Reads tokens that make up one document or none. -/
def readDocument (tokens : List Token) : Option Node :=
  match tokens with
  | [.streamEnd] => some .nothing
  | first :: _ => do
    let isDirective := endsContent first && first ≠ .documentEnd && first ≠ .documentStart
    let (handles, rest) ← readDirectives false [] tokens
    let handles := handles ++ defaultHandles
    match rest with
    | .documentStart :: rest => readContent handles true rest
    | _ => if isDirective then none else readContent handles false rest
  | [] => none

/-- The root node of the one document of a text.  Every node takes at least one token, with at most
four steps each. -/
def document? (text : String) : Option Node := (tokens? text).bind readDocument

end ApiTools.Yaml
