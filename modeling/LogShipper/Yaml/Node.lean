import LogShipper.Yaml.Tag
import LogShipper.Yaml.Token

/-!
# Nodes of YAML

The tokens of a document make a graph of scalars, sequences and mappings, in which each node has a
place.  An anchor names a place as soon as its node begins, so an alias may stand inside the very
node that it stands for; an anchor names one node only.  Where a node is missing, a plain scalar
without text takes its place.

A text that breaks off is refused for that reason only if the tokens before the break do not
contradict the grammar already.
-/

namespace LogShipper.Yaml

/-- What a node holds; items and pairs are given by the places of their nodes. -/
inductive Content where
  | scalar (t : Text)
  | sequence (items : List Nat)
  | mapping (pairs : List (Nat × Nat))
  deriving DecidableEq, Repr, Inhabited

structure Node where
  tag : Tag
  content : Content
  deriving DecidableEq, Repr, Inhabited

abbrev Nodes := Array Node

/-! ## 1. Composing -/

/-- How deep collections may be inside each other. -/
def maxDepth : Nat := 487

/-- How far a document has been read: the tokens to come, the nodes, the meanings of anchors and of
the handles of tags, and how many collections may still begin inside each other. -/
structure Composer where
  tokens : Tokens
  nodes : Nodes := #[]
  anchors : List (Text × Nat) := []
  handles : List (Text × Text) := []
  depth : Nat := maxDepth

abbrev Compose := StateT Composer (Except Fault)

namespace Compose

/-- The next token; none at the end of the text. -/
def peek : Compose (Option Token) := do
  let tokens := (← get).tokens
  match tokens.known.head?, tokens.fault with
  | some token, _ => return some token
  | none, some fault => throw fault
  | none, none => return none

/-- Passes the next token. -/
def skip : Compose Unit :=
  modify fun composer =>
    { composer with tokens := { composer.tokens with known := composer.tokens.known.tail } }

/-- Whether one of the given tokens comes next. -/
def nextIsIn (tokens : List Token) : Compose Bool := do
  return (← peek).any tokens.contains

/-- Passes a token that has to come next. -/
def expect (token : Token) : Compose Unit := do
  if (← peek) = some token then skip else throw .malformed

/-! ## 2. Properties of nodes -/

/-- The tag that is given to a node: none, one that leaves it to the form of the node, or one. -/
inductive GivenTag where
  | absent
  | unspecific
  | given (tag : Tag)
  deriving DecidableEq, Repr

/-- What stands before the content of a node. -/
structure Properties where
  anchor : Option Text := none
  tag : GivenTag := .absent
  deriving DecidableEq, Repr

/-- Whether there are any properties, and so the content may be missing. -/
def Properties.any (properties : Properties) : Bool :=
  properties.anchor.isSome || properties.tag ≠ .absent

/-- The tag of a scalar. -/
def Properties.scalarTag (properties : Properties) (isPlain : Bool) (t : Text) : Tag :=
  match properties.tag with
  | .absent => if isPlain then Tag.resolve t else .text
  | .unspecific => Tag.resolve t
  | .given tag => tag

/-- The tag of a collection, given the one that it has by itself. -/
def Properties.collectionTag (properties : Properties) (own : Tag) : Tag :=
  match properties.tag with
  | .absent | .unspecific => own
  | .given tag => tag

/-- The name of the tag whose sign leaves a node to its form. -/
def unspecificName : Text := "!"

/-- An anchor, if one comes next. -/
def readAnchor? : Compose (Option Text) := do
  match ← peek with
  | some (.anchor name) =>
    skip
    return some name
  | _ => return none

/-- A tag, if one comes next: its handle and the rest of it. -/
def readTag? : Compose (Option (Option Text × Text)) := do
  match ← peek with
  | some (.tag handle rest) =>
    skip
    return some (handle, rest)
  | _ => return none

/-- What a tag means; its handle has to be known. -/
def tagMeaning : Option (Option Text × Text) → Compose GivenTag
  | none => return .absent
  | some (handle, rest) => do
    let name ← match handle with
      | none => pure rest
      | some handle =>
        match (← get).handles.lookup handle with
        | some beginning => pure (beginning ++ rest)
        | none => throw .malformed
    return if name = unspecificName then .unspecific else .given (.ofName name)

/-- The properties of a node, in either order. -/
def readProperties : Compose Properties := do
  match ← readAnchor? with
  | some anchor => return ⟨some anchor, ← tagMeaning (← readTag?)⟩
  | none =>
    match ← readTag? with
    | none => return {}
    | some tag =>
      let anchor ← readAnchor?
      return ⟨anchor, ← tagMeaning (some tag)⟩

/-! ## 3. Nodes -/

/-- Gives a node a place, for which its anchor stands from now on. -/
def enter (properties : Properties) (node : Node) : Compose Nat := do
  let composer ← get
  let place := composer.nodes.size
  let anchors ← match properties.anchor with
    | none => pure composer.anchors
    | some name =>
      if (composer.anchors.lookup name).isSome then throw .malformed
      else pure ((name, place) :: composer.anchors)
  set { composer with nodes := composer.nodes.push node, anchors }
  return place

/-- Fills the node at a place. -/
def fill (place : Nat) (content : Content) : Compose Unit :=
  modify fun composer =>
    { composer with nodes := composer.nodes.modify place fun node => { node with content } }

/-- A node that takes the place of a missing one. -/
def enterMissing (properties : Properties := {}) : Compose Nat :=
  enter properties ⟨properties.scalarTag true [], .scalar []⟩

/-- Gives a missing node its place, if it may be missing. -/
def readNothing (properties : Properties) : Compose Nat :=
  if properties.any then enterMissing properties else throw .malformed

/-- Reads what is inside a collection. -/
def inside {α : Type} (content : Compose α) : Compose α := do
  match (← get).depth with
  | 0 => throw .tooDeep
  | depth + 1 =>
    modify fun composer => { composer with depth }
    let a ← content
    modify fun composer => { composer with depth := depth + 1 }
    return a

/-- A sequence, given how its items are read. -/
def readSequence (properties : Properties) (items : Compose (List Nat)) : Compose Nat := do
  let place ← enter properties ⟨properties.collectionTag .sequence, .sequence []⟩
  fill place (.sequence (← inside items))
  return place

/-- A mapping, given how its pairs are read. -/
def readMapping (properties : Properties) (pairs : Compose (List (Nat × Nat))) : Compose Nat := do
  let place ← enter properties ⟨properties.collectionTag .mapping, .mapping []⟩
  fill place (.mapping (← inside pairs))
  return place

/-- The tokens that show that a key or a value of a block mapping is missing. -/
def blockPairMarks : List Token := [.key, .value, .blockEnd]

mutual

/-- Reads a node.  Block collections may stand only where `inBlock` says so, and a sequence that is
not indented only where `unindented` does.  The first argument bounds the depth of the calls. -/
def read (inBlock unindented : Bool) : Nat → Compose Nat
  | 0 => throw .malformed
  | bound + 1 => do
    match ← peek with
    | some (.alias name) =>
      skip
      match (← get).anchors.lookup name with
      | some place => return place
      | none => throw .malformed
    | _ => readContent inBlock unindented (← readProperties) bound

/-- Reads what is behind the properties of a node.  There may be nothing if there are any. -/
def readContent (inBlock unindented : Bool) (properties : Properties) : Nat → Compose Nat
  | 0 => throw .malformed
  | bound + 1 => do
    match ← peek with
    | some (.scalar isPlain t) =>
      skip
      enter properties ⟨properties.scalarTag isPlain t, .scalar t⟩
    | some .flowSequenceStart =>
      skip
      readSequence properties (readFlowItems true bound)
    | some .flowMappingStart =>
      skip
      readMapping properties (readFlowPairs true bound)
    | some .blockEntry =>
      if unindented then readSequence properties (readUnindentedItems bound)
      else readNothing properties
    | some .blockSequenceStart =>
      if inBlock then
        skip
        readSequence properties (readBlockItems bound)
      else readNothing properties
    | some .blockMappingStart =>
      if inBlock then
        skip
        readMapping properties (readBlockPairs bound)
      else readNothing properties
    | _ => readNothing properties

/-- Reads a node unless one of the given tokens shows that it is missing. -/
def readUnless (absence : List Token) (inBlock unindented : Bool) : Nat → Compose Nat
  | 0 => throw .malformed
  | bound + 1 => do
    if ← nextIsIn absence then enterMissing else read inBlock unindented bound

/-- Reads a value behind its token; without the token it is missing. -/
def readValue (absence : List Token) (inBlock unindented : Bool) : Nat → Compose Nat
  | 0 => throw .malformed
  | bound + 1 => do
    if ← nextIsIn [.value] then
      skip
      readUnless absence inBlock unindented bound
    else enterMissing

/-- Reads the items of a block sequence and its end. -/
def readBlockItems : Nat → Compose (List Nat)
  | 0 => throw .malformed
  | bound + 1 => do
    match ← peek with
    | some .blockEnd =>
      skip
      return []
    | some .blockEntry =>
      skip
      let item ← readUnless [.blockEntry, .blockEnd] true false bound
      return item :: (← readBlockItems bound)
    | _ => throw .malformed

/-- Reads the items of a sequence that is not indented; whatever else comes ends it. -/
def readUnindentedItems : Nat → Compose (List Nat)
  | 0 => throw .malformed
  | bound + 1 => do
    if ← nextIsIn [.blockEntry] then
      skip
      let item ← readUnless (.blockEntry :: blockPairMarks) true false bound
      return item :: (← readUnindentedItems bound)
    else return []

/-- Reads the pairs of a block mapping and its end. -/
def readBlockPairs : Nat → Compose (List (Nat × Nat))
  | 0 => throw .malformed
  | bound + 1 => do
    match ← peek with
    | some .blockEnd =>
      skip
      return []
    | some .key =>
      skip
      let key ← readUnless blockPairMarks true true bound
      let value ← readValue blockPairMarks true true bound
      return (key, value) :: (← readBlockPairs bound)
    | _ => throw .malformed

/-- Reads the items of a flow sequence, with commas between them, and its end.  An item may be a
mapping of one pair. -/
def readFlowItems (isFirst : Bool) : Nat → Compose (List Nat)
  | 0 => throw .malformed
  | bound + 1 => do
    if !isFirst && !(← nextIsIn [.flowSequenceEnd]) then expect .flowEntry
    match ← peek with
    | some .flowSequenceEnd =>
      skip
      return []
    | some .key =>
      let item ← readMapping {} (readFlowPair bound)
      return item :: (← readFlowItems false bound)
    | _ =>
      let item ← read false false bound
      return item :: (← readFlowItems false bound)

/-- Reads the only pair of a mapping in a flow sequence. -/
def readFlowPair : Nat → Compose (List (Nat × Nat))
  | 0 => throw .malformed
  | bound + 1 => do
    let absence : List Token := [.flowEntry, .flowSequenceEnd]
    skip
    let key ← readUnless (.value :: absence) false false bound
    let value ← readValue absence false false bound
    -- The mapping ends only where something follows it.
    let _ ← peek
    return [(key, value)]

/-- Reads the pairs of a flow mapping, with commas between them, and its end.  A value may be
missing together with its colon. -/
def readFlowPairs (isFirst : Bool) : Nat → Compose (List (Nat × Nat))
  | 0 => throw .malformed
  | bound + 1 => do
    if !isFirst && !(← nextIsIn [.flowMappingEnd]) then expect .flowEntry
    match ← peek with
    | some .flowMappingEnd =>
      skip
      return []
    | some .key =>
      let absence : List Token := [.flowEntry, .flowMappingEnd]
      skip
      let key ← readUnless (.value :: absence) false false bound
      let value ← readValue absence false false bound
      return (key, value) :: (← readFlowPairs false bound)
    | _ =>
      let key ← read false false bound
      -- Whether the value is missing is asked only where something follows the key.
      let _ ← peek
      let value ← enterMissing
      return (key, value) :: (← readFlowPairs false bound)

end

/-! ## 4. Documents -/

/-- The handles that have a meaning in every document. -/
def commonHandles : List (Text × Text) := [("!", "!"), ("!!", Tag.family)]

/-- Reads the directives before a document: the meanings of the handles, each of which is given only
once.  The version is given once at most and has to be 1.  The last argument bounds the number of
the directives. -/
def readDirectives (hasVersion : Bool) (handles : List (Text × Text)) :
    Nat → Compose (List (Text × Text))
  | 0 => throw .malformed
  | bound + 1 => do
    match ← peek with
    | some (.directive (.version major)) =>
      skip
      if hasVersion || major ≠ 1 then throw .malformed
      readDirectives true handles bound
    | some (.directive (.handle handle beginning)) =>
      skip
      if (handles.lookup handle).isSome then throw .malformed
      readDirectives hasVersion ((handle, beginning) :: handles) bound
    | some (.directive .unknown) =>
      skip
      readDirectives hasVersion handles bound
    | _ => return handles

/-- Whether a token stands only between documents. -/
def isDocumentMark : Token → Bool
  | .directive _ | .documentStart | .documentEnd => true
  | _ => false

/-- Reads a document that begins with its directives and its marker. -/
def readMarkedDocument (bound : Nat) : Compose Nat := do
  let handles ← readDirectives false [] bound
  expect .documentStart
  modify fun composer => { composer with handles := handles ++ commonHandles }
  if (← peek).all isDocumentMark then enterMissing else read true false bound

/-- Passes the markers behind a document. -/
def skipDocumentEnds : Nat → Compose Unit
  | 0 => throw .malformed
  | bound + 1 => do
    if ← nextIsIn [.documentEnd] then
      skip
      skipDocumentEnds bound

/-- Reads the only document of a text: the place of its first node; none if there is no
document. -/
def readOnly (bound : Nat) : Compose (Option Nat) := do
  match ← peek with
  | none => return none
  | some first =>
    let isMarked := first = .documentStart || first matches .directive _
    let root ← if isMarked then readMarkedDocument bound else read true false bound
    skipDocumentEnds bound
    if (← peek).isSome then
      -- Another document is refused when its beginning has been read.
      let _ ← readDirectives false [] bound
      let _ ← peek
      throw .malformed
    return some root

end Compose

/-! ## 5. Graphs -/

/-- The nodes of a document, and the place of the first one. -/
structure Graph where
  nodes : Nodes
  root : Nat

/-- The graph of the only document among tokens; none if there is no document. -/
def Graph.ofTokens? (tokens : Tokens) : Except Fault (Option Graph) := do
  let bound := 6 * tokens.known.length + 16
  let composer : Composer := { tokens, handles := Compose.commonHandles }
  let (root, composer) ← (Compose.readOnly bound).run composer
  return root.map fun root => ⟨composer.nodes, root⟩

end LogShipper.Yaml
