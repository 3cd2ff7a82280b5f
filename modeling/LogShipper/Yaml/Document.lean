import LogShipper.Yaml.Meaning
import LogShipper.Yaml.MemberOrder
import LogShipper.Yaml.Node

/-!
# Documents of YAML

A document is a value whose collections may be shared, or be inside themselves, so each collection
has a place and is filled by itself.  Collections are filled in the order in which they are met, and
a collection that is met while another one is filled waits until that is done.  So of two faults the
one nearer to the root is found first.

A key `<<` puts the pairs of other mappings before those of its own mapping, where its own pairs
prevail.
-/

namespace LogShipper.Yaml

/-- A part of a collection: a scalar, or the place of a collection. -/
inductive Item where
  | scalar (s : Scalar)
  | collection (place : Nat)
  deriving DecidableEq, Repr, Inhabited

/-- What fills a collection. -/
inductive Filling where
  | list (items : List Item)
  | pairs (items : List (Item × Item))
  | mapping (pairs : List (Scalar × Item))
  | set (members : List Scalar)
  deriving DecidableEq, Repr, Inhabited

structure Document where
  root : Item
  fillings : List (Nat × Filling) := []
  deriving DecidableEq, Repr, Inhabited

/-! ## 1. Merging -/

namespace Nodes

def tagAt (nodes : Nodes) (place : Nat) : Tag :=
  (nodes.getD place default).tag

def contentAt (nodes : Nodes) (place : Nat) : Content :=
  (nodes.getD place default).content

/-- The sign of a default value is a text where it is a key. -/
def settleKey (nodes : Nodes) (key : Nat) : Nodes :=
  if nodes.tagAt key = .defaultSign then nodes.modify key fun node => { node with tag := .text }
  else nodes

/-- The mappings that a node merges, the ones that prevail last: itself, or its items. -/
def mergedMappings (nodes : Nodes) (place : Nat) : Except Fault (List Nat) :=
  match nodes.contentAt place with
  | .mapping _ => .ok [place]
  | .sequence items =>
    if items.all fun item => nodes.contentAt item matches .mapping _ then .ok items
    else .error .malformed
  | .scalar _ => .error .malformed

/-- The pairs of the node at a place, if it is a mapping. -/
def pairsAt (nodes : Nodes) (place : Nat) : List (Nat × Nat) :=
  match nodes.contentAt place with
  | .mapping pairs => pairs
  | _ => []

def setPairs (nodes : Nodes) (place : Nat) (pairs : List (Nat × Nat)) : Nodes :=
  nodes.modify place fun node => { node with content := .mapping pairs }

/-- Puts the merged pairs of a mapping before its own, given those that are merged already.  The
first argument bounds the depth of the calls: each takes a pair that merges away, for good. -/
def flatten : Nat → (merged : List (Nat × Nat)) → (place : Nat) → Nodes → Except Fault Nodes
  | 0, _, _, _ => .error .malformed
  | bound + 1, merged, place, nodes =>
    let pairs := nodes.pairsAt place
    match pairs.find? fun (key, _) => nodes.tagAt key = .mergeSign with
    | none =>
      let nodes := pairs.foldl (fun nodes (key, _) => nodes.settleKey key) nodes
      .ok (nodes.setPairs place (merged ++ pairs))
    | some pair => do
      let nodes := nodes.setPairs place (pairs.erase pair)
      let mappings ← nodes.mergedMappings pair.2
      let nodes ← mappings.foldlM (fun nodes mapping => flatten bound [] mapping nodes) nodes
      flatten bound (merged ++ mappings.reverse.flatMap nodes.pairsAt) place nodes

/-- How many pairs all mappings have together. -/
def pairCount (nodes : Nodes) : Nat :=
  nodes.foldl (fun n node => n + match node.content with
    | .mapping pairs => pairs.length
    | _ => 0) 0

end Nodes

/-! ## 2. Building -/

/-- How far a document is built: its nodes, the items made of them, the places of collections that
are still to be filled, and what fills the others. -/
structure Builder where
  nodes : Nodes
  made : List (Nat × Item) := []
  waiting : List Nat := []
  fillings : List (Nat × Filling) := []

abbrev Build := StateT Builder (Except Fault)

namespace Build

/-- The text of a node: its own, or that of its default value if it is a mapping.  The first
argument bounds the depth of the calls; a chain of defaults that is longer has no end. -/
def textAt (nodes : Nodes) : Nat → Nat → Except Fault Text
  | 0, _ => .error .tooDeep
  | bound + 1, place =>
    match nodes.contentAt place with
    | .scalar t => .ok t
    | .sequence _ => .error .malformed
    | .mapping pairs =>
      match pairs.find? fun (key, _) => nodes.tagAt key = .defaultSign with
      | some (_, value) => textAt nodes bound value
      | none => .error .malformed

/-- The scalar that a node stands for under a tag. -/
def scalarAt (nodes : Nodes) (tag : Tag) (place : Nat) : Except Fault Scalar := do
  let t ← textAt nodes (nodes.size + 1) place
  match tag, nodes.contentAt place with
  | .timestamp, .mapping _ => throw .timestampOfMapping
  | tag, _ => Meaning.ofTagged tag t

def isCollection : Tag → Bool
  | .sequence | .mapping | .set | .orderedMapping | .pairs => true
  | _ => false

/-- Makes the item of a node that has none yet. -/
def makeNew (place : Nat) : Build Item := do
  let builder ← get
  match builder.nodes.tagAt place with
  | .mergeSign | .defaultSign | .foreign => throw .malformed
  | tag =>
    if isCollection tag then
      let item := .collection place
      set { builder with
        made := (place, item) :: builder.made
        waiting := builder.waiting ++ [place] }
      return item
    else
      let item := .scalar (← scalarAt builder.nodes tag place)
      set { builder with made := (place, item) :: builder.made }
      return item

/-- The item of a node. -/
def make (place : Nat) : Build Item := do
  match (← get).made.lookup place with
  | some item => return item
  | none => makeNew place

/-- The scalar of a key. -/
def makeKey (place : Nat) : Build Scalar := do
  match ← make place with
  | .scalar s => return s
  | .collection _ => throw .malformed

/-- Sets the item of a key, which keeps its place if it is there. -/
def setPair (key : Scalar) (item : Item) : List (Scalar × Item) → List (Scalar × Item)
  | [] => [(key, item)]
  | (other, old) :: pairs =>
    if other.sameKey key then (other, item) :: pairs else (other, old) :: setPair key item pairs

/-- The pairs of a mapping, with those that are merged into it. -/
def makePairs (place : Nat) : Build (List (Scalar × Item)) := do
  match (← get).nodes.contentAt place with
  | .mapping _ =>
    let builder ← get
    let nodes ← builder.nodes.flatten (builder.nodes.pairCount + 1) [] place
    set { builder with nodes }
    (nodes.pairsAt place).foldlM (fun pairs (key, value) => do
      let key ← makeKey key
      return setPair key (← make value) pairs) []
  | _ => throw .malformed

/-- The only pair of a mapping that is an item of a list of pairs. -/
def makeOnlyPair (place : Nat) : Build (Item × Item) := do
  match (← get).nodes.contentAt place with
  | .mapping [(key, value)] =>
    let key ← make key
    return (key, ← make value)
  | _ => throw .malformed

/-- The items of a sequence. -/
def itemsAt (place : Nat) : Build (List Nat) := do
  match (← get).nodes.contentAt place with
  | .sequence items => return items
  | _ => throw .malformed

/-- Makes what fills the collection at a place. -/
def makeFilling (place : Nat) : Build Filling := do
  match (← get).nodes.tagAt place with
  | .mapping => return .mapping (← makePairs place)
  | .set => return .set (MemberOrder.arrange ((← makePairs place).map Prod.fst))
  | .orderedMapping | .pairs => return .pairs (← (← itemsAt place).mapM makeOnlyPair)
  | _ => return .list (← (← itemsAt place).mapM make)

/-- Fills the collections that wait, and those that are met then.  The argument bounds their
number. -/
def fillAll : Nat → Build Unit
  | 0 => return
  | bound + 1 => do
    let builder ← get
    match builder.waiting with
    | [] => return
    | place :: waiting =>
      set { builder with waiting }
      let filling ← makeFilling place
      modify fun builder => { builder with fillings := (place, filling) :: builder.fillings }
      fillAll bound

end Build

/-- The document of a graph. -/
def Document.ofGraph (graph : Graph) : Except Fault Document := do
  let build : Build Item := do
    let root ← Build.make graph.root
    Build.fillAll graph.nodes.size
    return root
  let (root, builder) ← build.run { nodes := graph.nodes }
  return ⟨root, builder.fillings⟩

/-! ## 3. Values -/

namespace Document

/-- The document of a single null. -/
def null : Document := ⟨.scalar .null, []⟩

/-- What fills the collection at a place. -/
def fillingAt (document : Document) (place : Nat) : Filling :=
  (document.fillings.lookup place).getD (.list [])

/-- The sign of a collection that comes again inside itself. -/
def again : Filling → Value
  | .mapping _ => .mappingAgain
  | _ => .listAgain

/-- The value of an item inside the collections at some places.  The first argument bounds the depth
of the value. -/
def valueWithin (document : Document) : Nat → (outer : List Nat) → Item → Value
  | _, _, .scalar s => .scalar s
  | 0, _, .collection place => again (document.fillingAt place)
  | bound + 1, outer, .collection place =>
    let filling := document.fillingAt place
    if outer.contains place then again filling
    else
      let outer := place :: outer
      match filling with
      | .list items => .list (items.map (valueWithin document bound outer))
      | .pairs items => .list (items.map fun (first, second) =>
          .pair (valueWithin document bound outer first) (valueWithin document bound outer second))
      | .mapping pairs =>
        .mapping (pairs.map fun (key, item) => (key, valueWithin document bound outer item))
      | .set members => .set members

/-- The value of an item. -/
def value (document : Document) (item : Item) : Value :=
  document.valueWithin (document.fillings.length + 1) [] item

/-- Whether a document counts as nothing. -/
def isVoid (document : Document) : Bool :=
  match document.root with
  | .scalar s => s.isVoid
  | .collection place =>
    match document.fillingAt place with
    | .list [] | .pairs [] | .mapping [] | .set [] => true
    | _ => false

/-- The pairs of a document that is a mapping. -/
def pairs? (document : Document) : Option (List (Scalar × Item)) :=
  match document.root with
  | .scalar _ => none
  | .collection place =>
    match document.fillingAt place with
    | .mapping pairs => some pairs
    | _ => none

end Document

end LogShipper.Yaml
