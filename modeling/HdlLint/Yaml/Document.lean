import HdlLint.Yaml.Node.Merge
import HdlLint.Yaml.Node.Reader
import HdlLint.Yaml.Scalar.Binary
import HdlLint.Yaml.Scalar.Number

/-!
# Values of documents

Every node stands for an object. That of a scalar is its value; a collection is there as
soon as it is met, and is filled later, after all that have been met before it. So of
several faults in a document the one that is met first in this order counts, and a
collection can be a part of itself.

`Build.fillAll` makes the objects, `valueAt` reads the value of an object off, and
`readDocument` gives the value of a text.
-/

namespace HdlLint.Yaml

def boolWords : List (String × Bool) :=
  [("yes", true), ("no", false), ("true", true), ("false", false),
    ("on", true), ("off", false)]

/-- The truth value that a scalar stands for. -/
def boolOfText (s : String) : Except DocumentFault Value :=
  let word := Text.lower s
  match boolWords.lookup word with
  | some b => .ok (.bool b)
  | none => .error (.crash (.of .key word))

/-- The value that a scalar with a tag stands for. -/
def valueOfScalar (tag : Tag) (text : String) : Except DocumentFault Value :=
  match tag with
  | .null => .ok .null
  | .bool => boolOfText text
  | .int => (intOfText text).map .int
  | .float => (realOfText text).map .real
  | .binary => (bytesOfText text).map .bytes
  | .timestamp => timeOfText text
  | .str => .ok (.text text)
  | _ => .error .malformed

/-- Whether a tag asks for a collection. -/
def Tag.isCollection : Tag → Bool
  | omap => true
  | pairs => true
  | set => true
  | seq => true
  | map => true
  | _ => false

/-- The text of a node where a text is asked for: a mapping stands for that under its key
that is an equals sign. The first argument bounds how deep it is looked for. -/
def Graph.textAt (g : Graph) : Nat → Place → Except DocumentFault String
  | 0, _ => .error (.crash (.of .recursion "maximum recursion depth exceeded"))
  | depth + 1, place =>
    match g.node place with
    | .scalar _ text => .ok text
    | .sequence _ _ => .error .malformed
    | .mapping _ entries =>
      match entries.find? fun e => (g.node e.1).tag = .value with
      | some (_, v) => g.textAt depth v
      | none => .error .malformed

/-- What a collection is filled with. -/
inductive Content where
  | list (items : List Place)
  | pairs (entries : List (Place × Place))
  | set (keys : List Place)
  | map (entries : List (Place × Place))
  deriving Repr, DecidableEq

/-- What a node stands for. -/
inductive Item where
  /-- A value. One that is undefined may differ from all others of its kind. -/
  | value (v : Value) (unique : Bool)
  /-- A collection that is still to be filled. -/
  | unfilled
  | filled (c : Content)
  deriving Repr

/-- The object of a node whose tag asks for no collection. -/
def Graph.scalarItem (g : Graph) (place : Place) : Except DocumentFault Item := do
  let node := g.node place
  let text ←
    if valueTags.contains node.tag then g.textAt (g.nodes.size + 1) place
    else .error .malformed
  match node.tag, node with
  | .timestamp, .mapping _ _ =>
      .error (.crash (.of .type "expected string or bytes-like object, got 'list'"))
  | tag, _ =>
      pure (.value (← valueOfScalar tag text) (tag = .float && !isUndefinedWord text))
where
  /-- The tags that ask for a value. -/
  valueTags : List Tag := [.null, .bool, .int, .float, .binary, .timestamp, .str]

/-- The state of making objects: the nodes, the objects of those that have been met, and
the collections that are still to be filled, the last one first. -/
structure Building where
  graph : Graph
  items : Array (Option Item)
  waiting : List Place
  deriving Repr

abbrev Build (α : Type) := StateT Building (Except DocumentFault) α

namespace Build

def node (place : Place) : Build Node := do
  pure ((← get).graph.node place)

/-- The object of a node, if it has been met. -/
def item? (place : Place) : Build (Option Item) := do
  pure ((← get).items.getD place none)

/-- Makes an object the one of a node. -/
def settle (place : Place) (o : Item) : Build Unit :=
  modify fun s => { s with items := s.items.setIfInBounds place (some o) }

def meet (place : Place) : Build Unit := do
  if (← item? place).isSome then return
  if (← node place).tag.isCollection then
    settle place .unfilled
    modify fun s => { s with waiting := place :: s.waiting }
  else
    let o ← (← get).graph.scalarItem place
    settle place o

/-- Whether the objects of two keys are the same key. -/
def sameItem (items : Array (Option Item)) (p q : Place) : Bool :=
  match items.getD p none, items.getD q none with
  | some (.value (.real .nan) a), some (.value (.real .nan) b) => p = q || (!a && !b)
  | some (.value v _), some (.value w _) => v.sameKey w
  | _, _ => false

/-- The entries with a new value for a key. A key that is already there keeps its place
and its form. -/
def assign (same : Place → Place → Bool) (key value : Place) :
    List (Place × Place) → List (Place × Place)
  | [] => [(key, value)]
  | (k, v) :: r =>
    if same k key then (k, value) :: r else (k, v) :: assign same key value r

/-- Meets the parts of an entry. A key has to be a value that can be one. -/
def meetEntry (e : Place × Place) : Build Unit := do
  meet e.1
  match ← item? e.1 with
  | some (.value _ _) => meet e.2
  | _ => throw .malformed

/-- The entries that a mapping is filled with, after merging. -/
def entriesOf (place : Place) : Build (List (Place × Place)) := do
  let graph ← (← get).graph.merged place
  modify fun s => { s with graph := graph }
  let entries := (graph.entries? place).getD []
  entries.forM meetEntry
  let items := (← get).items
  pure (entries.foldl (fun acc e => assign (sameItem items) e.1 e.2 acc) [])

/-- The pair that an item of a sequence stands for: the only entry of a mapping. -/
def pairOf (place : Place) : Build (Place × Place) := do
  match ← node place with
  | .mapping _ [(k, v)] =>
    meet k
    meet v
    pure (k, v)
  | _ => throw .malformed

def fill (place : Place) : Build Unit := do
  match ← node place with
  | .sequence .seq items =>
    items.forM meet
    settle place (.filled (.list items))
  | .sequence .omap items => settle place (.filled (.pairs (← items.mapM pairOf)))
  | .sequence .pairs items => settle place (.filled (.pairs (← items.mapM pairOf)))
  | .mapping .map _ => settle place (.filled (.map (← entriesOf place)))
  | .mapping .set _ => settle place (.filled (.set ((← entriesOf place).map (·.1))))
  | _ => throw .malformed

/-- Fills all collections, each time those that have been met since. Every one is met
once, so no more times are needed than there are nodes. -/
def fillAll : Nat → Build Unit
  | 0 => pure ()
  | times + 1 => do
    match (← get).waiting with
    | [] => pure ()
    | waiting =>
      modify fun s => { s with waiting := [] }
      waiting.reverse.forM fill
      fillAll times

end Build

mutual

/-- The labels in a value that stand for a collection around it. -/
def openLabels : Value → List Nat
  | .list xs => openLabelsIn xs
  | .tuple xs => openLabelsIn xs
  | .map es => openLabelsInEntries es
  | .cycle l v => (openLabels v).filter (· ≠ l)
  | .back l => [l]
  | _ => []

/-- The labels in the members of a collection that stand for one around it. -/
def openLabelsIn : List Value → List Nat
  | [] => []
  | x :: xs => openLabels x ++ openLabelsIn xs

/-- The labels in the entries of a map that stand for a collection around it. -/
def openLabelsInEntries : List (Value × Value) → List Nat
  | [] => []
  | (_, v) :: r => openLabels v ++ openLabelsInEntries r

end

/-- A collection with a label if it is a part of itself. -/
def labelled (label : Nat) (v : Value) : Value :=
  if (openLabels v).isEmpty then v else .cycle label v

/-- The value of an object inside the collections at some places. The first argument
bounds how deep it is. -/
def valueAt (items : Array (Option Item)) : Nat → List Place → Place → Value
  | 0, _, _ => .null
  | depth + 1, path, place =>
    match items.getD place none with
    | some (.value v _) => v
    | some (.filled c) =>
      if path.contains place then .back place
      else
        let part := valueAt items depth (place :: path)
        let pair := fun (e : Place × Place) (i : Nat) =>
          labelled (items.size * (i + 1) + place) (.tuple [part e.1, part e.2])
        labelled place (match c with
          | .list items => .list (items.map part)
          | .pairs entries => .list (entries.zipIdx.map fun (e, i) => pair e i)
          | .set keys => .set (keys.map part)
          | .map entries => .map (entries.map fun e => (part e.1, part e.2)))
    | _ => .null

/-- The value of a text that holds one document. A text without a document holds
nothing. -/
def readDocument (room : Nat) (text : String) : Except DocumentFault Value := do
  match ← Graph.ofText room text.toList with
  | none => pure .null
  | some (graph, place) =>
    let size := graph.nodes.size
    let building : Building := ⟨graph, Array.replicate size none, []⟩
    let (_, built) ←
      (do Build.meet place; Build.fillAll (size + 1) : Build Unit).run building
    pure (valueAt built.items (size + 1) [] place)

end HdlLint.Yaml
