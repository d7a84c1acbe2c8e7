import HdlLint.Yaml.Scalar.Form
import HdlLint.Yaml.Scalar.Time
import HdlLint.Yaml.Token

/-!
# Nodes of a document

A node is a scalar, a sequence or a mapping, with the kind of value that its tag asks for.
Nodes stand in a `Graph` and name each other by their places, because an alias makes one
node a part of several others, and even of itself.
-/

namespace HdlLint.Yaml

/-- The kind of value that a tag asks for. -/
inductive Tag where
  | null
  | bool
  | int
  | float
  | binary
  | timestamp
  | omap
  | pairs
  | set
  | str
  | seq
  | map
  | merge
  | value
  | other
  deriving Repr, DecidableEq

/-- What the names of the known tags begin with. -/
def tagStart : String := "tag:yaml.org,2002:"

/-- The known tags by the ends of their names. -/
def knownTags : List (String × Tag) :=
  [("null", .null), ("bool", .bool), ("int", .int), ("float", .float),
    ("binary", .binary), ("timestamp", .timestamp), ("omap", .omap),
    ("pairs", .pairs), ("set", .set), ("str", .str), ("seq", .seq), ("map", .map),
    ("merge", .merge), ("value", .value)]

/-- The tag of a full name. -/
def Tag.ofName (name : String) : Tag :=
  ((knownTags.find? fun t => tagStart ++ t.1 = name).map (·.2)).getD .other

/-- The tag of a plain scalar, by its form. A line feed at its end does not count, unless
there is nothing else. -/
def Tag.ofPlain (text : String) : Tag :=
  let s := Form.dropFinalBreak text.toList
  if s.isEmpty && text ≠ "" then .str
  else if Form.isBool s then .bool
  else if Form.isReal s then .float
  else if Form.isInt s then .int
  else if s == ['<', '<'] then .merge
  else if Form.isNull s then .null
  else if Form.isTime s then .timestamp
  else if s == ['='] then .value
  else if s == ['!'] || s == ['&'] || s == ['*'] then .other
  else .str

/-- The place of a node in a graph. -/
abbrev Place := Nat

/-- A node. -/
inductive Node where
  | scalar (tag : Tag) (text : String)
  | sequence (tag : Tag) (items : List Place)
  | mapping (tag : Tag) (entries : List (Place × Place))
  deriving Repr, DecidableEq

namespace Node

def tag : Node → Tag
  | scalar t _ => t
  | sequence t _ => t
  | mapping t _ => t

def withTag (t : Tag) : Node → Node
  | scalar _ text => scalar t text
  | sequence _ items => sequence t items
  | mapping _ entries => mapping t entries

def nothing : Node := .scalar .null ""

end Node

/-- Nodes by their places. -/
structure Graph where
  nodes : Array Node
  deriving Repr

namespace Graph

def node (g : Graph) (p : Place) : Node :=
  g.nodes.getD p .nothing

/-- The graph with another node at a place. -/
def put (g : Graph) (p : Place) (n : Node) : Graph :=
  ⟨g.nodes.setIfInBounds p n⟩

/-- The graph with one more node, and its place. -/
def add (g : Graph) (n : Node) : Graph × Place :=
  (⟨g.nodes.push n⟩, g.nodes.size)

/-- The entries of a node that is a mapping. -/
def entries? (g : Graph) (p : Place) : Option (List (Place × Place)) :=
  match g.node p with
  | .mapping _ entries => some entries
  | _ => none

/-- The graph with other entries in a mapping. -/
def putEntries (g : Graph) (p : Place) (entries : List (Place × Place)) : Graph :=
  match g.node p with
  | .mapping tag _ => g.put p (.mapping tag entries)
  | _ => g

end Graph

end HdlLint.Yaml
