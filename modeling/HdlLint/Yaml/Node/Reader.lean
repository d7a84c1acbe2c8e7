import HdlLint.Yaml.Node
import HdlLint.Yaml.Token.Lexer

/-!
# Reading nodes

A document holds one node. Blocks and brackets nest, entries may be left out where a mark
shows that one was meant, and an alias stands for the node that was anchored before, which
may still be in the reading. There is room only for so many collections in one another.

`Graph.ofText` gives the nodes of a text that holds one document and the place of the
outermost one, or nothing for a text that holds none.
-/

namespace HdlLint.Yaml

/-- The state of reading nodes: the tokens ahead, the fault behind them if they could not
all be read, the nodes, the places of anchored ones by name, the shorthands for tags, and
the room left for collections in what is read. -/
structure NodeReader where
  tokens : List Token
  fault : Option DocumentFault
  graph : Graph
  anchors : List (String × Place)
  handles : List (String × String)
  room : Nat

abbrev Reading (α : Type) := StateT NodeReader (Except DocumentFault) α

namespace Reading

/-- The next token, or none at the end. Where the tokens end in a fault, it arises
here. -/
def peek : Reading (Option Token) := do
  let s ← get
  match s.tokens, s.fault with
  | t :: _, _ => pure (some t)
  | [], some f => throw f
  | [], none => pure none

def advance : Reading Unit :=
  modify fun s => { s with tokens := s.tokens.tail }

/-- Passes over the next token if it is the given one, and tells whether it was. -/
def accept (t : Token) : Reading Bool := do
  if (← peek) = some t then
    advance
    pure true
  else pure false

/-- Passes over the next token, which has to be the given one. -/
def require (t : Token) : Reading Unit := do
  if !(← accept t) then throw .malformed

/-- Whether the next token is one of some. -/
def nextIs (ts : List Token) : Reading Bool := do
  match ← peek with
  | some t => pure (ts.contains t)
  | none => pure false

def add (n : Node) : Reading Place :=
  modifyGet fun s =>
    let (graph, place) := s.graph.add n
    (place, { s with graph := graph })

/-- Adds a node that says nothing. -/
def addNothing : Reading Place :=
  add .nothing

/-- Adds a node under a name, if it has one. Two nodes cannot have one name. -/
def addNamed (name : Option String) (n : Node) : Reading Place := do
  match name with
  | none => add n
  | some name =>
    if ((← get).anchors.lookup name).isSome then throw .malformed
    let place ← add n
    modify fun s => { s with anchors := (name, place) :: s.anchors }
    pure place

/-- Puts a node at a place. -/
def put (place : Place) (n : Node) : Reading Unit :=
  modify fun s => { s with graph := s.graph.put place n }

/-- Reads what stands in a collection. -/
def inside {α : Type} (content : Reading α) : Reading α := do
  if (← get).room = 0 then
    throw (.crash (.of .recursion "maximum recursion depth exceeded"))
  modify fun s => { s with room := s.room - 1 }
  let found ← content
  modify fun s => { s with room := s.room + 1 }
  pure found

/-- The place of the node that an alias stands for. -/
def aliased (name : String) : Reading Place := do
  match (← get).anchors.lookup name with
  | some place => pure place
  | none => throw .malformed

/-- The full name of a tag. -/
def fullTag (t : TagText) : Reading String := do
  match t.handle with
  | none => pure t.suffix
  | some handle =>
    match (← get).handles.lookup handle with
    | some start => pure (start ++ t.suffix)
    | none => throw .malformed

/-- Reads an anchor and a tag in either order, as far as they are there. -/
def properties : Reading (Option String × Option String) := do
  match ← peek with
  | some (.anchor name) =>
    advance
    match ← peek with
    | some (.tag t) =>
      advance
      pure (some name, some (← fullTag t))
    | _ => pure (some name, none)
  | some (.tag t) =>
    advance
    match ← peek with
    | some (.anchor name) =>
      advance
      pure (some name, some (← fullTag t))
    | _ => pure (none, some (← fullTag t))
  | _ => pure (none, none)

/-- The tag of a collection: the one of its kind if none is written. -/
def collectionTag (ordinary : Tag) : Option String → Tag
  | none => ordinary
  | some name => if name = "!" then ordinary else .ofName name

/-- The tag of a scalar: by its form if it is plain without a tag, or has the tag that
asks for that. -/
def scalarTag (written : Option String) (text : String) (plain : Bool) : Tag :=
  match written with
  | none => if plain then .ofPlain text else .str
  | some name => if name = "!" then .ofPlain text else .ofName name

/-- The tokens that cannot begin the node of an entry, because they begin the next one or
end the block. -/
def keyEnds : List Token := [.key, .value, .blockEnd]

mutual

/-- Reads a node. In a block it may be a block itself, and under a key also a sequence
without indentation. -/
def node (block indentless : Bool) : Nat → Reading Place
  | 0 => throw .malformed
  | fuel + 1 => do
    match ← peek with
    | some (.alias name) =>
      advance
      aliased name
    | _ =>
      let (anchor, tag) ← properties
      let next ← peek
      let sequence := fun (items : Reading (List Place)) => do
        let place ← addNamed anchor (.sequence (collectionTag .seq tag) [])
        put place (.sequence (collectionTag .seq tag) (← inside items))
        pure place
      let mapping := fun (entries : Reading (List (Place × Place))) => do
        let place ← addNamed anchor (.mapping (collectionTag .map tag) [])
        put place (.mapping (collectionTag .map tag) (← inside entries))
        pure place
      match next with
      | some .blockEntry =>
        if indentless then sequence (indentlessItems fuel) else emptyNode anchor tag
      | some (.scalar text plain) =>
        advance
        addNamed anchor (.scalar (scalarTag tag text plain) text)
      | some .flowSequence =>
        advance
        sequence (flowItems true fuel)
      | some .flowMapping =>
        advance
        mapping (flowEntries true fuel)
      | some .blockSequence =>
        if block then
          advance
          sequence (blockItems fuel)
        else emptyNode anchor tag
      | some .blockMapping =>
        if block then
          advance
          mapping (blockEntries fuel)
        else emptyNode anchor tag
      | _ => emptyNode anchor tag

/-- A node of which only an anchor or a tag is there. -/
def emptyNode (anchor tag : Option String) : Reading Place := do
  if anchor.isNone && tag.isNone then throw .malformed
  addNamed anchor (.scalar (scalarTag tag "" true) "")

/-- Reads a node, or says nothing if one of some tokens is next. -/
def nodeUnless (ends : List Token) (block indentless : Bool) : Nat → Reading Place
  | 0 => throw .malformed
  | fuel + 1 => do
    if ← nextIs ends then addNothing else node block indentless fuel

/-- Reads the entries of a block sequence and its end. -/
def blockItems : Nat → Reading (List Place)
  | 0 => throw .malformed
  | fuel + 1 => do
    if ← accept .blockEntry then
      let n ← nodeUnless [.blockEntry, .blockEnd] true false fuel
      pure (n :: (← blockItems fuel))
    else
      require .blockEnd
      pure []

/-- Reads the entries of a sequence without indentation. -/
def indentlessItems : Nat → Reading (List Place)
  | 0 => throw .malformed
  | fuel + 1 => do
    if ← accept .blockEntry then
      let n ← nodeUnless [.blockEntry, .key, .value, .blockEnd] true false fuel
      pure (n :: (← indentlessItems fuel))
    else pure []

/-- Reads the entries of a block mapping and its end. Each begins with a key. -/
def blockEntries : Nat → Reading (List (Place × Place))
  | 0 => throw .malformed
  | fuel + 1 => do
    if ← accept .key then
      let k ← nodeUnless keyEnds true true fuel
      let v ← if ← accept .value then nodeUnless keyEnds true true fuel else addNothing
      pure ((k, v) :: (← blockEntries fuel))
    else
      require .blockEnd
      pure []

/-- Reads the entries between brackets and the closing one. -/
def flowItems (first : Bool) : Nat → Reading (List Place)
  | 0 => throw .malformed
  | fuel + 1 => do
    if ← accept .flowSequenceEnd then pure []
    else
      if !first then require .flowEntry
      if ← accept .key then
        let place ← add (.mapping .map [])
        let entry ← inside do
          let k ← nodeUnless [.value, .flowEntry, .flowSequenceEnd] false false fuel
          let v ←
            if ← accept .value then
              nodeUnless [.flowEntry, .flowSequenceEnd] false false fuel
            else addNothing
          pure (k, v)
        put place (.mapping .map [entry])
        pure (place :: (← flowItems false fuel))
      else if ← accept .flowSequenceEnd then pure []
      else
        let n ← node false false fuel
        pure (n :: (← flowItems false fuel))

/-- Reads the entries between braces and the closing one. -/
def flowEntries (first : Bool) : Nat → Reading (List (Place × Place))
  | 0 => throw .malformed
  | fuel + 1 => do
    if ← accept .flowMappingEnd then pure []
    else
      if !first then require .flowEntry
      if ← accept .key then
        let k ← nodeUnless [.value, .flowEntry, .flowMappingEnd] false false fuel
        let v ←
          if ← accept .value then
            nodeUnless [.flowEntry, .flowMappingEnd] false false fuel
          else addNothing
        pure ((k, v) :: (← flowEntries false fuel))
      else if ← accept .flowMappingEnd then pure []
      else
        let k ← node false false fuel
        let v ← addNothing
        pure ((k, v) :: (← flowEntries false fuel))

end

/-- The shorthands for tags that are known without a directive. -/
def ordinaryHandles : List (String × String) := [("!", "!"), ("!!", tagStart)]

/-- Reads the directives of a document. There may be one of the version, which has to be
the first, and one for each shorthand. -/
def directives (versioned : Bool) (handles : List (String × String)) :
    Nat → Reading (List (String × String))
  | 0 => throw .malformed
  | fuel + 1 => do
    match ← peek with
    | some (.versionDirective major) =>
      if versioned || major ≠ 1 then throw .malformed
      advance
      directives true handles fuel
    | some (.tagDirective handle start) =>
      if (handles.lookup handle).isSome then throw .malformed
      advance
      directives versioned (handles ++ [(handle, start)]) fuel
    | some .otherDirective =>
      advance
      directives versioned handles fuel
    | _ => pure (handles ++ ordinaryHandles)

/-- Passes over marks that end documents. -/
def skipEnds : Nat → Reading Unit
  | 0 => throw .malformed
  | fuel + 1 => do
    if ← accept .documentEnd then skipEnds fuel

/-- Whether a document begins here without a mark that says so. -/
def beginsPlainly : Token → Bool
  | .versionDirective _ => false
  | .tagDirective _ _ => false
  | .otherDirective => false
  | .documentStart => false
  | _ => true

/-- Whether the content of a document is missing behind its mark. -/
def lacksContent : Option Token → Bool
  | none => true
  | some .documentEnd => true
  | some t => !beginsPlainly t

/-- Reads the only document of a text, or none. -/
def document (fuel : Nat) : Reading (Option Place) := do
  match ← peek with
  | none => pure none
  | some t =>
    let n ←
      if beginsPlainly t then node true false fuel
      else do
        let handles ← directives false [] fuel
        modify fun s => { s with handles := handles }
        require .documentStart
        if lacksContent (← peek) then addNothing else node true false fuel
    skipEnds fuel
    match ← peek with
    | none => pure (some n)
    | some _ => throw .malformed

end Reading

/-- The nodes of a text that holds one document and the place of the outermost one, or
none if it holds no document. -/
def Graph.ofText (room : Nat) (s : List Char) :
    Except DocumentFault (Option (Graph × Place)) := do
  let (tokens, fault) := Token.ofText s
  let reader : NodeReader := ⟨tokens, fault, ⟨#[]⟩, [], Reading.ordinaryHandles, room⟩
  let (place, reader) ← (Reading.document (3 * tokens.length + 10)).run reader
  pure (place.map fun p => (reader.graph, p))

end HdlLint.Yaml
