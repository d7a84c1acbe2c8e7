import HdlLint.Yaml.Cursor
import HdlLint.Yaml.Node

/-!
# Merge keys

A merge key brings the entries of another mapping, or of several, into its own. They come
first, so that the mapping's own entries win; of several mappings the last one comes
first. What is brought has been merged itself before.

Merging changes the graph: merge keys are taken away, and a key that is an equals sign
becomes an ordinary text for everyone who has it. A mapping that brings itself brings what
it has at that moment.
-/

namespace HdlLint.Yaml.Graph

/-- Whether a key is a merge key. -/
def isMergeKey (g : Graph) (e : Place × Place) : Bool :=
  (g.node e.1).tag = .merge

def mergeKeys (g : Graph) : Nat :=
  g.nodes.foldl (fun n node => match node with
    | .mapping _ entries => n + (entries.filter g.isMergeKey).length
    | _ => n) 0

/-- What stands under the first merge key of some entries, and the other entries. -/
def takeMerge? (g : Graph) : List (Place × Place) → Option (Place × List (Place × Place))
  | [] => none
  | e :: r =>
    if g.isMergeKey e then some (e.2, r)
    else (g.takeMerge? r).map fun (brought, r) => (brought, e :: r)

/-- The graph with ordinary texts in place of keys that are equals signs. -/
def ordinaryKeys (g : Graph) (entries : List (Place × Place)) : Graph :=
  entries.foldl (fun g e => match g.node e.1 with
    | n => if n.tag = .value then g.put e.1 (n.withTag .str) else g) g

/-- Merges a mapping. Given are the most merge keys there can be, and the entries brought
so far. -/
def mergeFrom (place : Place) :
    Nat → List (Place × Place) → Graph → Except DocumentFault Graph
  | fuel, brought, g =>
    match g.entries? place with
    | none => .error .malformed
    | some entries =>
      match g.takeMerge? entries, fuel with
      | none, _ => .ok ((g.ordinaryKeys entries).putEntries place (brought ++ entries))
      | some _, 0 => .error .malformed
      | some (source, entries), fuel + 1 => do
        let g := g.putEntries place entries
        match g.node source with
        | .mapping _ _ => do
          let g ← mergeFrom source fuel [] g
          mergeFrom place fuel (brought ++ (g.entries? source).getD []) g
        | .sequence _ items => do
          let (g, lists) ← items.foldlM
            (fun (g, lists) item => do
              let g ← mergeFrom item fuel [] g
              pure (g, (g.entries? item).getD [] :: lists)) (g, [])
          mergeFrom place fuel (brought ++ lists.flatten) g
        | .scalar _ _ => .error .malformed

def merged (g : Graph) (place : Place) : Except DocumentFault Graph :=
  mergeFrom place g.mergeKeys [] g

end HdlLint.Yaml.Graph
