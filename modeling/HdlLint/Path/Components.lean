/-!
# Path components

A path is a list of characters cut into components at its separators. `resolve` removes
the components that say nothing and lets `..` cancel the component before it; above an
anchor there is nothing, so there `..` is dropped. `joinWith` puts components together
again.
-/

namespace HdlLint.Path

abbrev Component := List Char

/-- The component that names the folder itself. -/
def current : Component := ['.']

/-- The component that names the folder above. -/
def parent : Component := ['.', '.']

/-- Cuts at each separator. A text with `n` separators has `n + 1` components. -/
def splitOn (isSeparator : Char → Bool) : List Char → List Component
  | [] => [[]]
  | c :: r =>
    if isSeparator c then [] :: splitOn isSeparator r
    else match splitOn isSeparator r with
      | [] => [[c]]
      | w :: ws => (c :: w) :: ws

/-- The components with a separator between neighbours. -/
def joinWith (separator : Char) : List Component → List Char
  | [] => []
  | [w] => w
  | w :: ws => w ++ separator :: joinWith separator ws

/-- The component that says nothing: the empty one and the folder itself. -/
def isIdle (w : Component) : Bool :=
  w.isEmpty || w == current

/-- One component put on a stack of resolved ones, the last one on top. -/
def push (anchored : Bool) (stack : List Component) (w : Component) : List Component :=
  if isIdle w then stack
  else if w == parent then
    match stack with
    | [] => if anchored then [] else [w]
    | top :: below => if top == parent then w :: stack else below
  else w :: stack

/-- The components without idle ones and with each `..` carried out where that is
possible. -/
def resolve (anchored : Bool) (ws : List Component) : List Component :=
  (ws.foldl (push anchored) []).reverse

/-- The part of a text up to its last separator, which it includes, and the part after
it. -/
def splitLast (isSeparator : Char → Bool) (s : List Char) : List Char × List Char :=
  let tail := (s.reverse.takeWhile fun c => !isSeparator c).reverse
  (s.take (s.length - tail.length), tail)

/-- A folder without the separators at its end, unless it has nothing else. -/
def stripSeparators (isSeparator : Char → Bool) (head : List Char) : List Char :=
  let stripped := (head.reverse.dropWhile isSeparator).reverse
  if stripped.isEmpty then head else stripped

end HdlLint.Path
