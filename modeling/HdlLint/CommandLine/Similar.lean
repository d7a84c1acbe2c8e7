/-!
# Similar names

How alike two names are is measured by the characters they share: those of the longest
stretch they have in common, and again what is shared before it and behind it. `closest`
gives the names that are alike enough to be what was meant.
-/

namespace HdlLint.CommandLine

/-- The length of what two lists have in common at their beginnings. -/
def commonLength : List Char → List Char → Nat
  | c :: r, d :: s => if c = d then commonLength r s + 1 else 0
  | _, _ => 0

/-- A stretch that two lists share: where it begins in each of them, and its length. -/
structure Stretch where
  first : Nat
  second : Nat
  length : Nat
  deriving Repr

/-- The longest stretch two lists share, the earliest one of several. -/
def longestStretch (a b : List Char) : Stretch :=
  (List.range a.length).foldl
    (fun best i => (List.range b.length).foldl
      (fun best j =>
        let n := commonLength (a.drop i) (b.drop j)
        if best.length < n then ⟨i, j, n⟩ else best) best) ⟨0, 0, 0⟩

/-- The number of characters two lists share, with a bound on how often they are cut. -/
def sharedCount : Nat → List Char → List Char → Nat
  | 0, _, _ => 0
  | n + 1, a, b =>
    let s := longestStretch a b
    if s.length = 0 then 0
    else
      s.length + sharedCount n (a.take s.first) (b.take s.second) +
        sharedCount n (a.drop (s.first + s.length)) (b.drop (s.second + s.length))

/-- Twice the number of shared characters, and the number of all characters. -/
def likeness (a b : String) : Nat × Nat :=
  (2 * sharedCount (a.length + 1) a.toList b.toList, a.length + b.length)

/-- Whether two names are alike: at least three fifths of all characters are shared. -/
def areAlike (a b : String) : Bool :=
  let (shared, all) := likeness a b
  3 * all ≤ 5 * shared

/-- How many names are suggested at most. -/
def suggestionLimit : Nat := 3

/-- The names most like a word, as far as they are alike at all. -/
def closest (word : String) (names : List String) : List String :=
  let alike := names.filter fun name => areAlike name word
  let ranked := alike.mergeSort fun x y =>
    let (p, m) := likeness x word
    let (q, n) := likeness y word
    q * m < p * n || (q * m = p * n && y ≤ x)
  ranked.take suggestionLimit

end HdlLint.CommandLine
