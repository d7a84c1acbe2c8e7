import HdlLint.Report.Emoji.Table
import HdlLint.Text.Blank
import HdlLint.Text.LowerCase

/-!
# Emoji codes

A name between two colons stands for an emoji. Behind the name a hyphen and `emoji` or
`text` may ask for a variant. Codes that are not known stay as they are.
-/

namespace HdlLint.Report.Emoji

/-- The endings of codes that ask for a variant, and the selectors that give it. -/
def variants : List (List Char × Char) :=
  [("-emoji".toList, '\uFE0F'), ("-text".toList, '\uFE0E')]

/-- The ending of a code that asks for a variant, if it has one. -/
def variant? (code : List Char) : Option (List Char × Char) :=
  variants.find? fun v => v.1.isSuffixOf code

def named? (name : List Char) : Option (List Char) :=
  table.lookup (Text.lowerChars false name)

/-- The emoji for what stands between two colons. -/
def decode? (code : List Char) : Option (List Char) :=
  match variant? code with
  | some (ending, selector) =>
      (named? (code.take (code.length - ending.length))).map (· ++ [selector])
  | none => named? code

/-- Whether a character can be part of a code. -/
def isCodeChar (c : Char) : Bool :=
  c ≠ ':' && !Text.isBlank c

/-- What is written for a code with its colons. -/
def written (code : List Char) : List Char :=
  (decode? code).getD (':' :: code ++ [':'])

/-- The text with emoji in place of their codes. A colon that ends one code does not begin
the next one. The second argument is the code begun so far, in reverse, if one has
begun. -/
def replace : List Char → Option (List Char) → List Char
  | [], none => []
  | [], some code => ':' :: code.reverse
  | c :: r, none => if c = ':' then replace r (some []) else c :: replace r none
  | c :: r, some code =>
    if c = ':' then written code.reverse ++ replace r none
    else if isCodeChar c then replace r (some (c :: code))
    else ':' :: code.reverse ++ c :: replace r none

end HdlLint.Report.Emoji
