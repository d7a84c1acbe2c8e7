import HdlLint.Text.Digit
import HdlLint.Text.Printable

/-!
# Quoted texts

A quoted text stands between single quotes, or between double quotes if it holds a single
quote and no double quote. The backslash and the enclosing quote are written with a
backslash before them, line feed, carriage return and tab by letters, and every other
character that is not printable by its code point.
-/

namespace HdlLint.Text

/-- The quote that encloses a text. -/
def enclosingQuote (s : List Char) : Char :=
  if s.contains '\x27' && !s.contains '\x22' then '\x22' else '\x27'

/-- A character that is not printable, by its code point in two, four or eight hexadecimal
digits. -/
def escapeCodePoint (c : Char) : List Char :=
  if c.toNat < 0x100 then '\\' :: 'x' :: hexDigits 2 c.toNat
  else if c.toNat < 0x10000 then '\\' :: 'u' :: hexDigits 4 c.toNat
  else '\\' :: 'U' :: hexDigits 8 c.toNat

/-- A character as it stands between the quotes. -/
def quoteChar (quote c : Char) : List Char :=
  if c = quote || c = '\\' then ['\\', c]
  else if c = '\n' then ['\\', 'n']
  else if c = '\r' then ['\\', 'r']
  else if c = '\t' then ['\\', 't']
  else if isPrintable c then [c]
  else escapeCodePoint c

/-- The characters of a quoted text. -/
def quoteChars (s : List Char) : List Char :=
  let quote := enclosingQuote s
  quote :: s.flatMap (quoteChar quote) ++ [quote]

/-- The quoted form of a text. -/
def quoted (s : String) : String :=
  String.ofList (quoteChars s.toList)

/-- The quoted form of a sequence of bytes: `b` and the bytes, those outside printable
ASCII by their code. -/
def quotedBytes (bytes : List UInt8) : String :=
  let s := bytes.map fun b => Char.ofNat b.toNat
  let quote := enclosingQuote s
  let byteChar := fun c =>
    if c.toNat < 0x80 then quoteChar quote c else escapeCodePoint c
  String.ofList ('b' :: quote :: s.flatMap byteChar ++ [quote])

end HdlLint.Text
