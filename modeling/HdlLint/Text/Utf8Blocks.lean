import HdlLint.Text.Utf8

/-!
# Decoding UTF-8 in blocks

A file is read in blocks. Bytes of an unfinished character at the end of a block are
decoded together with the next block, and the positions in a fault count from the first
byte of what is decoded together.
-/

namespace HdlLint.Text.Utf8

/-- How many bytes are read at once. -/
def blockSize : Nat := 8192

/-- Decodes blocks. The bytes kept from the block before are given, and the text before
them. -/
def decodeBlocksFrom (text : String) (kept : List UInt8) :
    Nat → List UInt8 → Except Fault String
  | 0, _ => (decode kept).map (text ++ ·)
  | fuel + 1, bytes =>
    if bytes.isEmpty then (decode kept).map (text ++ ·)
    else
      let block := kept ++ bytes.take blockSize
      match decode block with
      | .ok s => decodeBlocksFrom (text ++ s) [] fuel (bytes.drop blockSize)
      | .error f =>
        if f.reason = .unexpectedEnd then
          decodeBlocksFrom (text ++ decodeLossy (block.take f.start))
            (block.drop f.start) fuel (bytes.drop blockSize)
        else .error f

/-- The text of a file, or the first ill-formed part with its position in the block. -/
def decodeBlocks (bytes : List UInt8) : Except Fault String :=
  decodeBlocksFrom "" [] (bytes.length / blockSize + 1) bytes

end HdlLint.Text.Utf8
