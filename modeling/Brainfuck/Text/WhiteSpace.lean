import Brainfuck.Text.Utf8

/-!
Trimming of white space: the characters with the Unicode property White_Space, in UTF-8.
-/

namespace Brainfuck.WhiteSpace

def codePoints : List Nat :=
  [0x09, 0x0A, 0x0B, 0x0C, 0x0D, 0x20, 0x85, 0xA0, 0x1680,
   0x2000, 0x2001, 0x2002, 0x2003, 0x2004, 0x2005, 0x2006, 0x2007, 0x2008, 0x2009, 0x200A,
   0x2028, 0x2029, 0x202F, 0x205F, 0x3000]

def encodings : List Bytes :=
  codePoints.map fun code => String.utf8EncodeChar (Char.ofNat code)

def dropMarks (marks : List Bytes) : Nat → Bytes → Bytes
  | 0, text => text
  | rounds + 1, text =>
      match marks.findSome? (Bytes.after? · text) with
      | some rest => dropMarks marks rounds rest
      | none => text

def trimStart (text : Bytes) : Bytes :=
  -- Every encoding has at least one byte, so there are no more rounds than bytes.
  dropMarks encodings text.length text

def trimEnd (text : Bytes) : Bytes :=
  (dropMarks (encodings.map List.reverse) text.length text.reverse).reverse

def trim (text : Bytes) : Bytes :=
  trimEnd (trimStart text)

end Brainfuck.WhiteSpace
