import ScriptLauncher.Text.Utf8

namespace ScriptLauncher.Space

-- White space of Unicode. A stray byte is no white space.

def isSpace (c : Char) : Bool :=
  let n := c.toNat
  n == 0x20 || (0x09 ≤ n && n ≤ 0x0D) || n == 0x85 || n == 0xA0 || n == 0x1680 ||
    (0x2000 ≤ n && n ≤ 0x200A) || n == 0x2028 || n == 0x2029 || n == 0x202F || n == 0x205F ||
    n == 0x3000

def isSpaceRune : Rune → Bool
  | .char c => isSpace c
  | .stray _ => false

def trimLeft (s : Bytes) : Bytes :=
  ((Utf8.decode s).dropWhile isSpaceRune).flatMap Rune.bytes

def trimRight (s : Bytes) : Bytes :=
  (((Utf8.decode s).reverse.dropWhile isSpaceRune).reverse).flatMap Rune.bytes

def trim (s : Bytes) : Bytes := trimRight (trimLeft s)

def fields (s : Bytes) : List Bytes :=
  ((Utf8.decode s).foldr (fun rune words =>
    if isSpaceRune rune then [] :: words
    else match words with
      | [] => [rune.bytes]
      | word :: rest => (rune.bytes ++ word) :: rest) [[]]).filter fun word => !word.isEmpty

end ScriptLauncher.Space
