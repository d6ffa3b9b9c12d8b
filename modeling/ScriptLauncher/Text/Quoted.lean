import ScriptLauncher.Text.Utf8
import ScriptLauncher.Text.Printable

namespace ScriptLauncher.Quoted

-- Quoted texts in messages: a double-quoted literal in which quotes, backslashes and everything not
-- printable are escaped, so that a quoted text is one line of printable characters whatever its
-- bytes are, and can be read back.

def hexDigit (n : Nat) : UInt8 :=
  if n < 10 then (48 + n).toUInt8 else (87 + n).toUInt8

def hex : Nat → Nat → Bytes
  | 0,_ => []
  | width + 1,n => hex width (n / 16) ++ [hexDigit (n % 16)]

def letter? : Char → Option UInt8
  | '\x07' => some (byte 'a')
  | '\x08' => some (byte 'b')
  | '\x0c' => some (byte 'f')
  | '\n' => some (byte 'n')
  | '\r' => some (byte 'r')
  | '\t' => some (byte 't')
  | '\x0b' => some (byte 'v')
  | _ => none

def escape : Rune → Bytes
  | .stray b => text "\\x" ++ hex 2 b.toNat
  | .char c =>
    if c == '"' || c == '\\' then [byte '\\',byte c]
    else if Printable.isPrintable c then Rune.bytes (.char c)
    else match letter? c with
      | some l => [byte '\\',l]
      | none =>
        if c.toNat < 0x80 then text "\\x" ++ hex 2 c.toNat
        else if c.toNat < 0x10000 then text "\\u" ++ hex 4 c.toNat
        else text "\\U" ++ hex 8 c.toNat

def quote (s : Bytes) : Bytes :=
  byte '"' :: (Utf8.decode s).flatMap escape ++ [byte '"']

end ScriptLauncher.Quoted
