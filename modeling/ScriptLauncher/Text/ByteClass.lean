import ScriptLauncher.Text.Bytes

namespace ScriptLauncher.ByteClass

-- Classes of bytes that patterns call by name. They hold ASCII characters only.

def isUpper (b : UInt8) : Bool := 65 ≤ b && b ≤ 90

def isLower (b : UInt8) : Bool := 97 ≤ b && b ≤ 122

def isDigit (b : UInt8) : Bool := 48 ≤ b && b ≤ 57

def isAlpha (b : UInt8) : Bool := isUpper b || isLower b

def isAlnum (b : UInt8) : Bool := isAlpha b || isDigit b

def isWord (b : UInt8) : Bool := isAlnum b || b == 95

def isBlank (b : UInt8) : Bool := b == 32 || b == 9

def isSpace (b : UInt8) : Bool := b == 32 || (9 ≤ b && b ≤ 13)

def isGraph (b : UInt8) : Bool := 33 ≤ b && b ≤ 126

def isHexadecimal (b : UInt8) : Bool := isDigit b || (65 ≤ b && b ≤ 70) || (97 ≤ b && b ≤ 102)

def all : List (String × (UInt8 → Bool)) :=
  [("alnum",isAlnum),("alpha",isAlpha),("blank",isBlank),("cntrl",fun b => b < 32 || b == 127),
    ("digit",isDigit),("graph",isGraph),("lower",isLower),("print",fun b => isGraph b || b == 32),
    ("punct",fun b => isGraph b && !isAlnum b),("space",isSpace),("upper",isUpper),("xdigit",isHexadecimal)]

def named? (name : Bytes) : Option (UInt8 → Bool) :=
  (all.find? fun (known,_) => text known == name).map (·.2)

-- The same letter in the other case; every other byte stays.
def swapped (b : UInt8) : UInt8 := if isUpper b then b + 32 else if isLower b then b - 32 else b

end ScriptLauncher.ByteClass
