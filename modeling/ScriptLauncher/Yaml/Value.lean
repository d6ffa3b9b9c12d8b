import ScriptLauncher.Text.Double
import ScriptLauncher.Text.Utf8
import ScriptLauncher.Yaml.Moment

namespace ScriptLauncher.Yaml

-- What a YAML scalar means. A tag says what kind of value a scalar is; a plain scalar without a tag
-- has its kind from its text. The launcher tells texts and switches from everything else; as keys
-- all values are told apart.

open Numeral

-- The tags with a meaning, in their short form.
namespace Tag

def null : Bytes := text "!!null"
def flag : Bytes := text "!!bool"
def integer : Bytes := text "!!int"
def float : Bytes := text "!!float"
def moment : Bytes := text "!!timestamp"
def string : Bytes := text "!!str"
def binary : Bytes := text "!!binary"
def merge : Bytes := text "!!merge"

end Tag

inductive Value where
  | null
  | flag (value : Bool)
  | integer (value : Int)
  | float (value : Double)
  | moment (value : Moment)
  | text (value : Bytes)
  deriving DecidableEq, Repr

namespace Value

-- Whether two values are the same as keys. Values of different kinds never are.
def isSame : Value → Value → Bool
  | .float a,.float b => a.isSame b
  | .moment a,.moment b => a.isSame b
  | a,b => a == b

def isText : Value → Bool
  | .text _ => true
  | _ => false

def spellings : List (String × Value) :=
  [("",.null),("~",.null),("null",.null),("Null",.null),("NULL",.null),
    ("true",.flag true),("True",.flag true),("TRUE",.flag true),
    ("false",.flag false),("False",.flag false),("FALSE",.flag false),
    (".nan",.float .undefined),(".NaN",.float .undefined),(".NAN",.float .undefined),
    (".inf",.float (.infinite false)),(".Inf",.float (.infinite false)),
    (".INF",.float (.infinite false)),("+.inf",.float (.infinite false)),
    ("+.Inf",.float (.infinite false)),("+.INF",.float (.infinite false)),
    ("-.inf",.float (.infinite true)),("-.Inf",.float (.infinite true)),
    ("-.INF",.float (.infinite true))]

-- Digits of a base; none at all stand for zero.
def digits? (base : Nat) (s : List Char) : Option Nat :=
  if s.all (inBase base) then some (Numeral.value base s) else none

-- An integer without a sign. A zero in front makes it octal, and a letter after that zero tells
-- another base.
def natural? : List Char → Option Nat
  | [] => none
  | '0' :: mark :: c :: s =>
    if mark == 'x' || mark == 'X' then digits? 16 (c :: s)
    else if mark == 'b' || mark == 'B' then digits? 2 (c :: s)
    else if mark == 'o' || mark == 'O' then digits? 8 (c :: s)
    else digits? 8 (mark :: c :: s)
  | '0' :: s => digits? 8 s
  | s => digits? 10 s

def withSign? (isNegative : Bool) (n : Nat) : Option Int :=
  if isNegative then if n ≤ maxInt + 1 then some (-(n : Int)) else none
  else if n ≤ maxInt then some n
  else none

def signed? (base : Nat) (s : List Char) : Option Int :=
  let body := unsigned s
  if body.isEmpty then none else (digits? base body).bind (withSign? (s.head? == some '-'))

-- An integer. Without a sign it may take the 64 bits to itself. After the marks for binary and
-- octal numbers a sign may stand as well.
def integer? (s : List Char) : Option Int :=
  match natural? (unsigned s) with
  | some n =>
    if n ≤ 0xFFFFFFFFFFFFFFFF && !(s.head?.map isSign).getD false then some n
    else withSign? (s.head? == some '-') n
  | none =>
    match s with
    | '0' :: 'b' :: body => signed? 2 body
    | '0' :: 'o' :: body => signed? 8 body
    | _ => none

def number? (plain : List Char) : Option Value :=
  ((integer? plain).map .integer).orElse fun _ => (Double.ofText? plain).map .float

-- The value that a text other than a spelling shows, unless it is a text. Moments only count where
-- they are `dated`. Underscores in numbers have no meaning.
def shown? (dated : Bool) : List Char → Option Value
  | [] => none
  | c :: s =>
    if c == '.' then
      ((dropSeparators? none (c :: s)).bind Double.ofText?).map .float
    else if isDigit c || isSign c then
      let moment := if dated then Moment.ofText? (c :: s) else none
      (moment.map .moment).orElse fun _ => number? ((c :: s).filter (· != '_'))
    else none

def ofText (dated : Bool) (s : List Char) : Value :=
  match spellings.find? (·.1.toList == s) with
  | some (_,value) => value
  | none => (shown? dated s).getD (.text (Utf8.encode s))

def sextet? (c : Char) : Option Nat :=
  if c.isUpper then some (c.toNat - 65)
  else if c.isLower then some (c.toNat - 71)
  else if c.isDigit then some (c.toNat + 4)
  else if c == '+' then some 62
  else if c == '/' then some 63
  else none

-- Groups of four characters give three bytes; the last group may be filled up with equals signs.
def groups? : List Char → Option Bytes
  | [] => some []
  | [a,b,'=','='] =>
    match sextet? a,sextet? b with
    | some x,some y => some [UInt8.ofNat (x * 4 + y / 16)]
    | _,_ => none
  | [a,b,c,'='] =>
    match sextet? a,sextet? b,sextet? c with
    | some x,some y,some z => some [UInt8.ofNat (x * 4 + y / 16),UInt8.ofNat (y % 16 * 16 + z / 4)]
    | _,_,_ => none
  | a :: b :: c :: d :: s =>
    match sextet? a,sextet? b,sextet? c,sextet? d with
    | some x,some y,some z,some w =>
      (groups? s).map fun rest =>
        UInt8.ofNat (x * 4 + y / 16) :: UInt8.ofNat (y % 16 * 16 + z / 4) ::
          UInt8.ofNat (z % 4 * 64 + w) :: rest
    | _,_,_,_ => none
  | _ => none

-- The bytes of a text in base 64. Line ends in it have no meaning.
def base64? (s : List Char) : Option Bytes := groups? (s.filter fun c => c != '\n' && c != '\r')

-- A value under the tag of a kind, if it is of that kind. An integer may also be a float, unless it
-- takes the 64 bits to itself.
def tagged? (tag : Bytes) : Value → Option Value
  | .null => if tag == Tag.null then some .null else none
  | .flag value => if tag == Tag.flag then some (.flag value) else none
  | .integer value =>
    if tag == Tag.integer then some (.integer value)
    else if tag == Tag.float && value ≤ maxInt then some (.float (.ofInt value))
    else none
  | .float value => if tag == Tag.float then some (.float value) else none
  | .moment value => if tag == Tag.moment then some (.moment value) else none
  | .text _ => none

def kindTags : List Bytes :=
  [Tag.null,Tag.flag,Tag.integer,Tag.float,Tag.moment]

-- The value of a scalar, if its text suits its tag. Other tags than those of kinds say nothing.
def ofScalar? (tag : Option Bytes) (plain : Bool) (content : List Char) : Option Value :=
  match tag with
  | none => some (if plain then .ofText true content else .text (Utf8.encode content))
  | some tag =>
    if tag == Tag.binary then (base64? content).map .text
    else if kindTags.contains tag then tagged? tag (.ofText (tag == Tag.moment) content)
    else some (.text (Utf8.encode content))

end Value

end ScriptLauncher.Yaml
