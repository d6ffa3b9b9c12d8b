import ScriptLauncher.Text.Utf8

namespace ScriptLauncher.Yaml

-- Where the characters of a YAML text come from. Bytes are taken in portions and decoded as they
-- are taken, so a byte that is no part of a character is only noticed by a reader that gets to its
-- portion. A byte order mark at the very start tells the encoding, which is otherwise UTF-8.

-- Stands behind the last character of a text. No text holds this character itself.
def endMark : Char := '\x00'

def orderMark : Char := '\uFEFF'

def isAllowed (c : Char) : Bool :=
  let n := c.toNat
  n == 0x09 || n == 0x0A || n == 0x0D || (0x20 ≤ n && n ≤ 0x7E) || n == 0x85 ||
    (0xA0 ≤ n && n ≤ 0xD7FF) || (0xE000 ≤ n && n ≤ 0xFFFD) || 0x10000 ≤ n

inductive Encoding where
  | utf8
  | utf16 (bigEndian : Bool)

inductive Sample where
  | char (c : Char) (rest : Bytes)
  | short
  | malformed

namespace Sample

def ofCode (code : Nat) (rest : Bytes) : Sample :=
  if code.isValidChar && isAllowed (Char.ofNat code) then .char (Char.ofNat code) rest
  else .malformed

def width? (b : UInt8) : Option Nat :=
  if b < 0x80 then some 1
  else if 0xC0 ≤ b && b < 0xE0 then some 2
  else if 0xE0 ≤ b && b < 0xF0 then some 3
  else if 0xF0 ≤ b && b < 0xF8 then some 4
  else none

def least : Nat → Nat
  | 2 => 0x80
  | 3 => 0x800
  | 4 => 0x10000
  | _ => 0

def leading (b : UInt8) : Nat → Nat
  | 1 => b.toNat
  | 2 => b.toNat % 32
  | 3 => b.toNat % 16
  | _ => b.toNat % 8

def ofUtf8 : Bytes → Sample
  | [] => .short
  | b :: s =>
    match width? b with
    | none => .malformed
    | some width =>
      let tail := s.take (width - 1)
      if tail.length < width - 1 then .short
      else if !tail.all Utf8.isTail then .malformed
      else
        let code := tail.foldl (fun code t => code * 64 + t.toNat % 64) (leading b width)
        if code < least width then .malformed else ofCode code (s.drop (width - 1))

def unit (bigEndian : Bool) (a b : UInt8) : Nat :=
  if bigEndian then a.toNat * 256 + b.toNat else b.toNat * 256 + a.toNat

def ofUtf16 (bigEndian : Bool) : Bytes → Sample
  | a :: b :: s =>
    let first := unit bigEndian a b
    if first / 1024 == 0x37 then .malformed
    else if first / 1024 == 0x36 then
      match s with
      | c :: d :: rest =>
        let second := unit bigEndian c d
        if second / 1024 == 0x37 then
          ofCode (0x10000 + first % 1024 * 1024 + second % 1024) rest
        else .malformed
      | _ => .short
    else ofCode first s
  | _ => .short

def ofBytes : Encoding → Bytes → Sample
  | .utf8,s => ofUtf8 s
  | .utf16 bigEndian,s => ofUtf16 bigEndian s

end Sample

structure Source where
  encoding : Encoding
  held : Bytes
  later : Bytes
  exhausted : Bool

namespace Source

def portion : Nat := 512

-- A text from its start. Three bytes are asked for to tell the encoding, so a shorter text is known
-- to be at its end.
def ofBytes (data : Bytes) : Source :=
  let begin_ (encoding : Encoding) (mark : Nat) : Source :=
    ⟨encoding,(data.take portion).drop mark,data.drop portion,decide (data.length < 3)⟩
  match data with
  | 0xFF :: 0xFE :: _ => begin_ (.utf16 false) 2
  | 0xFE :: 0xFF :: _ => begin_ (.utf16 true) 2
  | 0xEF :: 0xBB :: 0xBF :: _ => begin_ .utf8 3
  | _ => begin_ .utf8 0

def fetch (s : Source) : Source :=
  if s.later.isEmpty then { s with exhausted := true }
  else
    let room := portion - s.held.length
    { s with held := s.held ++ s.later.take room,later := s.later.drop room }

-- The characters of the bytes at hand, and the bytes of an incomplete one after them. At the end of
-- the text a character must be complete.
def decodeHeld (encoding : Encoding) (exhausted : Bool) :
    Nat → List Char → Bytes → Option (List Char × Bytes)
  | 0,seen,s => some (seen.reverse,s)
  | fuel + 1,seen,s =>
    if s.isEmpty then some (seen.reverse,s)
    else match Sample.ofBytes encoding s with
      | .char c rest => decodeHeld encoding exhausted fuel (c :: seen) rest
      | .short => if exhausted then none else some (seen.reverse,s)
      | .malformed => none

-- Decodes until there are at least `count` characters. Behind the end of the text an end mark is
-- added, a further one each time.
def supply (count : Nat) : Nat → List Char → Source → Option (List Char × Source)
  | 0,ahead,s => some (ahead,s)
  | fuel + 1,ahead,s =>
    match decodeHeld s.encoding s.exhausted (s.held.length + 1) [] s.held with
    | none => none
    | some (cs,held) =>
      let ahead := ahead ++ cs
      let s := { s with held }
      if s.exhausted then some (ahead ++ [endMark],s)
      else if count ≤ ahead.length then some (ahead,s)
      else supply count fuel ahead s.fetch

end Source

end ScriptLauncher.Yaml
