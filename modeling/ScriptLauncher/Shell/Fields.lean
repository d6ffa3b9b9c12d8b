import ScriptLauncher.Shell.Pattern

namespace ScriptLauncher.Shell

-- From the expansion of a word to its fields. An expansion is a list of spans: some are kept whole
-- and some are split, at the separators of the shell or only at the borders between its arguments.
-- Blanks among the separators never make an empty field, the others do.

inductive Glyph where
  | letter (b : UInt8) (escaped : Bool)
  -- A quotation mark: nothing is seen of it, but a field that has one is there even if empty.
  | mark
  | border

inductive Splitting where
  | none
  | atSeparators
  | atBorders
  deriving DecidableEq

structure Span where
  glyphs : List Glyph
  splitting : Splitting
  isText : Bool := false

namespace Span

def consText (g : Glyph) (splitting : Splitting) : List Span → List Span
  | ⟨glyphs,other,true⟩ :: rest =>
    if other == splitting then ⟨g :: glyphs,splitting,true⟩ :: rest
    else ⟨[g],splitting,true⟩ :: ⟨glyphs,other,true⟩ :: rest
  | spans => ⟨[g],splitting,true⟩ :: spans

def letters (glyphs : List Glyph) : Bytes := glyphs.filterMap fun
  | .letter b _ => some b
  | _ => none

def flat (spans : List Span) : Bytes := spans.flatMap fun s => letters s.glyphs

def pattern (glyphs : List Glyph) : Pattern := glyphs.filterMap fun
  | .letter b escaped => some (b,escaped)
  | _ => none

end Span

structure Splitter where
  fields : List (List Glyph) := []
  current : List Glyph := []
  behindBlank : Bool := false
  -- How much of the last field is kept, where separators at its end do not count.
  cut : Option Nat := none
  left : Option Nat := none
  onlyBorders : Bool := false

namespace Splitter

def push (s : Splitter) (g : Glyph) : Splitter := { s with current := g :: s.current }

def step (separators : Bytes) (onlyBorders afterBorders : Bool) (s : Splitter) (g : Glyph) : Splitter :=
  let isSeparator := match g with
    | .border => true
    | .letter b _ => !onlyBorders && separators.contains b
    | .mark => false
  let isBlank := isSeparator && match g with
    | .letter b _ => b == 32 || b == 9 || b == 10
    | _ => true
  if s.left == some 0 then
    if isBlank then { s.push g with cut := s.cut.orElse fun _ => some s.current.length }
    else
      let cut := if isSeparator && s.behindBlank then s.cut else none
      { s.push g with cut,behindBlank := false }
  else if s.behindBlank && isBlank then { s with current := [] }
  else if s.behindBlank then
    let s := { s with current := [],behindBlank := false }
    if isSeparator then s else s.push g
  else if isSeparator then
    let behindBlank := if afterBorders || onlyBorders then s.behindBlank else isBlank
    if s.current.isEmpty && behindBlank then { s with behindBlank := false }
    else match s.left with
      | some 1 => { s.push g with behindBlank,left := some 0,cut := some s.current.length }
      | left =>
        { s with
          behindBlank,left := left.map (· - 1)
          fields := s.current.reverse :: s.fields,current := [] }
  else { s.push g with behindBlank := false }

def span (separators : Bytes) (s : Splitter) (part : Span) : Splitter :=
  match part.splitting with
  | .none => { s with current := part.glyphs.reverse ++ s.current }
  | splitting =>
    let onlyBorders := splitting == .atBorders
    part.glyphs.foldl (step separators onlyBorders s.onlyBorders)
      { s with behindBlank := false,onlyBorders }

def finish (s : Splitter) : List (List Glyph) :=
  let last := match s.onlyBorders,s.cut with
    | false,some n => s.current.drop (s.current.length - n)
    | _,_ => s.current
  if s.onlyBorders || !last.isEmpty then (last.reverse :: s.fields).reverse else s.fields.reverse

end Splitter

def fields (separators : Bytes) (limit : Option Nat) (spans : List Span) : List (List Glyph) :=
  (spans.foldl (Splitter.span separators) { left := limit }).finish

end ScriptLauncher.Shell
