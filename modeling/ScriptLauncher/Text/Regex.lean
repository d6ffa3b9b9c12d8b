import ScriptLauncher.Text.ByteClass

namespace ScriptLauncher

-- Regular expressions on bytes, and where they fit a text. Of all the ways to fit, the one that
-- begins first counts, and of those the longest; where that leaves a choice, an earlier part takes
-- as much as it can.

inductive Edge where
  | start
  | stop
  | wordStart
  | wordStop
  | wordSide
  | noWordSide

def Edge.holds (before after : Option UInt8) : Edge → Bool
  | .start => before.isNone
  | .stop => after.isNone
  | .wordStart => !before.any ByteClass.isWord && after.any ByteClass.isWord
  | .wordStop => before.any ByteClass.isWord && !after.any ByteClass.isWord
  | .wordSide => before.any ByteClass.isWord != after.any ByteClass.isWord
  | .noWordSide => before.any ByteClass.isWord == after.any ByteClass.isWord

inductive Regex where
  | nothing
  | one (holds : UInt8 → Bool)
  | edge (kind : Edge)
  | group (number : Nat) (body : Regex)
  | again (number : Nat) (foldsCase : Bool)
  | sequence (first second : Regex)
  | choice (first second : Regex)
  | repeated (body : Regex) (least : Nat) (most : Option Nat)

namespace Regex

structure Spot where
  position : Nat
  before : Option UInt8
  rest : Bytes
  groups : List (Nat × Bytes)

namespace Spot

def skip (s : Spot) (count : Nat) : Spot :=
  if count == 0 then s
  else { s with position := s.position + count,before := s.rest[count - 1]?,rest := s.rest.drop count }

-- The furthest places first, each once. Where `all` is set, places with different groups are
-- different.
def ranked (all : Bool) (spots : List Spot) : List Spot :=
  (spots.mergeSort fun a b => decide (b.position ≤ a.position)).foldr (fun s kept =>
    match kept with
    | t :: others =>
      if s.position == t.position && (!all || s.groups == t.groups) then s :: others else s :: kept
    | [] => [s]) []

end Spot

-- The places after so many rounds of a step, and after more of them as long as they lead on.
def rounds (all : Bool) (step : Spot → List Spot) (least : Nat) (most : Option Nat) :
    Nat → Nat → List Spot → List Spot
  | 0,_,_ => []
  | fuel + 1,count,spots =>
    let here := if least ≤ count then spots else []
    if spots.isEmpty || most == some count then here
    else
      let next := spots.flatMap fun s => (step s).filter fun t => count < least || s.position < t.position
      here ++ rounds all step least most fuel (count + 1) (Spot.ranked all next)

def ends (all : Bool) : Regex → Spot → List Spot
  | .nothing,s => [s]
  | .one holds,s => if s.rest.head?.any holds then [s.skip 1] else []
  | .edge kind,s => if kind.holds s.before s.rest.head? then [s] else []
  | .group number body,s =>
    (ends all body s).map fun t =>
      { t with
        groups := (number,s.rest.take (t.position - s.position)) :: t.groups.filter (·.1 != number) }
  | .again number foldsCase,s =>
    match s.groups.lookup number with
    | none => []
    | some taken =>
      let found := s.rest.take taken.length
      let isSame := if foldsCase then Bytes.lower found == Bytes.lower taken else found == taken
      if isSame then [s.skip taken.length] else []
  | .sequence first second,s => Spot.ranked all ((ends all first s).flatMap (ends all second))
  | .choice first second,s => Spot.ranked all (ends all first s ++ ends all second s)
  | .repeated body least most,s =>
    Spot.ranked all (rounds all (ends all body) least most (s.rest.length + least + 2) 0 [s])

def refers : Regex → Bool
  | .again _ _ => true
  | .group _ body => body.refers
  | .sequence a b => a.refers || b.refers
  | .choice a b => a.refers || b.refers
  | .repeated body _ _ => body.refers
  | _ => false

structure Match where
  start : Nat
  length : Nat
  groups : List (Nat × Bytes)

def matchAt? (r : Regex) (isSuitable : Spot → Spot → Bool) (s : Spot) : Option Match :=
  ((ends r.refers r s).find? (isSuitable s)).map fun t => ⟨s.position,t.position - s.position,t.groups⟩

def search (r : Regex) (isSuitable : Spot → Spot → Bool) : Nat → Spot → Option Match
  | 0,_ => none
  | fuel + 1,s =>
    match r.matchAt? isSuitable s with
    | some m => some m
    | none => if s.rest.isEmpty then none else search r isSuitable fuel (s.skip 1)

def Spot.ofText (s : Bytes) : Spot := ⟨0,none,s,[]⟩

def find? (r : Regex) (s : Bytes) (behind : Nat) : Option Match :=
  r.search (fun _ _ => true) (s.length + 1) ((Spot.ofText s).skip behind)

def front? (r : Regex) (s : Bytes) : Option Match := r.matchAt? (fun _ _ => true) (Spot.ofText s)

end Regex

end ScriptLauncher
