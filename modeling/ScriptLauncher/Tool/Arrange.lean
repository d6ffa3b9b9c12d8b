import ScriptLauncher.Text.ByteClass
import ScriptLauncher.Tool.Lines

namespace ScriptLauncher.Tool.Arrange

-- Programs that arrange lines, take fields from them or change their characters. Text is compared
-- byte by byte.

open Lines (sources contents isDigit withEnds)

def isBlank (b : UInt8) : Bool := b == 32 || b == 9

def upper (s : Bytes) : Bytes := s.map fun b => if 97 ≤ b && b ≤ 122 then b - 32 else b

structure Order where
  isNumeric : Bool := false
  isReverse : Bool := false
  ignoresCase : Bool := false
  ignoresBlanks : Bool := false

-- The part of a line that is compared: from a field to another, both counted from one.
structure Key where
  first : Nat
  firstByte : Nat := 1
  last : Option Nat := none
  lastByte : Nat := 0
  order : Order := {}
  hasOrder : Bool := false

def leadingNumber (s : Bytes) : Bool × Bytes × Bytes :=
  let s := s.dropWhile isBlank
  let isNegative := s.head? == some (byte '-')
  let s := if isNegative then s.drop 1 else s
  let whole := s.takeWhile isDigit
  let fraction := match s.drop whole.length with
    | 46 :: rest => ((rest.takeWhile isDigit).reverse.dropWhile (· == byte '0')).reverse
    | _ => []
  let whole := whole.dropWhile (· == byte '0')
  (isNegative && !(whole.isEmpty && fraction.isEmpty),whole,fraction)

def compareBytes (a b : Bytes) : Ordering :=
  if a == b then .eq else if Bytes.le a b then .lt else .gt

def compareNumbers (a b : Bytes) : Ordering :=
  let (negA,wholeA,fractionA) := leadingNumber a
  let (negB,wholeB,fractionB) := leadingNumber b
  let size := (compare wholeA.length wholeB.length).then
    ((compareBytes wholeA wholeB).then (compareBytes fractionA fractionB))
  match negA,negB with
  | false,false => size
  | true,true => size.swap
  | true,false => .lt
  | false,true => .gt

def Order.compare (o : Order) (a b : Bytes) : Ordering :=
  let trim (s : Bytes) : Bytes := if o.ignoresBlanks then s.dropWhile isBlank else s
  let fold (s : Bytes) : Bytes := if o.ignoresCase then upper s else s
  let way := if o.isNumeric then compareNumbers a b else compareBytes (fold (trim a)) (fold (trim b))
  if o.isReverse then way.swap else way

-- The fields of a line. Without a separator a field begins with the blanks in front of it.
def fields (separator : Option UInt8) : Nat → Bytes → List Bytes
  | 0,_ => []
  | n + 1,s =>
    match separator with
    | some sep => Bytes.splitOn sep s
    | none =>
      if s.isEmpty then []
      else
        let blanks := s.takeWhile isBlank
        let word := (s.drop blanks.length).takeWhile fun b => !isBlank b
        (blanks ++ word) :: fields none n (s.drop (blanks.length + word.length))

def Key.of (key : Key) (separator : Option UInt8) (line : Bytes) : Bytes :=
  let parts := fields separator (line.length + 1) line
  let glue : Bytes := separator.toList
  let first := ((parts.drop (key.first - 1)).headD []).drop (key.firstByte - 1)
  match key.last with
  | none => Bytes.join glue (first :: parts.drop key.first)
  | some last =>
    if last < key.first then []
    else
      let chosen := first :: (parts.take last).drop key.first
      let whole := Bytes.join glue chosen
      if key.lastByte == 0 then whole
      else
        let final := (chosen.getLastD []).length
        let kept := if last == key.first then key.lastByte + 1 - key.firstByte else key.lastByte
        whole.take (whole.length - (final - kept))

-- A key in its notation: fields, bytes in them, and letters for the order.
def key? (word : Bytes) : Option Key :=
  let place (s : Bytes) : Option (Nat × Option Nat × Bytes × Bytes) :=
    let digits := s.takeWhile isDigit
    let rest := s.drop digits.length
    let (inner,rest) := match rest with
      | 46 :: more => (decimal? (more.takeWhile isDigit),more.dropWhile isDigit)
      | _ => (none,rest)
    let letters := rest.takeWhile (· != byte ',')
    (decimal? digits).map fun n => (n,inner,letters,rest.drop letters.length)
  let order (letters : Bytes) : Order :=
    let has (c : Char) : Bool := letters.contains (byte c)
    ⟨has 'n',has 'r',has 'f',has 'b'⟩
  (place word).bind fun (first,firstByte,letters,rest) =>
    match rest with
    | [] =>
      some { first,firstByte := firstByte.getD 1,order := order letters,hasOrder := !letters.isEmpty }
    | _ :: behind =>
      (place behind).map fun (last,lastByte,more,_) =>
        { first,firstByte := firstByte.getD 1,last := some last,lastByte := lastByte.getD 0
          order := order (letters ++ more),hasOrder := !(letters ++ more).isEmpty }

def sort : Work Unit := do
  let spec : Spec :=
    { plain := "nrufbs",valued := "kto",status := 2
      long := [("numeric-sort",'n'),("reverse",'r'),("unique",'u'),("ignore-case",'f'),
        ("ignore-leading-blanks",'b'),("stable",'s'),("key",'k'),("field-separator",'t'),("output",'o')] }
  let (options,operands) ← spec.parse (← Work.operands)
  let order : Order := ⟨options.has 'n',options.has 'r',options.has 'f',options.has 'b'⟩
  let separator := (options.value? 't').bind List.head?
  let words := (options.filter (·.1 == byte 'k')).map (·.2)
  let keys ← words.mapM fun word => do
    match key? word with
    | some key => return if key.hasOrder then key else { key with order }
    | none => Work.stop (text "invalid number at field start: invalid count at start of " ++ cited word) 2
  let data ← (sources operands).mapM fun path => do
    match ← Work.content path with
    | .ok data => return data
    | .error .isDirectory => Work.stop (text "read failed: " ++ named path ++ text ": Is a directory") 2
    | .error how => Work.stop (text "cannot read: " ++ named path ++ text ": " ++ how.sentence) 2
  let ls := data.flatMap fun d => (lines d).1
  let byKeys (a b : Bytes) : Ordering :=
    if keys.isEmpty then order.compare a b
    else keys.foldl (fun way key => way.then (key.order.compare (key.of separator a) (key.of separator b))) .eq
  let isStable := options.has 's' || options.has 'u'
  let whole (a b : Bytes) : Ordering :=
    let last := if isStable then .eq
      else if order.isReverse then (compareBytes a b).swap else compareBytes a b
    (byKeys a b).then last
  let sorted := ls.mergeSort fun a b => whole a b != .gt
  let rec distinct : List Bytes → List Bytes
    | a :: b :: rest => if byKeys a b == .eq then distinct (a :: rest) else a :: distinct (b :: rest)
    | short => short
  termination_by ls => ls.length
  let shown := withEnds (if options.has 'u' then distinct sorted else sorted)
  match options.value? 'o' with
  | none => Work.put shown
  | some path =>
    let p ← Work.process
    let b ← get
    match b.system.open_ p path { writes := true,creates := true,truncates := true } with
    | .error how => Work.stop (text "open failed: " ++ named path ++ text ": " ++ how.sentence) 2
    | .ok (id,system) =>
      match system.write id shown with
      | .ok system => set { b with system }
      | .error how => Work.stop (text "write failed: " ++ named path ++ text ": " ++ how.sentence) 2

def runs (isSame : Bytes → Bytes → Bool) (ls : List Bytes) : List (Nat × Bytes) :=
  ls.foldr (fun line found =>
    match found with
    | (n,next) :: rest => if isSame line next then (n + 1,line) :: rest else (1,line) :: found
    | [] => [(1,line)]) []

def unique : Work Unit := do
  let spec : Spec :=
    { plain := "cdui"
      long := [("count",'c'),("repeated",'d'),("unique",'u'),("ignore-case",'i')] }
  let (options,operands) ← spec.parse (← Work.operands)
  if let _ :: _ :: extra :: _ := operands then Work.misused (text "extra operand " ++ cited extra)
  let found ← contents ((sources operands).take 1)
  let ls := found.flatMap fun (_,data) => (lines data).1
  let isSame (a b : Bytes) : Bool := if options.has 'i' then upper a == upper b else a == b
  let wanted (n : Nat) : Bool := (!options.has 'd' || 1 < n) && (!options.has 'u' || n == 1)
  (runs isSame ls).forM fun (n,line) => do
    if wanted n then
      let digits := Bytes.ofNat n
      let number := List.replicate (7 - digits.length) Bytes.space ++ digits ++ [Bytes.space]
      Work.putLine (if options.has 'c' then number ++ line else line)

-- Ranges of numbers: each from one to another, which can be missing.
def ranges (kind word : Bytes) : Except Bytes (List (Nat × Option Nat)) :=
  (Bytes.splitOn (byte ',') word).mapM fun part => do
    let number (s : Bytes) : Except Bytes Nat :=
      match decimal? s with
      | some 0 => .error (kind ++ text "s are numbered from 1")
      | some n => .ok n
      | none =>
        .error (if s.isEmpty then kind ++ text "s are numbered from 1"
          else text "invalid " ++ kind ++ (if kind == text "field" then text " value " else text " ") ++ cited s)
    match Bytes.cut (byte '-') part with
    | none =>
      let n ← number part
      return (n,some n)
    | some ([],[]) => .error (text "invalid range with no endpoint: " ++ part)
    | some (first,last) =>
      let start ← if first.isEmpty then pure 1 else number first
      let stop ← if last.isEmpty then pure none else some <$> number last
      if stop.any (· < start) then .error (text "invalid decreasing range") else return (start,stop)

def inRanges (ranges : List (Nat × Option Nat)) (n : Nat) : Bool :=
  ranges.any fun (first,last) => first ≤ n && (last.map fun l => decide (n ≤ l)).getD true

def cut : Work Unit := do
  let spec : Spec :=
    { plain := "sn",valued := "bcfd"
      long := [("bytes",'b'),("characters",'c'),("fields",'f'),("delimiter",'d'),("only-delimited",'s')] }
  let (options,operands) ← spec.parse (← Work.operands)
  let lists := options.filter fun (b,_) => (text "bcf").contains b
  let delimiter ← match options.value? 'd' with
    | some [b] => pure b
    | some [] => pure 0
    | some _ => Work.misused (text "the delimiter must be a single character")
    | none => pure 9
  match lists with
  | [] => Work.misused (text "you must specify a list of bytes, characters, or fields")
  | (kind,word) :: _ =>
    match ranges (text (if kind == byte 'f' then "field" else "byte/character position")) word with
    | .error message => Work.misused message
    | .ok ranges =>
      let kept (parts : List Bytes) : List Bytes :=
        ((parts.zipIdx 1).filter fun (_,i) => inRanges ranges i).map (·.1)
      let found ← contents (sources operands)
      (found.flatMap fun (_,data) => (lines data).1).forM fun line => do
        if kind != byte 'f' then Work.putLine (kept (line.map ([·]))).flatten
        else if line.contains delimiter then
          Work.putLine (Bytes.join [delimiter] (kept (Bytes.splitOn delimiter line)))
        else if !options.has 's' then Work.putLine line

def unescaped : Nat → Bytes → List (UInt8 × Bool)
  | 0,_ => []
  | _ + 1,[] => []
  | n + 1,92 :: b :: rest =>
    if 48 ≤ b && b ≤ 55 then
      let digits := ((b :: rest).take 3).takeWhile fun b => 48 ≤ b && b ≤ 55
      (UInt8.ofNat (digits.foldl (fun n b => n * 8 + (b.toNat - 48)) 0),true) ::
        unescaped n ((b :: rest).drop digits.length)
    else
      let known := [(byte 'a',7),(byte 'b',8),(byte 'f',12),(byte 'n',10),(byte 'r',13),(byte 't',9),
        (byte 'v',11)]
      ((known.lookup b).getD b,true) :: unescaped n rest
  | n + 1,b :: rest => (b,false) :: unescaped n rest

def allBytes : Bytes := (List.range 256).map UInt8.ofNat

def members : Nat → List (UInt8 × Bool) → Bytes
  | 0,_ => []
  | _ + 1,[] => []
  | n + 1,(91,false) :: (58,false) :: rest =>
    let name := (rest.takeWhile fun (b,_) => b != 58).map (·.1)
    match ByteClass.named? name,rest.drop name.length with
    | some holds,(58,_) :: (93,_) :: behind => allBytes.filter holds ++ members n behind
    | _,_ => 91 :: members n ((58,false) :: rest)
  | n + 1,(first,_) :: (45,false) :: (last,_) :: rest =>
    (allBytes.filter fun b => first ≤ b && b ≤ last) ++ members n rest
  | n + 1,(b,_) :: rest => b :: members n rest

def setOf (word : Bytes) : Bytes := members (word.length + 1) (unescaped (word.length + 1) word)

def squeezed (set : Bytes) : Bytes → Bytes
  | a :: b :: rest => if a == b && set.contains a then squeezed set (b :: rest) else a :: squeezed set (b :: rest)
  | short => short

def substitute : Work Unit := do
  let spec : Spec :=
    { plain := "cCdst",endsEarly := true
      long := [("complement",'c'),("delete",'d'),("squeeze-repeats",'s'),("truncate-set1",'t')] }
  let (options,operands) ← spec.parse (← Work.operands)
  let deletes := options.has 'd'
  let squeezes := options.has 's'
  let (first,second) ← match operands with
    | [] => Work.misused (text "missing operand")
    | [one] =>
      if deletes && squeezes then
        Work.misused (text "missing operand after " ++ cited one ++
          text "\nTwo strings must be given when both deleting and squeezing repeats.")
      else if deletes || squeezes then pure (one,none)
      else Work.misused (text "missing operand after " ++ cited one ++
        text "\nTwo strings must be given when translating.")
    | [one,two] =>
      if deletes && !squeezes then
        Work.misused (text "extra operand " ++ cited two ++
          text "\nOnly one string may be given when deleting without squeezing repeats.")
      else pure (one,some two)
    | _ :: _ :: extra :: _ => Work.misused (text "extra operand " ++ cited extra)
  let named := setOf first
  let set := if options.has 'c' || options.has 'C' then allBytes.filter fun b => !named.contains b else named
  let data ← match ← Work.input with
    | .ok data => pure data
    | .error how => Work.stop (text "read error: " ++ how.sentence)
  let targets := (second.map setOf).getD []
  if second.isSome && !deletes && targets.isEmpty then
    Work.stop (text "when not truncating set1, string2 must be non-empty")
  let changed :=
    if deletes then data.filter fun b => !set.contains b
    else if second.isNone then data
    else data.map fun b =>
      -- Of a character that stands twice in a set the last place counts.
      match (set.zipIdx.filter (·.1 == b)).getLast? with
      | some (_,i) =>
        if options.has 't' && targets.length ≤ i then b else (targets[i]?).getD (targets.getLastD b)
      | none => b
  Work.put (if squeezes then squeezed (if second.isSome then targets else set) changed else changed)

end ScriptLauncher.Tool.Arrange
