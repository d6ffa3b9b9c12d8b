import ScriptLauncher.Tool.Work

namespace ScriptLauncher.Tool.Lines

-- Programs that hand on texts: whole, in part, counted, in another order or with other characters.

def isDigit (b : UInt8) : Bool := 48 ≤ b && b ≤ 57

def sources (operands : List Bytes) : List Bytes := if operands.isEmpty then [text "-"] else operands

-- What can be read at some paths; complaints are made about the others.
def contents (paths : List Bytes) : Work (List (Bytes × Bytes)) := do
  let found ← paths.mapM fun path => do
    match ← Work.content path with
    | .ok data => return [(path,data)]
    | .error how =>
      Work.refused path how
      return []
  return found.flatten

def withEnds (ls : List Bytes) : Bytes := ls.flatMap (· ++ [Bytes.newline])

structure Display where
  numbersAll : Bool
  numbersFull : Bool
  squeezes : Bool
  showsEnds : Bool
  showsTabs : Bool
  showsControls : Bool

structure Position where
  number : Nat := 1
  atStart : Bool := true
  empties : Nat := 0

def Display.glyph (d : Display) (b : UInt8) : Bytes :=
  if b == 9 then if d.showsTabs then text "^I" else [9]
  else if !d.showsControls then [b]
  else
    let low := b % 128
    let mark := if 128 ≤ b then text "M-" else []
    mark ++ (if low < 32 then [byte '^',low + 64] else if low == 127 then text "^?" else [low])

def Display.show (d : Display) : Bytes → Position → Bytes → Bytes × Position
  | [],p,done => (done,p)
  | b :: rest,p,done =>
    let isEmptyLine := p.atStart && b == Bytes.newline
    if isEmptyLine && d.squeezes && 0 < p.empties then d.show rest { p with empties := p.empties + 1 } done
    else
      let isNumbered := p.atStart && (if d.numbersFull then !isEmptyLine else d.numbersAll)
      let intro : Bytes :=
        if isNumbered then
          let digits := Bytes.ofNat p.number
          List.replicate (6 - digits.length) Bytes.space ++ digits ++ [9]
        else []
      let number := if isNumbered then p.number + 1 else p.number
      if b == Bytes.newline then
        d.show rest ⟨number,true,if isEmptyLine then p.empties + 1 else 0⟩
          (done ++ intro ++ (if d.showsEnds then text "$\n" else text "\n"))
      else d.show rest ⟨number,false,0⟩ (done ++ intro ++ d.glyph b)

def concatenate : Work Unit := do
  let spec : Spec :=
    { plain := "benstuvAET"
      long := [("number-nonblank",'b'),("number",'n'),("squeeze-blank",'s'),("show-nonprinting",'v'),
        ("show-ends",'E'),("show-tabs",'T'),("show-all",'A')] }
  let (options,operands) ← spec.parse (← Work.operands)
  let has (letters : String) : Bool := letters.toList.any options.has
  let d : Display := ⟨has "n",has "b",has "s",has "EAe",has "TAt",has "vAet"⟩
  let isPlain := !has "benstvAET"
  if ((← Work.process).streams.channel? 1).isNone then
    Work.stop (text "standard output: " ++ Refusal.badDescriptor.sentence)
  discard ((sources operands).foldlM (fun (p : Position) path => do
    match ← Work.content path with
    | .error how =>
      Work.refused path how
      return p
    | .ok data =>
      let (shown,p) := if isPlain then (data,p) else d.show data p []
      match ← Work.write 1 shown with
      | .ok _ => return p
      | .error how => Work.stop (text "write error: " ++ how.sentence)) {})

inductive Extent where
  | firstLines (n : Nat)
  | withoutLastLines (n : Nat)
  | lastLines (n : Nat)
  | fromLine (n : Nat)
  | firstBytes (n : Nat)
  | withoutLastBytes (n : Nat)
  | lastBytes (n : Nat)
  | fromByte (n : Nat)

def wholeLines (data : Bytes) : List Bytes :=
  let (ls,isClosed) := lines data
  match ls.reverse with
  | [] => []
  | last :: before =>
    before.reverse.map (· ++ [Bytes.newline]) ++ [if isClosed then last ++ [Bytes.newline] else last]

def Extent.of (extent : Extent) (data : Bytes) : Bytes :=
  let ls := wholeLines data
  match extent with
  | .firstLines n => (ls.take n).flatten
  | .withoutLastLines n => (ls.take (ls.length - n)).flatten
  | .lastLines n => (ls.drop (ls.length - n)).flatten
  | .fromLine n => (ls.drop (n - 1)).flatten
  | .firstBytes n => data.take n
  | .withoutLastBytes n => data.take (data.length - n)
  | .lastBytes n => data.drop (data.length - n)
  | .fromByte n => data.drop (n - 1)

def Extent.isFront : Extent → Bool
  | .firstLines _ | .firstBytes _ => true
  | _ => false

def count? (word : Bytes) : Option Nat :=
  let digits := word.takeWhile isDigit
  let unit : Option Nat := match word.drop digits.length with
    | [] => some 1
    | [b] => [(byte 'b',512),(byte 'K',1024),(byte 'k',1024),(byte 'M',1048576)].lookup b
    | rest => [(text "kB",1000),(text "KiB",1024),(text "MB",1000000)].lookup rest
  (decimal? digits).bind fun n => unit.map (n * ·)

def parts (extent : Extent) (options : Options) (paths : List Bytes) : Work Unit := do
  let hasTitles := options.has 'v' || (1 < paths.length && !options.has 'q')
  discard (paths.foldlM (fun (isFirst : Bool) path => do
    let title := if path == text "-" then text "standard input" else path
    let heading := (if isFirst then [] else text "\n") ++ text "==> " ++ title ++ text " <==\n"
    match ← Work.content path with
    | .ok data =>
      let part := extent.of data
      Work.put ((if hasTitles then heading else []) ++ part)
      -- What was read too far stays for the next reader.
      if path == text "-" && extent.isFront then Work.unread (data.length - part.length)
      return false
    | .error .isDirectory =>
      if hasTitles then Work.put heading
      Work.complain (text "error reading " ++ quoted path ++ text ": Is a directory")
      return false
    | .error how =>
      Work.complain (text "cannot open " ++ quoted path ++ text " for reading: " ++ how.sentence)
      return isFirst) true)

-- A first argument that is a number stands for the option with that number.
def spelledOut (args : List Bytes) : List Bytes :=
  match args with
  | (45 :: b :: rest) :: others => if isDigit b then text "-n" :: (b :: rest) :: others else args
  | _ => args

def partSpec : Spec :=
  { plain := "qvz",valued := "nc"
    long := [("lines",'n'),("bytes",'c'),("quiet",'q'),("silent",'q'),("verbose",'v')] }

def partOption (options : Options) : Bool × Bytes :=
  match (options.filter fun (b,_) => b == byte 'n' || b == byte 'c').getLast? with
  | some (b,value) => (b == byte 'c',value)
  | none => (false,text "10")

def badCount {α : Type} (isBytes : Bool) (word : Bytes) : Work α :=
  Work.stop (text "invalid number of " ++ text (if isBytes then "bytes" else "lines") ++ text ": " ++ cited word)

def head : Work Unit := do
  let (options,operands) ← partSpec.parse (spelledOut (← Work.operands))
  let (isBytes,word) := partOption options
  let extent ← match word with
    | 45 :: rest =>
      match count? rest with
      | some n => pure (if isBytes then Extent.withoutLastBytes n else .withoutLastLines n)
      | none => badCount isBytes rest
    | _ =>
      match count? word with
      | some n => pure (if isBytes then Extent.firstBytes n else .firstLines n)
      | none => badCount isBytes word
  parts extent options (sources operands)

def tail : Work Unit := do
  let (options,operands) ← partSpec.parse (spelledOut (← Work.operands))
  let (isBytes,word) := partOption options
  let extent ← match word with
    | 43 :: rest =>
      match count? rest with
      | some n => pure (if isBytes then Extent.fromByte n else .fromLine n)
      | none => badCount isBytes word
    | _ =>
      match count? (if word.head? == some (byte '-') then word.drop 1 else word) with
      | some n => pure (if isBytes then Extent.lastBytes n else .lastLines n)
      | none => badCount isBytes word
  parts extent options (sources operands)

def backwards : Work Unit := do
  let spec : Spec := { plain := "" }
  let (_,operands) ← spec.parse (← Work.operands)
  (sources operands).forM fun path => do
    match ← Work.content path with
    | .ok data => Work.put (wholeLines data).reverse.flatten
    | .error .isDirectory => Work.complain (named path ++ text ": read error: Is a directory")
    | .error how => Work.complain (text "failed to open " ++ quoted path ++ text " for reading: " ++ how.sentence)

def counts (data : Bytes) : List Nat :=
  let isBlank (b : UInt8) : Bool := b == 32 || (9 ≤ b && b ≤ 13)
  let words := (data.foldl (fun (n,inWord) b =>
    if isBlank b then (n,false) else (if inWord then n else n + 1,true)) (0,false)).1
  let longest := ((lines data).1.map List.length).foldl max 0
  [data.count Bytes.newline,words,data.length,longest]

def tally : Work Unit := do
  let spec : Spec :=
    { plain := "lwcmL"
      long := [("lines",'l'),("words",'w'),("bytes",'c'),("chars",'m'),("max-line-length",'L')] }
  let (options,operands) ← spec.parse (← Work.operands)
  let asked := [options.has 'l',options.has 'w',options.has 'c' || options.has 'm',options.has 'L']
  let asked := if asked.any id then asked else [true,true,true,false]
  let paths := sources operands
  let kinds ← paths.mapM fun path => do
    if path == text "-" then return (← Work.inputSize?)
    else match ← Work.resolve path with
      | .ok (_,some (.file f)) => return some f.data.length
      | .ok (_,some .directory) => return none
      | _ => return some 0
  let width :=
    if paths.length == 1 && (asked.filter id).length == 1 then 1
    else
      let total := (kinds.filterMap id).foldl (· + ·) 0
      max (Bytes.ofNat total).length (if kinds.any Option.isNone then 7 else 1)
  let row (ns : List Nat) (name : Option Bytes) : Bytes :=
    let shown := ((ns.zip asked).filter (·.2)).map fun (n,_) =>
      let digits := Bytes.ofNat n
      List.replicate (width - digits.length) Bytes.space ++ digits
    Bytes.join [Bytes.space] (shown ++ name.toList) ++ text "\n"
  let rows ← paths.mapM fun path => do
    let name := if operands.isEmpty then none else some (named path)
    match ← Work.content path with
    | .ok data =>
      Work.put (row (counts data) name)
      return counts data
    | .error how =>
      Work.refused path how
      if how == .isDirectory then Work.put (row [0,0,0,0] name)
      return [0,0,0,0]
  if 1 < paths.length then
    let total := rows.foldl (fun sum ns => match sum,ns with
      | [a,b,c,d],[e,f,g,h] => [a + e,b + f,c + g,max d h]
      | _,_ => sum) [0,0,0,0]
    Work.put (row total (some (text "total")))

def tee : Work Unit := do
  let spec : Spec := { plain := "ai",long := [("append",'a'),("ignore-interrupts",'i')] }
  let (options,operands) ← spec.parse (← Work.operands)
  let appends := options.has 'a'
  let p ← Work.process
  let data ← match ← Work.input with
    | .ok data => pure data
    | .error _ => pure []
  Work.put data
  operands.forM fun path => do
    let b ← get
    match b.system.open_ p path { writes := true,creates := true,appends,truncates := !appends } with
    | .error how => Work.refused path how
    | .ok (id,system) =>
      match system.write id data with
      | .ok system => set { b with system }
      | .error how => Work.refused path how

def places (word : Bytes) : Nat :=
  ((Bytes.cut (byte '.') word).map fun (_,fraction) => fraction.length).getD 0

def scaled? (digits : Nat) (word : Bytes) : Option Int :=
  let isNegative := word.head? == some (byte '-')
  let body := if isNegative || word.head? == some (byte '+') then word.drop 1 else word
  let (whole,fraction) := (Bytes.cut (byte '.') body).getD (body,[])
  let all := whole ++ fraction ++ List.replicate (digits - fraction.length) (byte '0')
  if whole.isEmpty && fraction.isEmpty then none
  else (decimal? all).map fun n => if isNegative then -(n : Int) else n

def rescaled (digits : Nat) (n : Int) : Bytes :=
  let all := Bytes.ofNat n.natAbs
  let all := List.replicate (digits + 1 - all.length) (byte '0') ++ all
  let sign := if n < 0 then [byte '-'] else []
  if digits == 0 then sign ++ all
  else sign ++ all.take (all.length - digits) ++ [byte '.'] ++ all.drop (all.length - digits)

def sequence : Work Unit := do
  let args ← Work.operands
  let isNumber (word : Bytes) : Bool := (scaled? (places word) word).isSome
  -- A number below zero is no option.
  let early := args.takeWhile fun word => !isNumber word
  let spec : Spec :=
    { plain := "w",valued := "sf",endsEarly := true,long := [("separator",'s'),("equal-width",'w')] }
  let (options,others) ← spec.parse early
  let operands := others ++ args.drop early.length
  let separator := (options.value? 's').getD [Bytes.newline]
  let (first,step,last) ← match operands with
    | [] => Work.misused (text "missing operand")
    | [last] => pure (text "1",text "1",last)
    | [first,last] => pure (first,text "1",last)
    | [first,step,last] => pure (first,step,last)
    | _ :: _ :: _ :: extra :: _ => Work.misused (text "extra operand " ++ cited extra)
  let digits := max (places first) (places step)
  let value (word : Bytes) (digits : Nat) : Work Int :=
    match scaled? digits word with
    | some n => pure n
    | none => Work.misused (text "invalid floating point argument: " ++ cited word)
  let most := max digits (places last)
  let scale := (Nat.pow 10 (most - digits) : Nat)
  let start ← value first digits
  let step_ ← value step digits
  let stop ← value last most
  if step_ == 0 then Work.misused (text "invalid Zero increment value: " ++ cited step)
  else
    let count := if 0 < step_ then
        (if stop < start * scale then 0 else ((stop - start * scale) / (step_ * scale)).toNat + 1)
      else if start * scale < stop then 0
      else ((start * scale - stop) / (-step_ * scale)).toNat + 1
    let shown := (List.range count).map fun (i : Nat) => rescaled digits (start + step_ * i)
    let width := (shown.map List.length).foldl max 0
    let widened (s : Bytes) : Bytes :=
      if !options.has 'w' then s
      else
        let sign := s.takeWhile (· == byte '-')
        sign ++ List.replicate (width - s.length) (byte '0') ++ s.drop sign.length
    if 0 < count then Work.putLine (Bytes.join separator (shown.map widened))

end ScriptLauncher.Tool.Lines
