import RouteSync.Rehearsal.Shell.Sum

/-! Conditions on texts, numbers and files. -/
namespace RouteSync.Rehearsal.Shell

/-- What a word of a condition may stand for besides itself. -/
inductive Operator where
  | unary (letter : Char)
  | binary (sign : String)
  | not
  | and
  | or
  | open
  | close
  deriving DecidableEq, Inhabited

def operator? (word : String) : Option Operator :=
  match word with
  | "!" => some .not
  | "-a" => some .and
  | "-o" => some .or
  | "(" => some .open
  | ")" => some .close
  | "=" | "!=" | "<" | ">" | "-eq" | "-ne" | "-ge" | "-gt" | "-le" | "-lt" | "-nt" | "-ot"
  | "-ef" => some (.binary word)
  | word =>
    match word.toList with
    | ['-', letter] =>
      if "rwxefdcbpugkstznhOGLS".toList.contains letter then some (.unary letter) else none
    | _ => none

def Operator.isBinary : Operator → Bool
  | .binary _ => true
  | _ => false

/-- A condition: its words, and the disk that it is about. -/
structure Condition where
  disk : Disk
  words : Array String

namespace Condition

def binaryAt (c : Condition) (i : Nat) : Bool :=
  (c.words[i]?.bind operator?).any Operator.isBinary

/-- Whether the word at a place stands for itself although it looks like an operator with one side,
as what follows it tells. -/
def isOperand (c : Condition) (i : Nat) : Bool :=
  i + 1 ≥ c.words.size || (i + 2 < c.words.size && c.binaryAt (i + 1))

/-- The operator at a place. -/
def operatorAt (c : Condition) (i : Nat) : Option Operator :=
  (c.words[i]?.bind operator?).filter fun
    | .unary _ => !c.isOperand i
    | .open => i + 1 < c.words.size
    | _ => true

def complaint (word : String) (what : String) : String :=
  if word.isEmpty then what else word ++ ": " ++ what

def number (text : String) : Except String Int :=
  match wholeDecimal? text with
  | some n => .ok n
  | none => .error ("Illegal number: " ++ text)
where
  wholeDecimal? (text : String) : Option Int := do
    let cs := text.toList.dropWhile isBlankByte
    let (negative, cs) := match cs with
      | '-' :: rest => (true, rest)
      | '+' :: rest => (false, rest)
      | rest => (false, rest)
    let ds := cs.takeWhile Char.isDigit
    if ds.isEmpty || !(cs.drop ds.length).all isBlankByte then none
    let n : Int := min greatest (Net.valueOf 10 (Net.digits 10 ds).1)
    return if negative then -n else n

def entry? (c : Condition) (path : String) : Option Disk.Entry :=
  (c.disk.find (pathOf path)).toOption

/-- A condition with one side. -/
def unary (c : Condition) (letter : Char) (side : String) : Except String Bool :=
  let devices := ["/dev/null", "/dev/zero"]
  match letter with
  | 'z' => .ok side.isEmpty
  | 'n' => .ok !side.isEmpty
  | 't' => do
    let _ ← number side
    return false
  | 'e' | 'r' | 'w' | 'O' | 'G' => .ok ((c.entry? side).isSome || devices.contains side)
  | 'c' => .ok (devices.contains side)
  | 'f' => .ok ((c.entry? side).any (· ≠ .folder))
  | 'd' => .ok (c.entry? side = some .folder)
  | 'x' => .ok ((c.entry? side).any fun
      | .folder => true
      | .file f => f.mode &&& 0o111 ≠ 0)
  | 's' => .ok ((c.entry? side).any fun
      | .folder => true
      | .file f => !f.bytes.isEmpty)
  | _ => .ok false

/-- A condition with two sides. -/
def binary (c : Condition) (sign first second : String) : Except String Bool :=
  let numbers (holds : Int → Int → Bool) : Except String Bool := do
    return holds (← number first) (← number second)
  match sign with
  | "=" => .ok (first = second)
  | "!=" => .ok (first ≠ second)
  | "<" => .ok (first < second)
  | ">" => .ok (second < first)
  | "-eq" => numbers (· = ·)
  | "-ne" => numbers (· ≠ ·)
  | "-ge" => numbers (· ≥ ·)
  | "-gt" => numbers (· > ·)
  | "-le" => numbers (· ≤ ·)
  | "-lt" => numbers (· < ·)
  | "-ef" =>
    let place? (path : String) := ((c.disk.locate (pathOf path)).toOption).filter fun place =>
      (c.disk.get? place).isSome
    .ok ((place? first).isSome && place? first = place? second)
  | _ => .ok false

mutual

/-- Reads from a place on what may be joined by or, up to a place. -/
def either (c : Condition) (steps i : Nat) (op : Option Operator) : Except String (Bool × Nat) :=
  match steps with
  | 0 => .ok (false, i)
  | n + 1 => do
    let (first, i) ← c.both n i op
    if c.operatorAt (i + 1) = some .or then
      let (second, i) ← c.either n (i + 2) (c.operatorAt (i + 2))
      return (first || second, i)
    else return (first, i)

def both (c : Condition) (steps i : Nat) (op : Option Operator) : Except String (Bool × Nat) :=
  match steps with
  | 0 => .ok (false, i)
  | n + 1 => do
    let (first, i) ← c.negated n i op
    if c.operatorAt (i + 1) = some .and then
      let (second, i) ← c.both n (i + 2) (c.operatorAt (i + 2))
      return (first && second, i)
    else return (first, i)

def negated (c : Condition) (steps i : Nat) (op : Option Operator) : Except String (Bool × Nat) :=
  match steps with
  | 0 => .ok (false, i)
  | n + 1 => do
    if op = some .not then
      let next := if i + 1 < c.words.size then i + 1 else i
      if next = i then return (true, i)
      let (inner, i) ← c.negated n next (c.operatorAt next)
      return (!inner, i)
    else c.primary n i op

def primary (c : Condition) (steps i : Nat) (op : Option Operator) : Except String (Bool × Nat) :=
  match steps with
  | 0 => .ok (false, i)
  | n + 1 => do
    let word := c.words[i]?.getD ""
    if i ≥ c.words.size then return (false, i)
    match op with
    | some .open =>
      let inner := c.operatorAt (i + 1)
      if inner = some .close then return (false, i + 1)
      let (holds, i) ← c.either n (i + 1) inner
      if c.operatorAt (i + 1) = some .close then return (holds, i + 1)
      else throw "closing paren expected"
    | some (.unary letter) =>
      match c.words[i + 1]? with
      | some side => return (← c.unary letter side, i + 1)
      | none => throw (complaint word "argument expected")
    | _ =>
      if c.binaryAt (i + 1) then
        let sign := c.words[i + 1]?.getD ""
        match c.words[i + 2]? with
        | some second => return (← c.binary sign word second, i + 2)
        | none => throw (complaint sign "argument expected")
      else return (!word.isEmpty, i)

end

/-- All words have to belong to the condition. -/
def whole (c : Condition) (op : Option Operator) : Except String Bool := do
  let (holds, i) ← c.either (4 * c.words.size + 8) 0 op
  match c.words[i + 1]? with
  | some _ => throw (complaint (c.words[i]?.getD "") "unexpected operator")
  | none => return holds

end Condition

/-- Whether a condition holds. Few words have their meaning by their number. -/
def holds (d : Disk) : Nat → List String → Except String Bool
  | 0, _ | _, [] => .ok false
  | n + 1, words =>
    let plain (ws : List String) (op? : Option Operator) : Except String Bool :=
      Condition.whole ⟨d, ws.toArray⟩ op?
    let usual (ws : List String) : Except String Bool :=
      plain ws (Condition.operatorAt ⟨d, ws.toArray⟩ 0)
    let special : Except String Bool :=
      if words.head? = some "(" && words.getLast? = some ")" then usual (words.drop 1).dropLast
      else if words.head? = some "!" then do return !(← holds d n words.tail)
      else usual words
    if words.length = 3 then
      if Condition.binaryAt ⟨d, words.toArray⟩ 1 then plain words none else special
    else if words.length = 4 then special
    else usual words

end RouteSync.Rehearsal.Shell
