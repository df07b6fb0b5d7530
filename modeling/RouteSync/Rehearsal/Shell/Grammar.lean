import RouteSync.Rehearsal.Shell.Reading

/-! Reading commands. All of it goes by steps, of which a script needs fewer than some multiple of
its length. -/
namespace RouteSync.Rehearsal.Shell

open Reading

/-- What encloses the parts of a word that are being read. -/
inductive Frame where
  | word
  | quotes
  /-- Braces, which may stand in quotes. -/
  | braces (quoted : Bool)
  /-- A text of the script. -/
  | here
  /-- A sum, with so many open parentheses. -/
  | sum (depth : Nat)
  deriving DecidableEq, Inhabited

/-- Whether a backslash and a dollar sign are all that has a meaning. -/
def Frame.isQuoted : Frame → Bool
  | .word | .braces false => false
  | _ => true

/-- What a backslash takes the meaning of, in a quoted text. -/
def Frame.escapes (f : Frame) (c : Char) : Bool :=
  c = '$' || c = '\x60' || c = '\\' ||
    match f with
    | .quotes => c = '"'
    | .braces _ => c = '"' || c = '\x7d'
    | _ => false

/-- The text of a command between backquotes: a backslash before one of them, or before another sign
with a meaning, is dropped. -/
def backquoted (quoted : Bool) : Nat → Reading (List Char)
  | 0 => fail "EOF in backquote substitution"
  | n + 1 => do
    match ← peek with
    | none => fail "EOF in backquote substitution"
    | some '\x60' => skip; return []
    | some '\\' =>
      skip
      match ← peek with
      | some '\n' => skip; backquoted quoted n
      | some c =>
        skip
        let plain := c = '\\' || c = '\x60' || c = '$' || (quoted && c = '"')
        let more ← backquoted quoted n
        return if plain then c :: more else '\\' :: c :: more
      | none => fail "EOF in backquote substitution"
    | some c => skip; return c :: (← backquoted quoted n)

/-- A text between single quotes. -/
def singleQuoted : Nat → Reading (List Char)
  | 0 => fail "Unterminated quoted string"
  | n + 1 => do
    match ← peek with
    | none => fail "Unterminated quoted string"
    | some '\'' => skip; return []
    | some c => skip; return c :: (← singleQuoted n)

def isSpecial (c : Char) : Bool := "@*#?-$!".toList.contains c

/-- The parameter that braces are about, and whether its length is asked for. -/
def braceName (steps : Nat) : Reading (Option String × Bool) := do
  match ← peekJoined with
  | some c =>
    if isNameStart c then return (some (String.ofList (← takeWhile isNameChar steps)), false)
    else if c.isDigit then return (some (String.ofList (← takeWhile Char.isDigit steps)), false)
    else if c = '#' then
      skip
      match ← peekJoined with
      | some d =>
        if isNameStart d then return (some (String.ofList (← takeWhile isNameChar steps)), true)
        else if d.isDigit then return (some (String.ofList (← takeWhile Char.isDigit steps)), true)
        else if isSpecial d then
          let before ← get
          skip
          if (← peekJoined) = some '\x7d' then return (some (String.ofList [d]), true)
          else
            set before
            return (some "#", false)
        else return (some "#", false)
      | none => return (some "#", false)
    else if isSpecial c then
      skip
      return (some (String.ofList [c]), false)
    else return (none, false)
  | none => return (none, false)

/-- What a sign after a parameter's name asks for; the sign is passed. -/
def braceUse : Reading Use := do
  let empty ← skip? ':'
  match ← peekJoined with
  | some '\x7d' => return .value
  | some '-' => skip; return .otherwise empty
  | some '=' => skip; return .assign empty
  | some '?' => skip; return .required empty
  | some '+' => skip; return .instead empty
  | some '#' =>
    if empty then return .unknown
    else
      skip
      return .withoutStart (← skip? '#')
  | some '%' =>
    if empty then return .unknown
    else
      skip
      return .withoutEnd (← skip? '%')
  | _ => return .unknown

/-- Reads the texts of the script that start at a line end. -/
def readAwaited (body : List Char → Nat → Reading Word) : List Awaited → Reading Unit
  | [] => pure ()
  | a :: rest => do
    let c ← get
    let (text, after) := hereLines a (c.rest.length + 1) c.rest
    let w ← if a.quoted then pure [Part.text text true] else body text c.line
    let line := c.line + (c.rest.take (c.rest.length - after.length)).count '\n'
    modify fun now => { now with
      rest := after, line, pushed := c.pushed, last := c.last, awaited := []
      texts := (a.place, w) :: now.texts }
    readAwaited body rest

/-- How a list of commands is read. -/
inductive Extent where
  /-- As far as the end of the line. -/
  | line
  /-- Over any number of lines, at least one command. -/
  | some
  /-- Over any number of lines, perhaps no command. -/
  | any
  deriving DecidableEq, Inhabited

def chain (commands : Option Command) (more : Command) : Command :=
  match commands with
  | some c => .then c more
  | none => more

/-- A command that may have redirections after it. -/
def wrapped (line : Nat) (c : Command) (rs : List Redirection) : Command :=
  if rs.isEmpty then c else .within line c rs

mutual

/-- The parts of a word up to the end of what encloses them, those read so far last first. -/
def parts (steps : Nat) (frame : Frame) (done : List Part) : Reading Word :=
  match steps with
  | 0 => fail "word too long"
  | n + 1 => do
    let quoted := frame.isQuoted
    let goOn (p : Part) : Reading Word := parts n frame (p :: done)
    match ← peek with
    | none =>
      match frame with
      | .word | .here => return done.reverse
      | .quotes => fail "Unterminated quoted string"
      | .braces _ => fail "Missing '\x7d'"
      | .sum _ => fail "Missing '))'"
    | some '\\' =>
      skip
      match ← peek with
      | none => goOn (.text ['\\'] true)
      | some '\n' => skip; parts n frame done
      | some c =>
        if !quoted || frame.escapes c then
          skip
          goOn (.text [c] true)
        else goOn (.text ['\\'] true)
    | some '\'' =>
      skip
      if quoted then goOn (.text ['\''] true)
      else goOn (.text (← singleQuoted n) true)
    | some '"' =>
      match frame with
      | .quotes => skip; return done.reverse
      | .here => skip; goOn (.text ['"'] true)
      | .sum _ => skip; goOn (.text ['"'] true)
      | _ =>
        skip
        match ← parts n .quotes [] with
        | [.param "@" .value [] true] => goOn (.param "@" .value [] true)
        | inner => parts n frame (inner.reverse ++ .text [] true :: done)
    | some '$' =>
      skip
      goOn (← dollar n quoted)
    | some '\x60' =>
      skip
      let text ← backquoted quoted n
      goOn (.output (← inside n text) quoted)
    | some c =>
      match frame, c with
      | .word, c =>
        if isSign c then return done.reverse
        else
          skip
          goOn (.text [c] false)
      | .braces _, '\x7d' => skip; return done.reverse
      | .sum depth, '(' => skip; parts n (.sum (depth + 1)) (.text ['('] true :: done)
      | .sum (depth + 1), ')' => skip; parts n (.sum depth) (.text [')'] true :: done)
      | .sum 0, ')' =>
        skip
        if ← skip? ')' then return done.reverse
        else goOn (.text [')'] true)
      | _, c => skip; goOn (.text [c] quoted)

/-- What follows a dollar sign. -/
def dollar (steps : Nat) (quoted : Bool) : Reading Part :=
  match steps with
  | 0 => fail "word too long"
  | n + 1 => do
    match ← peekJoined with
    | some '(' =>
      skip
      if ← skip? '(' then return .sum (merged (← parts n (.sum 0) [])) quoted
      else
        let body ← list n .any none false
        match ← token n false false with
        | .close => return .output body quoted
        | _ => unexpected (some .close)
    | some '\x7b' => skip; braces n quoted
    | some c =>
      if isNameStart c then
        return .param (String.ofList (← takeWhile isNameChar n)) .value [] quoted
      else if c.isDigit || isSpecial c then
        skip
        return .param (String.ofList [c]) .value [] quoted
      else return .text ['$'] quoted
    | none => return .text ['$'] quoted

/-- A parameter in braces. -/
def braces (steps : Nat) (quoted : Bool) : Reading Part :=
  match steps with
  | 0 => fail "word too long"
  | n + 1 => do
    match ← braceName n with
    | (none, _) => return .param "" .unknown (← parts n (.braces quoted) []) quoted
    | (some name, true) =>
      let rest ← parts n (.braces quoted) []
      return .param name (if rest.isEmpty then .length else .unknown) [] quoted
    | (some name, false) =>
      let use ← braceUse
      let frame : Frame := match use with
        | .withoutStart _ | .withoutEnd _ => .braces false
        | _ => .braces quoted
      return .param name use (merged (← parts n frame [])) quoted

/-- The commands of another text, which has to be all commands. -/
def inside (steps : Nat) (text : List Char) : Reading (Option Command) :=
  match steps with
  | 0 => fail "word too long"
  | n + 1 => do
    let c ← get
    set ({ rest := text, line := c.line, next := c.next, texts := c.texts } : Cursor)
    let body ← list n .any none false
    match ← token n false false with
    | .finish =>
      modify fun inner => { c with next := inner.next, texts := inner.texts }
      return body
    | _ => unexpected

/-- The next token. Where a command may start, some words are keywords; line ends may count for
nothing. -/
def token (steps : Nat) (atCommand skipLines : Bool) : Reading Token :=
  match steps with
  | 0 => fail "word too long"
  | n + 1 => do
    let t ← match (← get).pushed with
      | some t =>
        modify fun c => { c with pushed := none }
        pure t
      | none => freshToken n
    match t with
    | .lineEnd =>
      modify fun c => { c with last := t }
      if skipLines then
        lineEnds n
        token n atCommand true
      else return t
    | .word w =>
      let t := match w.plain? with
        | some text => if atCommand && keywords.contains text then .keyword text else t
        | none => t
      modify fun c => { c with last := t }
      return t
    | t =>
      modify fun c => { c with last := t }
      return t

/-- A token from the text. -/
def freshToken (steps : Nat) : Reading Token :=
  match steps with
  | 0 => fail "word too long"
  | n + 1 => do
    skipBlanks n
    let skipped (count : Nat) (t : Token) : Reading Token := do
      skipMany count
      return t
    match (← get).rest with
    | [] => return .finish
    | '\n' :: _ => skipped 1 .lineEnd
    | '&' :: '&' :: _ => skipped 2 .andThen
    | '&' :: _ => skipped 1 .ampersand
    | '|' :: '|' :: _ => skipped 2 .orElse
    | '|' :: _ => skipped 1 .bar
    | ';' :: ';' :: _ => skipped 2 .endArm
    | ';' :: _ => skipped 1 .semicolon
    | '(' :: _ => skipped 1 .open
    | ')' :: _ => skipped 1 .close
    | c :: d :: rest =>
      if c = '<' || c = '>' then angle none (c :: d :: rest)
      else if c.isDigit && (d = '<' || d = '>') then angle (some (c.toNat - 48)) (d :: rest)
      else return .word (merged (← parts n .word []))
    | ['<'] => angle none ['<']
    | ['>'] => angle none ['>']
    | _ => return .word (merged (← parts n .word []))
where
  angle (number : Option Nat) (cs : List Char) : Reading Token := do
    let (sign, rest) := angleSign cs
    modify fun c => { c with rest }
    return .redirect number sign

/-- At a line end, reads the texts of the script that start there. -/
def lineEnds (steps : Nat) : Reading Unit :=
  match steps with
  | 0 => pure ()
  | n + 1 => do
    readAwaited (fun text line => do
      modify fun c => { c with rest := text, line, pushed := none, awaited := [] }
      return merged (← parts n .here [])) (← get).awaited.reverse
    modify fun c => { c with awaited := [] }

/-- A list of commands, behind those that are read already. -/
def list (steps : Nat) (extent : Extent) (done : Option Command) (begun : Bool) :
    Reading (Option Command) :=
  match steps with
  | 0 => fail "script too long"
  | n + 1 => do
    match ← token n true (extent ≠ Extent.line) with
    | .lineEnd =>
      lineEnds n
      return done
    | first =>
      push first
      let ends := match first with
        | .finish => true
        | first => extent ≠ Extent.line && (extent = Extent.any || begun) && first.endsList
      if ends then
        lineEnds n
        return done
      else
        let c ← andOr n
        match ← token n false false with
        | .ampersand => list n extent (some (chain done (.background c))) true
        | .semicolon => list n extent (some (chain done c)) true
        | .lineEnd =>
          if extent = Extent.line then
            lineEnds n
            return some (chain done c)
          else
            lineEnds n
            list n extent (some (chain done c)) true
        | .finish =>
          push .finish
          lineEnds n
          return some (chain done c)
        | t =>
          if extent = Extent.line then unexpected
          else
            push t
            return some (chain done c)

/-- Pipelines joined by signs for success and failure. -/
def andOr (steps : Nat) : Reading Command :=
  match steps with
  | 0 => fail "script too long"
  | n + 1 => do
    let first ← pipeline n false
    andOrTail n first

def andOrTail (steps : Nat) (first : Command) : Reading Command :=
  match steps with
  | 0 => fail "script too long"
  | n + 1 => do
    match ← token n false false with
    | .andThen => andOrTail n (.and first (← pipeline n true))
    | .orElse => andOrTail n (.or first (← pipeline n true))
    | t => push t; return first

def pipeline (steps : Nat) (skipLines : Bool) : Reading Command :=
  match steps with
  | 0 => fail "script too long"
  | n + 1 => do
    let t ← token n true skipLines
    if t.isKeyword "!" then
      return .not (← pipeline n false)
    else
      push t
      let first ← command n false
      let commands ← pipeTail n [first]
      return match commands with
        | [c] => c
        | commands => .pipe commands

/-- The commands behind bars, those so far last first. -/
def pipeTail (steps : Nat) (done : List Command) : Reading (List Command) :=
  match steps with
  | 0 => fail "script too long"
  | n + 1 => do
    match ← token n false false with
    | .bar => pipeTail n ((← command n true) :: done)
    | t => push t; return done.reverse

def command (steps : Nat) (skipLines : Bool) : Reading Command :=
  match steps with
  | 0 => fail "script too long"
  | n + 1 => do
    let t ← token n true skipLines
    let line := (← get).line
    match t with
    | .keyword "if" =>
      let c ← branches n
      redirected n line c
    | .keyword "while" => redirected n line (← whileLoop n true)
    | .keyword "until" => redirected n line (← whileLoop n false)
    | .keyword "for" => redirected n line (← forLoop n line)
    | .keyword "case" => redirected n line (← caseOf n line)
    | .keyword "\x7b" =>
      let body ← block n
      expect n (.keyword "\x7d")
      redirected n line body
    | .open =>
      let body ← block n
      expect n .close
      redirected n line (.apart body)
    | .word _ | .redirect _ _ =>
      push t
      simple n line [] [] [] true
    | _ => unexpected

/-- At least one command, unless the script ends. -/
def block (steps : Nat) : Reading Command :=
  match steps with
  | 0 => fail "script too long"
  | n + 1 => return (← list n .some none false).getD default

/-- A token that has to come. -/
def expect (steps : Nat) (wanted : Token) : Reading Unit :=
  match steps with
  | 0 => fail "script too long"
  | n + 1 => do
    match wanted, ← token n true true with
    | .keyword name, .keyword other => if name = other then pure () else unexpected (some wanted)
    | .close, .close => pure ()
    | _, _ => unexpected (some wanted)

/-- The redirections after a command. -/
def redirected (steps : Nat) (line : Nat) (c : Command) : Reading Command :=
  match steps with
  | 0 => fail "script too long"
  | n + 1 => do
    let rs ← redirections n []
    return wrapped line c rs

def redirections (steps : Nat) (done : List Redirection) : Reading (List Redirection) :=
  match steps with
  | 0 => fail "script too long"
  | n + 1 => do
    match ← token n true false with
    | .redirect number sign => redirections n ((← redirection n number sign) :: done)
    | t => push t; return done.reverse

/-- What follows the sign of a redirection. -/
def redirection (steps : Nat) (number : Option Nat) (sign : String) : Reading Redirection :=
  match steps with
  | 0 => fail "script too long"
  | n + 1 => do
    match ← token n false false with
    | .word w =>
      match sign with
      | "<" => return .file (number.getD 0) .read w
      | "<>" => return .file (number.getD 0) .both w
      | ">>" => return .file (number.getD 1) .append w
      | ">|" => return .file (number.getD 1) .over w
      | "<&" => return .same (number.getD 0) w
      | ">&" => return .same (number.getD 1) w
      | "<<" => here (number.getD 0) false w
      | "<<-" => here (number.getD 0) true w
      | _ => return .file (number.getD 1) .write w
    | _ => unexpected
where
  here (number : Nat) (shifted : Bool) (w : Word) : Reading Redirection := do
    let place := (← get).next
    let last := ((w.fixed?).getD "").toList
    modify fun c => { c with
      next := place + 1
      awaited := ⟨place, last, shifted, w.any Part.isQuoted⟩ :: c.awaited }
    return .here number place

/-- A command of words. What it sets stands before its name; all parts so far last first. -/
def simple (steps : Nat) (line : Nat) (settings : List (String × Word)) (words : List Word)
    (rs : List Redirection) (open_ : Bool) : Reading Command :=
  match steps with
  | 0 => fail "script too long"
  | n + 1 => do
    let done : Reading Command :=
      return .simple line settings.reverse words.reverse rs.reverse
    match ← token n false false with
    | .word w =>
      match (if open_ then setting? w else none) with
      | some setting => simple n line (setting :: settings) words rs true
      | none => simple n line settings (w :: words) rs false
    | .redirect number sign =>
      simple n line settings words ((← redirection n number sign) :: rs) open_
    | .open =>
      match settings, words, rs with
      | [], [w], [] =>
        match ← token n false false with
        | .close =>
          match w.plain? with
          | some name =>
            if isName name then return .define name (← command n true)
            else fail "Bad function name"
          | none => fail "Bad function name"
        | _ => unexpected (some .close)
      | _, _, _ => push .open; done
    | t => push t; done

/-- The condition and the branches after an if. -/
def branches (steps : Nat) : Reading Command :=
  match steps with
  | 0 => fail "script too long"
  | n + 1 => do
    let condition ← block n
    expect n (.keyword "then")
    let yes ← block n
    match ← token n true true with
    | .keyword "elif" => return .branch condition yes (some (← branches n))
    | .keyword "else" =>
      let no ← block n
      expect n (.keyword "fi")
      return .branch condition yes (some no)
    | .keyword "fi" => return .branch condition yes none
    | _ => unexpected (some (.keyword "fi"))

def whileLoop (steps : Nat) (whileTrue : Bool) : Reading Command :=
  match steps with
  | 0 => fail "script too long"
  | n + 1 => do
    let condition ← block n
    expect n (.keyword "do")
    let body ← block n
    expect n (.keyword "done")
    return .loop condition whileTrue body

def forLoop (steps : Nat) (line : Nat) : Reading Command :=
  match steps with
  | 0 => fail "script too long"
  | n + 1 => do
    match ← token n false false with
    | .word w =>
      match w.plain? with
      | some name =>
        if !isName name then fail "Bad for loop variable"
        else
          let words ← match ← token n true true with
            | .keyword "in" => some <$> forWords n []
            | .semicolon => pure none
            | t => push t; pure none
          expect n (.keyword "do")
          let body ← block n
          expect n (.keyword "done")
          return .each line name words body
      | none => fail "Bad for loop variable"
    | _ => fail "Bad for loop variable"

/-- The words of a loop, those so far last first. -/
def forWords (steps : Nat) (done : List Word) : Reading (List Word) :=
  match steps with
  | 0 => fail "script too long"
  | n + 1 => do
    match ← token n false false with
    | .word w => forWords n (w :: done)
    | .lineEnd =>
      lineEnds n
      return done.reverse
    | .semicolon => return done.reverse
    | _ => unexpected

def caseOf (steps : Nat) (line : Nat) : Reading Command :=
  match steps with
  | 0 => fail "script too long"
  | n + 1 => do
    match ← token n false false with
    | .word w =>
      expect n (.keyword "in")
      return .case line w (← arms n [])
    | _ => unexpected (some (.word []))

/-- The arms of a case, those so far last first. -/
def arms (steps : Nat) (done : List (List Word × Option Command)) :
    Reading (List (List Word × Option Command)) :=
  match steps with
  | 0 => fail "script too long"
  | n + 1 => do
    match ← token n true true with
    | .keyword "esac" => return done.reverse
    | t =>
      match t with
      | .open => pure ()
      | .keyword name => push (.word [.text name.toList false])
      | t => push t
      let patterns ← armPatterns n []
      let body ← list n .any none false
      match ← token n true true with
      | .keyword "esac" => return ((patterns, body) :: done).reverse
      | .endArm => arms n ((patterns, body) :: done)
      | _ => unexpected (some .endArm)

/-- The patterns of an arm up to its parenthesis, those so far last first. Any sign may stand for a
pattern that describes nothing but an empty text. -/
def armPatterns (steps : Nat) (done : List Word) : Reading (List Word) :=
  match steps with
  | 0 => fail "script too long"
  | n + 1 => do
    let w : Word := match ← token n false false with
      | .word w => w
      | _ => []
    match ← token n false false with
    | .bar => armPatterns n (w :: done)
    | .close => return (w :: done).reverse
    | _ => unexpected (some .close)

end

/-- The commands of one line, or none at the end. -/
def nextLine (c : Cursor) : Except SyntaxFault (Option (Option Command) × Cursor) :=
  let steps := 8 * c.rest.length + 64
  let read : Reading (Option (Option Command)) := do
    match ← token steps true false with
    | .finish => return none
    | t =>
      push t
      some <$> list steps .line none false
  read.run c

end RouteSync.Rehearsal.Shell
