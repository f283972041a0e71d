import OvnApi.Ovs.Value

/-! The incremental reader of `ovs/json.py`. A lexer takes the text a character at a
time and hands tokens to a parser, whose stack holds the arrays and objects that
are open. The source links a new container into the one that holds it when it is
opened, and fills it in place; here it is linked when it is closed, which no reader
of the stack can tell, since only a finished document is ever handed out. -/

namespace OvnApi.Ovs

inductive LexState where
  | start
  | keyword
  | number
  | string
  | stringEscape
  deriving DecidableEq

inductive ParseState where
  | start
  | finish
  | objectInit
  | objectName
  | objectColon
  | objectValue
  | objectNext
  | arrayInit
  | arrayValue
  | arrayNext
  deriving DecidableEq

/-- One of `[{]}:,`, or a value that is not a container. A string token can also name
a member. -/
inductive Token where
  | mark (c : ℕ)
  | value (v : Value)
  | string (s : Text)

inductive Container where
  | array (items : List Value)
  | object (members : List (Text × Value))

def Container.value : Container → Value
  | .array items => .arr items
  | .object members => .obj members

/-- An open container, and the member it will be of the object that holds it. -/
structure Frame where
  name : Text
  container : Container

/-- What the lexer and the parser work on. -/
structure Machine where
  checkTrailer : Bool
  lexState : LexState := .start
  buffer : Text := []
  parseState : ParseState := .start
  /-- the innermost open container first -/
  stack : List Frame := []
  /-- `None` until the first name is read, and not looked at before that -/
  memberName : Text := []
  done : Bool := false

structure Position where
  line : ℕ := 0
  column : ℕ := 0
  byte : ℕ := 0

/-- A `Parser` object. `raised` stands for a `ValueError` that leaves `feed`. -/
structure Parser where
  machine : Machine
  position : Position := {}
  error : Option Text := none
  raised : Bool := false

/-- What a step of the lexer does: it goes on, it stops with the message of an error,
or it raises. -/
inductive Step where
  | ok (machine : Machine)
  | error (machine : Machine) (message : Text)
  | raised (machine : Machine)

def maxHeight : ℕ := 1000

/-! ### The parser -/

/-- `__put_value`, on the stack. -/
def putValue (memberName : Text) (v : Value) : List Frame → List Frame
  | [] => []
  | ⟨name, .array items⟩ :: stack => ⟨name, .array (items ++ [v])⟩ :: stack
  | ⟨name, .object members⟩ :: stack => ⟨name, .object (setMember members memberName v)⟩ :: stack

namespace Machine

variable (m : Machine)

def parserPush (new : Container) (next : ParseState) : Step :=
  if m.stack.length < maxHeight then
    .ok { m with stack := ⟨m.memberName, new⟩ :: m.stack, parseState := next }
  else .error m (codes "input exceeds maximum nesting depth 1000")

def pushObject : Step := m.parserPush (.object []) .objectInit

def pushArray : Step := m.parserPush (.array []) .arrayInit

/-- The state that follows a value in the container on top of the stack. -/
def nextState : List Frame → ParseState
  | ⟨_, .array _⟩ :: _ => .arrayNext
  | _ => .objectNext

def parserPop : Step :=
  match m.stack with
  | frame :: below :: stack =>
    let stack := putValue frame.name frame.container.value (below :: stack)
    .ok { m with stack, parseState := nextState stack }
  | _ => .ok { m with parseState := .finish, done := m.done || !m.checkTrailer }

def parseValue (token : Token) (next : ParseState) : Step :=
  match token with
  | .value v => .ok { m with stack := putValue m.memberName v m.stack, parseState := next }
  | .string s => .ok { m with stack := putValue m.memberName (.str s) m.stack, parseState := next }
  | .mark c =>
    if c = '\x7b'.toNat then m.pushObject
    else if c = '['.toNat then m.pushArray
    else .error m (codes "syntax error expecting value")

def parseObjectName : Token → Step
  | .string s => .ok { m with memberName := s, parseState := .objectColon }
  | _ => .error m (codes "syntax error parsing object expecting string")

def isMark (token : Token) (ch : Char) : Bool :=
  match token with
  | .mark c => c = ch.toNat
  | _ => false

/-- `parse_state(self, token, string)`. -/
def parse (token : Token) : Step :=
  match m.parseState with
  | .start =>
    if isMark token '\x7b' then m.pushObject
    else if isMark token '[' then m.pushArray
    else .error m (codes "syntax error at beginning of input")
  | .finish => .error m (codes "trailing garbage at end of input")
  | .objectInit => if isMark token '\x7d' then m.parserPop else m.parseObjectName token
  | .objectName => m.parseObjectName token
  | .objectColon =>
    if isMark token ':' then .ok { m with parseState := .objectValue }
    else .error m (codes "syntax error parsing object expecting ':'")
  | .objectValue => m.parseValue token .objectNext
  | .objectNext =>
    if isMark token ',' then .ok { m with parseState := .objectName }
    else if isMark token '\x7d' then m.parserPop
    else .error m (codes "syntax error expecting '\x7d' or ','")
  | .arrayInit => if isMark token ']' then m.parserPop else m.parseValue token .arrayNext
  | .arrayValue => m.parseValue token .arrayNext
  | .arrayNext =>
    if isMark token ',' then .ok { m with parseState := .arrayValue }
    else if isMark token ']' then m.parserPop
    else .error m (codes "syntax error expecting ']' or ','")

def parserInput (token : Token) : Step :=
  ({ m with lexState := .start, buffer := [] } : Machine).parse token

end Machine

/-! ### Strings -/

def isHexDigit (c : ℕ) : Bool :=
  isDigit c || ('a'.toNat ≤ c && c ≤ 'f'.toNat) || ('A'.toNat ≤ c && c ≤ 'F'.toNat)

def hexDigitValue (c : ℕ) : ℕ :=
  if isDigit c then c - 48 else if 'a'.toNat ≤ c then c - 87 else c - 55

def lex4hex (s : Text) : Except Text ℕ :=
  if s.length < 4 then .error (codes "quoted string ends within \\u escape")
  else if s.all isHexDigit = false then .error (codes "malformed \\u escape")
  else if s = codes "0000" then .error (codes "null bytes not supported in quoted strings")
  else .ok (s.foldl (fun n c => 16 * n + hexDigitValue c) 0)

def isLeadingSurrogate (c : ℕ) : Bool := 0xd800 ≤ c && c ≤ 0xdbff

def isTrailingSurrogate (c : ℕ) : Bool := 0xdc00 ≤ c && c ≤ 0xdfff

def utf16DecodeSurrogatePair (leading trailing : ℕ) : ℕ :=
  let w := (leading >>> 6) &&& 0xf
  let u := w + 1
  let x0 := leading &&& 0x3f
  let x1 := trailing &&& 0x3ff
  (u <<< 16) ||| (x0 <<< 10) ||| x1

/-- `__unescape.get(c)`. -/
def unescape (c : ℕ) : Option ℕ :=
  if c = '"'.toNat ∨ c = '\\'.toNat ∨ c = '/'.toNat then some c
  else if c = 'b'.toNat then some 8
  else if c = 'f'.toNat then some 12
  else if c = 'n'.toNat then some 10
  else if c = 'r'.toNat then some 13
  else if c = 't'.toNat then some 9
  else none

/-- The code point after `\u`, and the text that follows it. -/
def lexCodePoint (inp : Text) : Except Text (ℕ × Text) := do
  let c0 ← lex4hex (inp.take 4)
  let inp := inp.drop 4
  if isLeadingSurrogate c0 then
    if inp.take 2 ≠ codes "\\u" then .error (codes "malformed escaped surrogate pair")
    else
      let c1 ← lex4hex ((inp.drop 2).take 4)
      if isTrailingSurrogate c1 = false then
        .error (codes "second half of escaped surrogate pair is not trailing surrogate")
      else pure (utf16DecodeSurrogatePair c0 c1, inp.drop 6)
  else pure (c0, inp)

/-- The loop of `__lex_finish_string`; every turn takes at least a character of `inp`. -/
def unescapeLoop : ℕ → Text → Text → Except Text Text
  | 0, _, out => .ok out
  | fuel + 1, inp, out =>
    match inp with
    | [] => .ok out
    | c :: inp =>
      if c ≠ '\\'.toNat then unescapeLoop fuel inp (out ++ [c])
      else
        match inp with
        | [] => .error (codes "quoted string may not end with backslash")
        | e :: inp =>
          match unescape e with
          | some replacement => unescapeLoop fuel inp (out ++ [replacement])
          | none =>
            if e ≠ 'u'.toNat then .error (codes "bad escape \\" ++ [e])
            else
              match lexCodePoint inp with
              | .error message => .error message
              | .ok point => unescapeLoop fuel point.2 (out ++ [point.1])

/-- The string that a buffer between quotes stands for. -/
def lexString (buffer : Text) : Except Text Text := unescapeLoop buffer.length buffer []

/-! ### The lexer -/

def hexDigit (d : ℕ) : ℕ := if d < 10 then d + 48 else d + 87

/-- `"%04x" % n` -/
def hex4 (n : ℕ) : Text :=
  if n < 0x10000 then
    [hexDigit (n / 4096), hexDigit (n / 256 % 16), hexDigit (n / 16 % 16), hexDigit (n % 16)]
  else (Nat.toDigits 16 n).map Char.toNat

/-- `"%04X" % n` -/
def hex4Upper (n : ℕ) : Text :=
  (hex4 n).map fun c => if 'a'.toNat ≤ c then c - 32 else c

def isLower (c : ℕ) : Bool := 'a'.toNat ≤ c && c ≤ 'z'.toNat

/-- The keys of `__lex_alpha`. -/
def isAlpha (c : ℕ) : Bool := isLower c || ('A'.toNat ≤ c && c ≤ 'Z'.toNat)

def isSpace (c : ℕ) : Bool := c = 32 || c = 9 || c = 10 || c = 13

/-- `[{]}:,` -/
def marks : Text := ['['.toNat, '\x7b'.toNat, ']'.toNat, '\x7d'.toNat, ':'.toNat, ','.toNat]

/-- `.0123456789eE-+` -/
def isNumberChar (c : ℕ) : Bool :=
  isDigit c || c = '.'.toNat || c = 'e'.toNat || c = 'E'.toNat || c = '-'.toNat || c = '+'.toNat

namespace Machine

variable (maxStrDigits : ℕ) (m : Machine)

def lexStart (ch : ℕ) : Step :=
  if isSpace ch then .ok m
  else if isLower ch then .ok { m with buffer := [ch], lexState := .keyword }
  else if ch ∈ marks then m.parserInput (.mark ch)
  else if isDigit ch ∨ ch = '-'.toNat then .ok { m with buffer := [ch], lexState := .number }
  else if ch = '"'.toNat then .ok { m with lexState := .string }
  else if 32 ≤ ch ∧ ch < 128 then .error m (codes "invalid character '" ++ [ch] ++ codes "'")
  else .error m (codes "invalid character U+" ++ hex4 ch)

def lexFinishKeyword : Step :=
  if m.buffer = codes "false" then m.parserInput (.value (.bool false))
  else if m.buffer = codes "true" then m.parserInput (.value (.bool true))
  else if m.buffer = codes "null" then m.parserInput (.value .null)
  else .error m (codes "invalid keyword '" ++ m.buffer ++ codes "'")

def finishNumber : Step :=
  match lexFinishNumber maxStrDigits m.buffer with
  | .token v => m.parserInput (.value v)
  | .error message => .error m message
  | .raised => .raised m

def lexFinishString : Step :=
  match lexString m.buffer with
  | .ok s => m.parserInput (.string s)
  | .error message => .error m message

/-- `__lex_input`: whether the character is eaten, and what it does. -/
def lexInput (ch : ℕ) : Bool × Step :=
  match m.lexState with
  | .start => (true, m.lexStart ch)
  | .keyword =>
    if isAlpha ch then (true, .ok { m with buffer := m.buffer ++ [ch] })
    else (false, m.lexFinishKeyword)
  | .number =>
    if isNumberChar ch then (true, .ok { m with buffer := m.buffer ++ [ch] })
    else (false, m.finishNumber maxStrDigits)
  | .string =>
    (true,
      if ch = '\\'.toNat then .ok { m with buffer := m.buffer ++ [ch], lexState := .stringEscape }
      else if ch = '"'.toNat then m.lexFinishString
      else if 0x20 ≤ ch then .ok { m with buffer := m.buffer ++ [ch] }
      else .error m (codes "U+" ++ hex4Upper ch ++ codes " must be escaped in quoted string"))
  | .stringEscape => (true, .ok { m with buffer := m.buffer ++ [ch], lexState := .string })

end Machine

/-! ### Feeding -/

def Position.advance (p : Position) (ch : ℕ) : Position :=
  if ch = 10 then ⟨p.line + 1, 0, p.byte + 1⟩ else ⟨p.line, p.column + 1, p.byte + 1⟩

def Position.text (p : Position) (message : Text) : Text :=
  codes ("line " ++ toString p.line ++ ", column " ++ toString p.column ++ ", byte " ++
    toString p.byte ++ ": ") ++ message

namespace Parser

variable (maxStrDigits : ℕ)

def new (checkTrailer : Bool) : Parser := { machine := { checkTrailer } }

/-- `__error`: the first error stays. -/
def fail (p : Parser) (message : Text) : Parser :=
  if p.error = none then
    { p with error := some (p.position.text message), machine := { p.machine with done := true } }
  else p

def apply (p : Parser) : Step → Parser
  | .ok machine => { p with machine }
  | .error machine message => ({ p with machine } : Parser).fail message
  | .raised machine => { p with machine, raised := true }

/-- `feed` looks no further; an error has set `done` as well. -/
def stopped (p : Parser) : Bool := p.machine.done || p.error.isSome || p.raised

/-- `__lex_input` on the object. -/
def lexInput (p : Parser) (ch : ℕ) : Bool × Parser :=
  ((p.machine.lexInput maxStrDigits ch).1, p.apply (p.machine.lexInput maxStrDigits ch).2)

/-- The turns of `feed` on one character: one that is not eaten is looked at again,
unless the parser has stopped. Such a character ends a keyword or a number, and the
lexer is then between tokens, where it eats every one: the second turn is the last. -/
def lexChar (p : Parser) (ch : ℕ) : Bool × Parser :=
  let first := p.lexInput maxStrDigits ch
  if first.1 || first.2.stopped then first else first.2.lexInput maxStrDigits ch

/-- One character of `feed`: the position moves past it when it is eaten. -/
def feedChar (p : Parser) (ch : ℕ) : Bool × Parser :=
  let r := p.lexChar maxStrDigits ch
  if r.1 then (true, { r.2 with position := r.2.position.advance ch }) else (false, r.2)

/-- `feed`: how many characters are eaten, and the parser then. -/
def feed (maxStrDigits : ℕ) : Parser → Text → ℕ × Parser
  | p, [] => (0, p)
  | p, ch :: s =>
    if p.stopped then (0, p)
    else
      let r := p.feedChar maxStrDigits ch
      if r.1 then ((feed maxStrDigits r.2 s).1 + 1, (feed maxStrDigits r.2 s).2) else (0, r.2)

/-- The part of `finish` that closes the token being read. -/
def closeToken (p : Parser) : Parser :=
  match p.machine.lexState with
  | .start => p
  | .string => p.fail (codes "unexpected end of input in quoted string")
  | .stringEscape => p.fail (codes "unexpected end of input in quoted string")
  | _ => (p.lexInput maxStrDigits 32).2

/-- The part of `finish` that looks at the parser's state. -/
def closeDocument (p : Parser) : Parser :=
  match p.machine.parseState with
  | .start => p.fail (codes "empty input stream")
  | .finish => p
  | _ => p.fail (codes "unexpected end of input")

inductive Finished where
  | document (v : Value)
  | error (message : Text)
  | raised

def finish (p : Parser) : Finished :=
  let closed := p.closeToken maxStrDigits
  if closed.raised then .raised
  else
    let q := closed.closeDocument
    match q.error with
    | some message => .error message
    | none =>
      match q.machine.stack with
      | [frame] => .document frame.container.value
      | _ => .raised

end Parser

end OvnApi.Ovs
