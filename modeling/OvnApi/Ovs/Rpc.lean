import OvnApi.Lib.Utf8
import OvnApi.Ovs.Printer

/-! JSON-RPC messages and connections, as `ovs/jsonrpc.py` has them. The value `null`
stands for Python's `None`. What a stream answers to each call is given as a list, and
a stream with no answer left is one that would block. -/

namespace OvnApi.Ovs

open OvnApi.Lib

/-! ### Messages -/

inductive MessageType where
  | request
  | notify
  | reply
  | error
  deriving DecidableEq

structure Message where
  type : MessageType
  method : Option Text
  params : Value
  result : Value
  error : Value
  id : Value

def isNone : Value → Bool
  | .null => true
  | _ => false

namespace Message

def createRequest (method : Text) (params id : Value) : Message :=
  ⟨.request, some method, params, .null, .null, id⟩

def createNotify (method : Text) (params : Value) : Message :=
  ⟨.notify, some method, params, .null, .null, .null⟩

def createReply (result id : Value) : Message := ⟨.reply, none, .null, result, .null, id⟩

def createError (error id : Value) : Message := ⟨.error, none, .null, .null, error, id⟩

def typeToString : MessageType → Text
  | .request => codes "request"
  | .notify => codes "notification"
  | .reply => codes "reply"
  | .error => codes "error"

/-- `__validate_arg`; `given` is `value is not None`. -/
def validateArg (type : MessageType) (given : Bool) (name : Text) (mustHave : Bool) : Option Text :=
  if given = mustHave then none
  else some (typeToString type ++ codes (if mustHave then " must have \"" else " must not have \"") ++
    name ++ codes "\"")

/-- What each type must have of `method`, `params`, `result`, `error` and `id`. -/
def pattern : MessageType → Bool × Bool × Bool × Bool × Bool
  | .request => (true, true, false, false, true)
  | .notify => (true, true, false, false, false)
  | .reply => (false, false, true, false, true)
  | .error => (false, false, false, true, true)

def isList : Value → Bool
  | .arr _ => true
  | _ => false

/-- `is_valid`: `none`, or what is wrong. -/
def isValid (m : Message) : Option Text :=
  if !isNone m.params && !isList m.params then some (codes "\"params\" must be JSON array")
  else
    let p := pattern m.type
    (validateArg m.type m.method.isSome (codes "method") p.1).or
      ((validateArg m.type (!isNone m.params) (codes "params") p.2.1).or
        ((validateArg m.type (!isNone m.result) (codes "result") p.2.2.1).or
          ((validateArg m.type (!isNone m.error) (codes "error") p.2.2.2.1).or
            (validateArg m.type (!isNone m.id) (codes "id") p.2.2.2.2))))

def member (members : List (Text × Value)) (name : Text) : Value := (members.lookup name).getD .null

/-- The names a message can have. -/
def names : List Text := [codes "method", codes "params", codes "result", codes "error", codes "id"]

/-- The type that the members left over by `method` decide. -/
def typeOf (result error id : Value) : MessageType :=
  if !isNone result then .reply
  else if !isNone error then .error
  else if !isNone id then .request
  else .notify

/-- The rest of `from_json`, once the method is known to be a string or missing. -/
def ofMembers (members : List (Text × Value)) (method : Option Text) : Except Text Message :=
  match (members.filter fun m => m.1 ∉ names).getLast? with
  | some m => .error (codes "message has unexpected member \"" ++ m.1 ++ codes "\"")
  | none =>
    let result := member members (codes "result")
    let error := member members (codes "error")
    let id := member members (codes "id")
    let msg : Message :=
      ⟨typeOf result error id, method, member members (codes "params"), result, error, id⟩
    match msg.isValid with
    | some validationError => .error validationError
    | none => .ok msg

def fromJson : Value → Except Text Message
  | .obj members =>
    match members.lookup (codes "method") with
    | none => ofMembers members none
    | some (.str method) => ofMembers members (some method)
    | some _ => .error (codes "method is not a JSON string")
  | _ => .error (codes "message is not a JSON object")

def toJson (m : Message) : Value :=
  .obj ((match m.method with | some method => [(codes "method", .str method)] | none => []) ++
    (if !isNone m.params then [(codes "params", m.params)] else []) ++
    (if !isNone m.result || m.type = .error then [(codes "result", m.result)] else []) ++
    (if !isNone m.error || m.type = .reply then [(codes "error", m.error)] else []) ++
    (if !isNone m.id || m.type = .notify then [(codes "id", m.id)] else []))

end Message

/-! ### Connections -/

def EOF : ℤ := -1

def EAGAIN : ℤ := 11

def EPROTO : ℤ := 71

def EILSEQ : ℤ := 84

structure Connection where
  status : ℤ := 0
  input : Text := []
  output : Text := []
  parser : Option Parser := none
  receivedBytes : ℕ := 0

/-- What `stream.recv` returns: the bytes that came, none of them at the end of the stream,
or an error. -/
inductive Arrival where
  | data (bytes : List ℕ)
  | error (errno : ℤ) (nonzero : errno ≠ 0)

/-- What `stream.send` returns: how many bytes it took, or an error. -/
inductive Departure where
  | sent (n : ℕ)
  | error (errno : ℤ) (nonzero : errno ≠ 0)

/-- What `recv` returns: a message, or an error and no message. It can also raise. -/
inductive Received where
  | message (m : Message)
  | failed (errno : ℤ)
  | raised

namespace Connection

/-- `error`. -/
def fail (c : Connection) (errno : ℤ) : Connection :=
  if c.status = 0 then { c with status := errno, output := [] } else c

/-- `__process_msg` and the return after it. -/
def processMsg (maxStrDigits : ℕ) (c : Connection) (p : Parser) : Received × Connection :=
  let c := { c with parser := none }
  match p.finish maxStrDigits with
  | .raised => (.raised, c)
  | .error _ => (.failed (c.fail EPROTO).status, c.fail EPROTO)
  | .document json =>
    match Message.fromJson json with
    | .ok msg => (.message msg, c)
    | .error _ => (.failed (c.fail EPROTO).status, c.fail EPROTO)

/-- The branch of the loop of `recv` that has input: the parser takes it, and the call returns
if a document is complete. -/
def feedInput (maxStrDigits : ℕ) (c : Connection) : Option Received × Connection :=
  let r := (c.parser.getD (.new false)).feed maxStrDigits c.input
  if r.2.raised then (some .raised, { c with parser := some r.2 })
  else
    let c := { c with parser := some r.2, input := c.input.drop r.1 }
    if r.2.machine.done then
      let out := c.processMsg maxStrDigits r.2
      (some out.1, out.2)
    else (none, c)

/-- The branch of the loop that has no input. `none` goes on with the loop; the decoder lives as
long as the call. Bytes that complete no character look like the end of the stream. -/
def readStream (c : Connection) (d : Utf8Decoder) : Arrival → Option Received × Connection × Utf8Decoder
  | .error errno _ =>
    if errno = EAGAIN then (some (.failed EAGAIN), c, d)
    else (some (.failed (c.fail errno).status), c.fail errno, d)
  | .data bytes =>
    match d.decode bytes with
    | none => (some (.failed (c.fail EILSEQ).status), c.fail EILSEQ, d)
    | some ([], d) => (some (.failed EOF), c.fail EOF, d)
    | some (text, d) =>
      (none, { c with input := text, receivedBytes := c.receivedBytes + text.length }, d)

/-- The call returns what a turn has decided, or the loop goes on. -/
def turn (arrivals : List Arrival) (loop : Connection → Received × Connection × List Arrival) :
    Option Received × Connection → Received × Connection × List Arrival
  | (some out, c) => (out, c, arrivals)
  | (none, c) => loop c

/-- The loop of `recv` with no input: each answer of the stream is read and then fed. The answers
that were not asked for are left. -/
def recvLoop (maxStrDigits : ℕ) :
    Connection → Utf8Decoder → List Arrival → Received × Connection × List Arrival
  | c, _, [] => (.failed EAGAIN, c, [])
  | c, d, a :: arrivals =>
    match c.readStream d a with
    | (some out, c, _) => (out, c, arrivals)
    | (none, c, d) =>
      turn arrivals (fun c => recvLoop maxStrDigits c d arrivals) (c.feedInput maxStrDigits)

def recv (maxStrDigits : ℕ) (c : Connection) (arrivals : List Arrival) :
    Received × Connection × List Arrival :=
  if c.status ≠ 0 then (.failed c.status, c, arrivals)
  else if c.input = [] then recvLoop maxStrDigits c {} arrivals
  else turn arrivals (fun c => recvLoop maxStrDigits c {} arrivals) (c.feedInput maxStrDigits)

/-- `run`: the connection then, and the bytes that went out. -/
def run : Connection → List Departure → Connection × List ℕ
  | c, [] => (c, [])
  | c, a :: answers =>
    if c.status ≠ 0 ∨ c.output = [] then (c, [])
    else
      match a with
      | .error errno _ => if errno = EAGAIN then (c, []) else (c.fail errno, [])
      | .sent n =>
        let rest := run { c with output := c.output.drop n } answers
        (rest.1, (utf8 c.output).take n ++ rest.2)

/-- `send`: what it returns, the connection then, and the bytes that went out. -/
def send (repr : ℚ → Text) (c : Connection) (msg : Message) (answers : List Departure) :
    ℤ × Connection × List ℕ :=
  if c.status ≠ 0 then (c.status, c, [])
  else
    let queued := { c with output := c.output ++ toText repr msg.toJson }
    if c.output = [] then
      let out := queued.run answers
      (out.1.status, out.1, out.2)
    else (queued.status, queued, [])

end Connection

end OvnApi.Ovs
