import Mathlib.Data.Rat.Floor
import OvnApi.Core.Python
import OvnApi.Lib.Float
import OvnApi.Lib.Prog

/-! `OvsdbIdlClient`: a client that builds an IDL when it has none, waits for its first
synchronisation, and runs it once at every later call. The libraries answer in any way. The
attribute `_idl` stands in front of the world, so that an exception leaves it as it is at
that moment; the lock makes the calls follow one another. -/

namespace OvnApi.Ovsdb

open OvnApi.Core Lib Lib.Prog

structure Settings where
  remote : String
  schemaDbName : String
  schemaPath : String
  tables : List String
  syncTimeoutS : PyFloat
  /-- `str(sync_timeout_s)`. -/
  syncTimeoutText : String
  label : String

/-- The result of a request, as far as it is looked at. -/
inductive RpcResult (σ : Type) where
  | dict (value : σ)
  | other

inductive RpcReply (σ : Type) where
  | error (text : String)
  | result (value : RpcResult σ)

/-- The libraries and the clock. `ι` are the IDLs, `η` the schema helpers and `σ` the
dictionaries that a request may return. -/
structure Env (ω ι η σ : Type) where
  pathExists : String → Prog ω Exc Bool
  schemaFromFile : String → Prog ω Exc η
  schemaFromJson : σ → Prog ω Exc η
  registerTable : η → String → Prog ω Exc Unit
  newIdl : String → η → Prog ω Exc ι
  run : ι → Prog ω Exc Unit
  hasEverConnected : ω → ι → Bool
  /-- The error number, and whether there is a stream. -/
  openBlock : String → ℤ → Prog ω Exc (ℤ × Bool)
  transactBlock : String → List String → Prog ω Exc (ℤ × Option (RpcReply σ))
  close : Prog ω Exc Unit
  monotonic : ω → ℚ × ω
  strerror : ℤ → String
  /-- `repr` of an exception. -/
  excRepr : Exc → String

/-- `type(exc).__name__`. -/
def excType : Exc → String
  | .http _ _ => "HTTPException"
  | .other kind _ => kind

/-- `str` of an exception. -/
def excText : Exc → String
  | .http statusCode detail => toString statusCode ++ ": " ++ detail
  | .other _ message => message

/-- `except Exception` after `except HTTPException: raise`. -/
def excPlain : Exc → Option Exc
  | .http _ _ => none
  | .other kind message => some (.other kind message)

variable {ω ι η σ : Type} (env : Env ω ι η σ) (settings : Settings)

/-- An exception that `handles` accepts leaves as an `HTTPException` with this detail. -/
def rewrap {α : Type} (handles : Exc → Option Exc) (detail : Exc → String) (m : Prog ω Exc α) :
    Prog ω Exc α := do
  match ← attempt handles m with
  | .ok a => pure a
  | .error exc => raise (.http 500 (detail exc))

/-! ### The schema -/

/-- `int(sync_timeout_s * 1000)`. -/
def timeoutMs (syncTimeoutS : PyFloat) : Except Exc ℤ :=
  match PyFloat.nsmul 1000 syncTimeoutS with
  | .fin q => .ok (if 0 ≤ q then ⌊q⌋ else ⌈q⌉)
  | .nan => .error (.other "ValueError" "cannot convert float NaN to integer")
  | _ => .error (.other "OverflowError" "cannot convert float infinity to integer")

def Settings.place (settings : Settings) : String :=
  "remote=" ++ pyRepr settings.remote ++ " db_name=" ++ pyRepr settings.schemaDbName

/-- `_rpc_request`. The module `errno` has no `EOF`, so looking at an error raises. -/
def rpcRequest (method : String) (params : List String) : Prog ω Exc (RpcResult σ) := do
  let ms ← ofExcept (timeoutMs settings.syncTimeoutS)
  let opened ← env.openBlock settings.remote ms
  if opened.1 ≠ 0 ∨ opened.2 = false then
    raise (.http 500 ("Failed to open JSON-RPC stream to " ++ settings.label ++ " at " ++
      pyRepr settings.remote ++ ": " ++
      if opened.1 ≠ 0 then env.strerror opened.1 else "unknown error"))
  else
    let answer ← tryFinally (env.transactBlock method params) env.close
    if answer.1.1 ≠ 0 then
      raise (.other "AttributeError" "module 'errno' has no attribute 'EOF'")
    else
      match answer.1.2 with
      | none =>
        raise (.http 500 ("OVSDB RPC " ++ method ++ " returned no reply for " ++ settings.label ++
          ". " ++ settings.place))
      | some (.error text) =>
        raise (.http 500 ("OVSDB RPC " ++ method ++ " returned error for " ++ settings.label ++
          ". " ++ settings.place ++ " error=" ++ text))
      | some (.result value) => pure value

def fetchSchemaViaRpc : Prog ω Exc σ := do
  match ← rpcRequest env settings "get_schema" [settings.schemaDbName] with
  | .dict schema => pure schema
  | .other =>
    raise (.http 500 ("OVSDB RPC get_schema returned unexpected result for " ++ settings.label ++
      ". " ++ settings.place))

def excDetail (exc : Exc) : String :=
  " exc_type=" ++ excType exc ++ " exc=" ++ env.excRepr exc

def buildSchemaHelper : Prog ω Exc η := do
  if ← env.pathExists settings.schemaPath then env.schemaFromFile settings.schemaPath
  else
    let schema ← rewrap excPlain
      (fun exc => "Failed to fetch " ++ settings.label ++ " schema via OVSDB RPC. " ++
        settings.place ++ excDetail env exc)
      (fetchSchemaViaRpc env settings)
    rewrap Exc.caught
      (fun exc => "Failed to build SchemaHelper for " ++ settings.label ++
        " from OVSDB RPC result. " ++ settings.place ++ excDetail env exc)
      (env.schemaFromJson schema)

def createIdl : Prog ω Exc ι :=
  rewrap excPlain
    (fun exc => "Failed to initialize " ++ settings.label ++ " IDL. remote=" ++
      pyRepr settings.remote ++ " schema=" ++ pyRepr settings.schemaPath ++ excDetail env exc)
    (do
      let helper ← buildSchemaHelper env settings
      forEach (env.registerTable helper) settings.tables
      env.newIdl settings.remote helper)

/-! ### The IDL -/

def connected : Prog (Option ι × ω) Exc Bool := fun s =>
  match s.1 with
  | none => (.raised (.other "AttributeError"
      "'NoneType' object has no attribute 'has_ever_connected'"), s)
  | some idl => (.ok (env.hasEverConnected s.2 idl), s)

def runOnce : Prog (Option ι × ω) Exc Unit := do
  match ← locals with
  | none => pure ()
  | some idl =>
    match ← attempt Exc.caught (lift (env.run idl)) with
    | .ok () => pure ()
    | .error exc =>
      setLocals none
      raise (.http 500 (settings.label ++ " IDL run() failed (remote=" ++ pyRepr settings.remote ++
        "): " ++ excType exc ++ ": " ++ excText exc))

/-- One turn of the wait loop of `_sync`. -/
def syncTurn (start : ℚ) : Prog (Option ι × ω) Exc Bool := do
  if ← connected env then pure false
  else
    runOnce env settings
    let now ← lift (Prog.read env.monotonic)
    if PyFloat.lt settings.syncTimeoutS (.fin (now - start)) then
      setLocals none
      raise (.http 500 ("Timed out waiting for " ++ settings.label ++ " initial sync after " ++
        settings.syncTimeoutText ++ "s (remote=" ++ pyRepr settings.remote ++ ")."))
    else pure true

def sync (fuel : ℕ) : Prog (Option ι × ω) Exc Unit := do
  match ← locals with
  | none => pure ()
  | some _ =>
    let start ← lift (Prog.read env.monotonic)
    if ← connected env then runOnce env settings
    else whileFuel (syncTurn env settings start) fuel

def getIdl (fuel : ℕ) : Prog (Option ι × ω) Exc (Option ι) := do
  match ← locals with
  | none =>
    let idl ← lift (createIdl env settings)
    setLocals (some idl)
  | some _ => pure ()
  sync env settings fuel
  locals

end OvnApi.Ovsdb
