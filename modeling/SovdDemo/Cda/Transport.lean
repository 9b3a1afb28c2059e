import SovdDemo.Cda.Types

/-!
# The DoIP/UDS transport helper

`_get_component_config`, `_doip_connection` and `_send_uds`. The context manager is a generator: an
exception of the `with` body is raised again inside it, at its `yield`, and so the manager's own
`except` clause sees it.

## Main definitions

- `doipConnection` — a `with _doip_connection(comp)` block
- `sendUds` — one request and its reply
-/

namespace SovdDemo.Cda

open Foundations

/-! The DoIP client -/

def invalidLiteral (env : PyEnv) (s : String) : PyException :=
  .valueError s!"invalid literal for int() with base 16: {env.repr s}"

/-- `int(s, 16)`. -/
def parseInt (env : PyEnv) (s : String) : Py Int :=
  match intBase16 s with
  | some n => pure n
  | none => throw (invalidLiteral env s)

/-- `DoIPClient(..)`, with its arguments. -/
def openClient (env : PyEnv) (doipCfg : DoipConfig) : Py Unit := do
  let _ ← parseInt env doipCfg.ecuLogicalAddress
  let _ ← parseInt env doipCfg.clientLogicalAddress
  match (← get).connect with
  | some e => throw e
  | none => pure ()

def sendDiagnostic (request : List UInt8) : Py Unit := do
  let w ← get
  set { w with sent := w.sent ++ [request], sends := w.sends.tail }
  match w.sends.head? with
  | some (some e) => throw e
  | _ => pure ()

def receiveDiagnostic : Py (Option (List UInt8)) := do
  let w ← get
  match w.inbox with
  | [] => pure none
  | received :: rest =>
    set { w with inbox := rest }
    match received with
    | .raises e => throw e
    | .reply payload => pure payload

def closeClient : Py Unit := do
  match (← get).close with
  | some e => throw e
  | none => pure ()

/-! The helpers -/

/-- `xs[i]`, which may raise. -/
def index {α : Type} (xs : List α) (i : Int) : Except PyException α :=
  match pyIndex xs i with
  | some x => .ok x
  | none => .error .indexError

def getComponentConfig (catalog : Catalog) (componentId : String) : Py Component :=
  match catalog.components.get componentId with
  | some comp => pure comp
  | none => throw (.httpException 404 s!"Component '{componentId}' not found")

/-- The exception the context manager raises instead of `e`. -/
def communicationError (env : PyEnv) (e : PyException) : PyException :=
  .httpException 502 s!"ECU communication error: {env.str e}"

/-- The `finally` clause: an exception of `close` is swallowed. -/
def closeQuietly (w : World) : World :=
  match closeClient w with
  | .ok () w => w
  | .error _ w => w

/-- `with _doip_connection(comp)`: the client is created and closed again, and whatever is raised in
between, in the body too, becomes a communication error. -/
def doipConnection {α : Type} (env : PyEnv) (comp : Component) (body : Py α) : Py α := fun w =>
  match openClient env comp.doip w with
  -- `client` is still `None`, so there is nothing to close
  | .error e w => .error (communicationError env e) w
  | .ok () w =>
    match body w with
    | .ok a w => .ok a (closeQuietly w)
    -- `except Exception` catches the `HTTPException` of the body as well
    | .error e w => .error (communicationError env e) (closeQuietly w)

def nrcNames : List (UInt8 × String) :=
  [(0x10, "generalReject"), (0x11, "serviceNotSupported"), (0x12, "subFunctionNotSupported"),
    (0x13, "incorrectMessageLengthOrInvalidFormat"), (0x14, "responseTooLong"),
    (0x22, "conditionsNotCorrect"), (0x31, "requestOutOfRange")]

def negativeResponse (nrc : UInt8) : PyException :=
  let name := (nrcNames.lookup nrc).getD "unknown"
  .httpException 422 s!"UDS negative response: NRC 0x{hexUpper 2 nrc.toNat} ({name})"

def noResponse : PyException := .httpException 504 "No response from ECU"

/-- The check for a negative response: `resp[0]` and `resp[2]` are read behind `len(resp) >= 3`. -/
def checkNegativeResponse (resp : List UInt8) : Except PyException Unit := do
  if 3 ≤ resp.length then
    if (← index resp 0) = 0x7F then
      throw (negativeResponse (← index resp 2))

def sendUds (request : List UInt8) : Py (List UInt8) := do
  sendDiagnostic request
  match ← receiveDiagnostic with
  | none => throw noResponse
  | some resp =>
    ofExcept (checkNegativeResponse resp)
    return resp

/-- `bytes([..])` in a request. -/
def toBytes (ns : List Int) : Py (List UInt8) :=
  match bytesOfInts ns with
  | some bytes => pure bytes
  | none => throw (.valueError "bytes must be in range(0, 256)")

end SovdDemo.Cda
