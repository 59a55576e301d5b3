/-!
# Messages, errors and control signals

The values that cross the `LspService` boundary: requests, notifications and
events as the frontend hands them over, the `ResponseError` a request may be
answered with, and `ControlFlow`, the continue/break signal of notifications
and events. Only the fields and the error codes that `server.rs` and
`omni_trait.rs` read or build are kept.
-/

namespace AsyncLsp

/-- A JSON value (`serde_json::Value`), kept as its serialized text. -/
structure JsonValue where
  text : String
  deriving DecidableEq, Repr

/-- `null`, what `()` serializes to. -/
def JsonValue.null : JsonValue := ⟨"null"⟩

/-- `lsp_types::NumberOrString`, the id of a request. -/
inductive RequestId
  | number (n : Int)
  | string (s : String)
  deriving DecidableEq, Repr

structure AnyRequest where
  id : RequestId
  method : String
  params : JsonValue
  deriving DecidableEq, Repr

structure AnyNotification where
  method : String
  params : JsonValue
  deriving DecidableEq, Repr

/-- An internal event. Its payload is type-erased; only the type's name is kept. -/
structure AnyEvent where
  typeName : String
  deriving DecidableEq, Repr

/-! ## Method names (`lsp_types::request`, `lsp_types::notification`) -/

def request.Initialize.METHOD : String := "initialize"
def request.Shutdown.METHOD : String := "shutdown"
def notification.Initialized.METHOD : String := "initialized"
def notification.Exit.METHOD : String := "exit"

@[simp] theorem request.Initialize_ne_Shutdown :
    request.Initialize.METHOD ≠ request.Shutdown.METHOD := by decide

@[simp] theorem request.Shutdown_ne_Initialize :
    request.Shutdown.METHOD ≠ request.Initialize.METHOD := by decide

@[simp] theorem notification.Initialized_ne_Exit :
    notification.Initialized.METHOD ≠ notification.Exit.METHOD := by decide

@[simp] theorem notification.Exit_ne_Initialized :
    notification.Exit.METHOD ≠ notification.Initialized.METHOD := by decide

/-! ## Errors -/

/-- `lsp_types::ErrorCode`, a newtype over `i32`. -/
structure ErrorCode where
  code : Int
  deriving DecidableEq, Repr

def ErrorCode.INVALID_REQUEST : ErrorCode := ⟨-32600⟩
def ErrorCode.METHOD_NOT_FOUND : ErrorCode := ⟨-32601⟩
def ErrorCode.SERVER_NOT_INITIALIZED : ErrorCode := ⟨-32002⟩

structure ResponseError where
  code : ErrorCode
  message : String
  data : Option JsonValue
  deriving DecidableEq, Repr

/-- `crate::Error`, with the one variant this code builds. -/
inductive Error
  | protocol (msg : String)
  deriving DecidableEq, Repr

/-! ## Control signals and futures -/

/-- `std::ops::ControlFlow<B>`: `Continue(())` keeps the main loop running,
`Break(b)` ends it with `b`. -/
inductive ControlFlow (B : Type)
  | «continue»
  | «break» (b : B)
  deriving DecidableEq, Repr

/-- `either::Either`. -/
inductive Either (L R : Type)
  | left (l : L)
  | right (r : R)
  deriving DecidableEq, Repr

/-- `std::future::Ready<T>`: a future that is complete on its first poll. -/
structure Ready (T : Type) where
  output : T
  deriving DecidableEq, Repr

def ready {T : Type} (t : T) : Ready T := ⟨t⟩

/-- `std::task::Poll`. -/
inductive Poll (T : Type)
  | ready (t : T)
  | pending
  deriving DecidableEq, Repr

end AsyncLsp
