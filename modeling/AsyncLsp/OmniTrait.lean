import AsyncLsp.Service

/-!
# Default handlers of the omni traits (`omni_trait.rs`)

What every `LanguageServer` and `LanguageClient` method does unless the
implementer overrides it: requests answer `method_not_found`, notifications
take `NotifyResult::fallback`, and the lifecycle methods keep their LSP
meaning (`shutdown` answers `Ok(())`, `exit` breaks with `Ok`, `initialize`
has no default). `DefaultServer` puts these defaults behind the routing of
`Router::from_language_server`; it serves as the inner service of the
concrete sessions in `Server.Inner` and `Server.Rejection`.
-/

namespace AsyncLsp

/-- `str::starts_with`, compared character by character. -/
def startsWith (s pre : String) : Bool := pre.toList.isPrefixOf s.toList

/-- `NotifyResult::fallback` for `ControlFlow`: notifications under `$/` are optional and
ignored, any other unhandled one ends the session with a protocol error. -/
def fallback (method : String) : ControlFlow (Except Error Unit) :=
  if startsWith method "$/" then .continue
  else .break (.error (.protocol ("Unhandled notification: " ++ method)))

/-- The output of `method_not_found::<R, _>()`. -/
def methodNotFound (method : String) : Except ResponseError JsonValue :=
  .error ⟨.METHOD_NOT_FOUND, "No such method: " ++ method, none⟩

/-- The default `LanguageServer::shutdown`: `Ok(())`, serialized. -/
def LanguageServer.shutdown : Except ResponseError JsonValue := .ok .null

/-- The default `LanguageServer::exit`. -/
def LanguageServer.exit : ControlFlow (Except Error Unit) := .break (.ok ())

/-- Modelled from the spec: `Router::from_language_server` over an implementer that defines
only `initialize` (the router and the generated method table are not in the repository's
files). Each request and notification goes to the trait method of its name, which keeps its
default body; the router is always ready and lets events pass (`Continue`). Params are not
deserialized: the router's `INVALID_PARAMS` answer to params that fail to parse is left out,
so a request is answered by its method alone. -/
structure DefaultServer where
  initializeResult : JsonValue

instance : LspService DefaultServer (Ready (Except ResponseError JsonValue)) where
  pollReady s := (s, .ready (.ok ()))
  call s req := (s, ready <|
    if req.method = request.Initialize.METHOD then .ok s.initializeResult
    else if req.method = request.Shutdown.METHOD then LanguageServer.shutdown
    else methodNotFound req.method)
  notify s notif := (s,
    if notif.method = notification.Exit.METHOD then LanguageServer.exit else fallback notif.method)
  emit s _ := (s, .continue)

end AsyncLsp
