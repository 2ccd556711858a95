import Dicer.Token.Revocation

namespace Dicer.Token

/-!
# Calls on tokens

A call over TCP presents a token, which the daemon looks up by the hash of its secret; a call over
the socket presents none, and may do anything.  The handlers let a token make, rotate or delete only
a token whose scopes it allows itself.
-/

/-- What starts every token. -/
def tokenPrefix : String := "dicer_"

def separator : String := "_"

def format (secret fingerprint : String) : String :=
  if fingerprint = "" then tokenPrefix ++ secret
    else tokenPrefix ++ secret ++ separator ++ fingerprint

def isSpace (c : Char) : Bool :=
  c == ' ' || ('\t' ≤ c && c ≤ '\r') || c.toNat == 0x85 || c.toNat == 0xA0 || c.toNat == 0x1680 ||
    (0x2000 ≤ c.toNat && c.toNat ≤ 0x200A) || c.toNat == 0x2028 || c.toNat == 0x2029 ||
    c.toNat == 0x202F || c.toNat == 0x205F || c.toNat == 0x3000

def trimSpace (text : List Char) : List Char :=
  ((text.dropWhile isSpace).reverse.dropWhile isSpace).reverse

def cutStart (start text : List Char) : Option (List Char) :=
  if start.isPrefixOf text then some (text.drop start.length) else none

def isFingerprint (text : List Char) : Bool :=
  text.length == 64 && text.all isHexDigit && text.all fun c => !('A' ≤ c && c ≤ 'F')

/-- The secret and the fingerprint of a token as it is written. -/
def parse (text : String) : Except Err (String × String) :=
  match cutStart tokenPrefix.toList (trimSpace text.toList) with
  | none => throw (.host ("invalid token: it does not start with " ++ tokenPrefix))
  | some rest => do
    let secret := rest.takeWhile (· ≠ '_')
    let fingerprint := (rest.dropWhile (· ≠ '_')).drop 1
    validateSecret (String.ofList secret)
    if !fingerprint.isEmpty && !isFingerprint fingerprint then
      throw (.host "invalid token: what follows the secret is not a fingerprint")
    return (String.ofList secret, String.ofList fingerprint)

/-- How precisely a token's last use is recorded, in nanoseconds. -/
def lastUseResolution : Nat := 60 * 1000000000

section Serving

variable (sha256 : String → String)

/-- The token a call was made with, from the values of its authorization header. -/
def presentedToken (header : List String) : Call Token := do
  match header with
  | [] => throw (.unauthenticated "no authorization header")
  | value :: _ =>
    match cutStart "Bearer ".toList value.toList with
    | none => throw (.unauthenticated "authorization header is not Bearer")
    | some value =>
      match parse (String.ofList value) with
      | .error error => throw (.unauthenticated error.message)
      | .ok (secret, _) =>
        match ← attempt (tokenBySecret sha256 secret) with
        | .ok token => return token
        | .error error => throw (if error.is .notFound then .unauthenticated "unknown token"
          else error)

/-- Record the use of a token; that it could not be recorded is no reason to refuse the call. -/
def recordPresented (token : Token) (now : Nat) : Call Unit := do
  if now - token.lastUsedAt < lastUseResolution then return
  let _ ← attempt (recordUse token.id (now - now % lastUseResolution))

def authenticate (header : List String) (now : Nat) : Call Token := do
  match ← attempt (presentedToken sha256 header) with
  | .error error => throw (if error.is .unauthenticated then .unauthenticated "unauthenticated"
    else error)
  | .ok token =>
    recordPresented token now
    return token

/-- The scope each method of the API needs; the empty scope lets any token make the call. -/
def methodScopes : List (String × Scope) :=
  [("CreateInstance", "instances:write"), ("UpdateInstance", "instances:write"),
    ("RenameInstance", "instances:write"), ("StartInstance", "instances:write"),
    ("StopInstance", "instances:write"), ("PauseInstance", "instances:write"),
    ("ResumeInstance", "instances:write"), ("StandbyInstance", "instances:write"),
    ("ForkInstance", "instances:write"), ("ResizeInstance", "instances:write"),
    ("DeleteInstance", "instances:write"), ("ListInstances", "instances:read"),
    ("GetInstance", "instances:read"), ("WaitInstance", "instances:read"),
    ("GetInstanceLogs", "instances:read"), ("GetInstanceStats", "instances:read"),
    ("ListInstanceProcesses", "instances:read"), ("ExecInstance", "instances:write"),
    ("CopyToInstance", "instances:write"), ("CopyFromInstance", "instances:write"),
    ("CreateSnapshot", "snapshots:write"), ("ListSnapshots", "snapshots:read"),
    ("GetSnapshot", "snapshots:read"), ("DeleteSnapshot", "snapshots:write"),
    ("RestoreSnapshot", "instances:write"), ("ForkSnapshot", "instances:write"),
    ("CreateNetwork", "networks:write"), ("ListNetworks", "networks:read"),
    ("GetNetwork", "networks:read"), ("DeleteNetwork", "networks:write"),
    ("ListNetworkAllocations", "networks:read"), ("CreateVolume", "volumes:write"),
    ("ListVolumes", "volumes:read"), ("GetVolume", "volumes:read"),
      ("DeleteVolume", "volumes:write"),
    ("PullImage", "images:write"), ("ListImages", "images:read"), ("GetImage", "images:read"),
    ("DeleteImage", "images:write"), ("PruneImages", "images:write"),
      ("ImportKernel", "kernels:write"),
    ("ListKernels", "kernels:read"), ("GetKernel", "kernels:read"),
      ("DeleteKernel", "kernels:write"),
    ("CreateToken", scopeTokensWrite), ("ListTokens", scopeTokensRead),
      ("GetToken", scopeTokensRead),
    ("RotateToken", scopeTokensWrite), ("DeleteToken", scopeTokensWrite), ("GetHostInfo", ""),
    ("CheckHost", ""), ("GetResources", "instances:read"), ("GetEvents", "events:read")]

def authorize (caller : Option Token) (method : String) : Except Err Unit :=
  match caller, methodScopes.lookup method with
  | none, _ => throw (.permissionDenied (method ++ " needs a token"))
  | some _, none => throw (.permissionDenied (method ++ " is not open to tokens"))
  | some token, some scope =>
    if scope != "" && !allows token.scopes scope then
      throw (.permissionDenied ("token " ++ quoted token.name ++ " lacks scope " ++ scope))
    else pure ()

/-- Whether the daemon serves TCP, and the fingerprint its tokens carry. -/
structure HandlerConfig where
  servesTCP : Bool
  fingerprint : String

inductive TokenCall
  | createToken (name secret : String) (scopes : List String)
  | rotateToken (name secret : String)
  | deleteToken (name : String)

def TokenCall.method : TokenCall → String
  | createToken .. => "CreateToken"
  | rotateToken .. => "RotateToken"
  | deleteToken .. => "DeleteToken"

structure IssuedToken where
  token : Token
  value : String

def checkServesTCP (config : HandlerConfig) : Except Err Unit :=
  if config.servesTCP then pure ()
  else throw (.invalidState ("tokens are for the daemon's TCP listener, which is off: " ++
    "set server.listen in the daemon's configuration and restart it"))

/-- Refuse a call whose token does not allow every scope of the token it is about. -/
def checkCallerAllows (caller : Option Token) (name : String) (scopes : List Scope) :
    Except Err Unit :=
  match caller with
  | none => pure ()
  | some caller =>
    if allowsAll caller.scopes scopes then pure ()
    else throw (.permissionDenied ("token " ++ quoted caller.name ++
      " lacks some of the scopes of token " ++ quoted name))

variable (config : HandlerConfig) (draw : Draw) (caller : Option Token)

def handleCreateToken (name secret : String) (scopes : List String) :
    Call IssuedToken := do
  checkServesTCP config
  let scopes := if scopes.isEmpty then [scopeAll] else scopes
  checkCallerAllows caller name scopes
  let (token, secret) ← create sha256 draw name secret scopes
  return ⟨token, format secret config.fingerprint⟩

def handleRotateToken (name secret : String) : Call IssuedToken := do
  checkServesTCP config
  let token ← storeToken name
  checkCallerAllows caller token.name token.scopes
  let (token, secret) ← rotate sha256 draw token.id secret
  return ⟨token, format secret config.fingerprint⟩

def handleDeleteToken (name : String) : Call Unit := do
  let token ← storeToken name
  checkCallerAllows caller token.name token.scopes
  delete token.id

def handle : TokenCall → Call (Option IssuedToken)
  | .createToken name secret scopes => some <$> handleCreateToken sha256 config draw caller name
    secret scopes
  | .rotateToken name secret => some <$> handleRotateToken sha256 config draw caller name secret
  | .deleteToken name => do
    handleDeleteToken caller name
    return none

/-- A call that was answered: who made it, as the daemon knew it, and what it was answered. -/
structure Exchange where
  caller : Option Token
  call : TokenCall
  response : Except Err (Option IssuedToken)

/-- Serve one call, over the socket or with an authorization header over TCP. -/
def serve (header : Option (List String)) (call : TokenCall) : Op Exchange :=
  match header with
  | none => do
    let response ← (handle sha256 config draw none call).run
    return ⟨none, call, response⟩
  | some header => do
    match ← (authenticate sha256 header draw.now).run with
    | .error error => return ⟨none, call, .error error⟩
    | .ok caller =>
      match authorize (some caller) call.method with
      | .error error => return ⟨some caller, call, .error error⟩
      | .ok _ =>
        let response ← (handle sha256 config draw (some caller) call).run
        return ⟨some caller, call, response⟩

/-- Calls served one after another, the last one first. -/
inductive Serves (start : World) : World → List Exchange → Prop
  | start : Serves start start []
  | serve {world after : World} {history : List Exchange} (draw : Draw)
      (header : Option (List String)) (call : TokenCall) (exchange : Exchange) :
      Serves start world history → (exchange, after) ∈
          (serve sha256 config draw header call).outcomes 0 world →
          Serves start after (exchange :: history)

end Serving
end Dicer.Token
