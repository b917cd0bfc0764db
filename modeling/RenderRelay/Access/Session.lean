import RenderRelay.Access.Secret
import RenderRelay.Bytes.Sha256

/-! # Sessions

One password opens the web layer.  Whoever knows it is given the session token, the keyed hash
of a fixed text under the signing secret; a request is let in when it shows that token. -/

namespace RenderRelay

/-- The two secrets of the web layer. -/
structure AccessConfig where
  password : Secret
  signingSecret : Secret
deriving DecidableEq

namespace AccessConfig

/-- The text that is signed. -/
def sessionKey : String := "comfyui-remote-session"

/-- The password that is in use until one is set. -/
def defaultPassword : String := "changeme"

/-- The signing secret that is in use until one is set. -/
def defaultSigningSecret : String := "development-secret"

/-- The token of a session. -/
def sessionToken (config : AccessConfig) : String :=
  Bytes.toHex (Bytes.hmac (Bytes.encode config.signingSecret.value) (Bytes.encode sessionKey))

/-- Is a token given, and is it the session's? -/
def acceptsSession (config : AccessConfig) (token : Option String) : Bool :=
  match token with
  | some token => !token.isEmpty && (⟨config.sessionToken⟩ : Secret).accepts token
  | none => false

/-- Is a password given, and is it the right one? -/
def acceptsPassword (config : AccessConfig) (candidate : Option String) : Bool :=
  match candidate with
  | some candidate => !candidate.isEmpty && config.password.accepts candidate
  | none => false

/-- Has a password been set? -/
def hasOwnPassword (config : AccessConfig) : Bool := config.password.value ≠ defaultPassword

end AccessConfig

end RenderRelay
