import RenderRelay.Bytes.Utf8

/-! # Secrets

A secret is shown as ten stars.  Two secrets are compared by the bytes of their texts. -/

namespace RenderRelay

/-- A text that is not to be shown. -/
structure Secret where
  value : String
deriving DecidableEq

namespace Secret

/-- What any secret is shown as. -/
def mask : String := "**********"

/-- A secret in a message. -/
def shown (_ : Secret) : String := mask

/-- A secret in a message for developers. -/
def quoted (secret : Secret) : String := "SecretValue('" ++ secret.shown ++ "')"

/-- Is the secret set? -/
def isSet (secret : Secret) : Bool := !secret.value.isEmpty

/-- Does a text equal the secret, byte for byte? -/
def accepts (secret : Secret) (text : String) : Bool :=
  Bytes.encode secret.value == Bytes.encode text

end Secret

end RenderRelay
