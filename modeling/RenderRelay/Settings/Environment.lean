import RenderRelay.Entries
import RenderRelay.Text.Lowercase

/-! # The environment

The variables that a process starts with, as a map from names to texts.  One of them says
whether the process runs in production, where errors keep their details to themselves. -/

namespace RenderRelay

/-- Variables by name. -/
abbrev Environment := Entries String

/-- Does the process run in production? -/
def Environment.isProduction (env : Environment) : Bool :=
  Text.lower ((env.get? "COMFY_REMOTE_ENV").getD "development") = "production"

end RenderRelay
