import RenderRelay.Bytes.Sha256
import RenderRelay.Job.Basic
import RenderRelay.Json.Printer
import RenderRelay.Text.Search

/-! # Fingerprints

The fingerprint of a value is the start of the SHA-256 hash of its compact text, in which keys
are sorted: values that differ only in the order of their keys have one fingerprint. -/

namespace RenderRelay

/-- The text whose hash identifies a value. -/
def Json.canonicalText (value : Json) : String := value.write .compact

/-- The first 16 hexadecimal digits of the hash of a value. -/
def Json.fingerprint (value : Json) : String :=
  Text.take (Bytes.toHex (Bytes.sha256 (Bytes.encode value.canonicalText))) 16

/-- The fingerprint of a job as it is submitted; empty for the empty job. -/
def Job.fingerprint (job : Job) : String :=
  if job.nodes.isEmpty then "" else job.toJson.fingerprint

end RenderRelay
