import RenderRelay.Fault

/-! # Failures

An operation fails with a fault of the domain, or because its input does not have the shape
that it takes for granted: a text that spells no number or a number that has no text, a value of
a kind that has no number at all, a value without fields, a field that is missing, a number too
large, a file that cannot be looked at.  These name no fault and have no message. -/

namespace RenderRelay

/-- Why an operation gave no result. -/
inductive Failure where
  | fault (fault : Fault)
  | unreadable
  | wrongKind
  | noFields
  | missingField (name : String)
  | outOfRange
  | fileAccess
deriving DecidableEq, Repr

/-- The failure as the cause of a fault. -/
def Failure.asCause (production : Bool) : Failure → Cause
  | .fault cause => cause.asCause production
  | .unreadable => ⟨"ValueError", ""⟩
  | .wrongKind => ⟨"TypeError", ""⟩
  | .noFields => ⟨"AttributeError", ""⟩
  | .missingField name => ⟨"KeyError", Text.quoted name⟩
  | .outOfRange => ⟨"OverflowError", ""⟩
  | .fileAccess => ⟨"OSError", ""⟩

end RenderRelay
