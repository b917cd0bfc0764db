/-! # Log contexts

Whatever is logged inside a context carries its id.  Contexts nest: leaving one brings back
the id of the one around it. -/

namespace RenderRelay.Log

/-- The ids of the contexts that are open, the innermost first. -/
structure LogContext where
  ids : List String
deriving DecidableEq, Repr

namespace LogContext

/-- No context is open. -/
def outermost : LogContext := ⟨[]⟩

/-- The id of the innermost context. -/
def current (context : LogContext) : Option String := context.ids.head?

/-- Enters a context. -/
def enter (context : LogContext) (id : String) : LogContext := ⟨id :: context.ids⟩

/-- Leaves the innermost context. -/
def leave (context : LogContext) : LogContext := ⟨context.ids.drop 1⟩

@[simp] theorem current_enter (context : LogContext) (id : String) :
    (context.enter id).current = some id := rfl

@[simp] theorem leave_enter (context : LogContext) (id : String) :
    (context.enter id).leave = context := rfl

end LogContext

end RenderRelay.Log
