import Transclusion.Text.Ranges

/-!
Work that may ask to have texts formatted and does nothing else. Whoever runs it
says what formatting does, so the same work can run inside a render, where
formatting leaves a text alone, and outside of one.
-/

namespace Transclusion

inductive Rendering (Result : Type) where
  | done (result : Result)
  | format (text : Text) (next : Text → Rendering Result)

namespace Rendering

variable {Result Next : Type}

def bind : Rendering Result → (Result → Rendering Next) → Rendering Next
  | .done result, next => next result
  | .format text answer, next => .format text fun formatted => (answer formatted).bind next

instance : Monad Rendering where
  pure := .done
  bind := bind

/-- The text formatted. -/
def formatted (text : Text) : Rendering Text := .format text .done

/-- The work done, with every request answered by `format`, in order. -/
def run {Effect : Type → Type} [Monad Effect] (format : Text → Effect Text) :
    Rendering Result → Effect Result
  | .done result => pure result
  | .format text next => do run format (next (← format text))

end Rendering

end Transclusion
