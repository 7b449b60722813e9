/-!
Computations that leave a trace: an answer together with what was done on the way, in order.

The trace of two steps in a row is the one trace behind the other, so a step neither reads nor
changes what was done before it.
-/
namespace FleetPlan

structure Traced (ε α : Type) where
  answer : α
  trace : List ε

namespace Traced

variable {ε δ α β : Type}

def pure (a : α) : Traced ε α := ⟨a, []⟩

def bind (x : Traced ε α) (f : α → Traced ε β) : Traced ε β :=
  let y := f x.answer
  ⟨y.answer, x.trace ++ y.trace⟩

def emit (e : ε) : Traced ε Unit := ⟨(), [e]⟩

def mapTrace (g : ε → δ) (x : Traced ε α) : Traced δ α := ⟨x.answer, x.trace.map g⟩

instance : Monad (Traced ε) where
  pure := Traced.pure
  bind := Traced.bind

@[simp] theorem answer_pure (a : α) : (Pure.pure a : Traced ε α).answer = a := rfl

@[simp] theorem trace_pure (a : α) : (Pure.pure a : Traced ε α).trace = [] := rfl

@[simp] theorem answer_bind (x : Traced ε α) (f : α → Traced ε β) :
    (x >>= f).answer = (f x.answer).answer := rfl

@[simp] theorem trace_bind (x : Traced ε α) (f : α → Traced ε β) :
    (x >>= f).trace = x.trace ++ (f x.answer).trace := rfl

end Traced
end FleetPlan
