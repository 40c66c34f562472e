/-! Values computed with a log. Steps run one after the other, and so do their entries in the
log. -/
namespace SearchQuery

/-- A value with what was logged on the way to it, first entry first. -/
structure Logged (ε α : Type) where
  value : α
  log : List ε

namespace Logged

variable {ε δ α β : Type}

instance : Monad (Logged ε) where
  pure a := ⟨a, []⟩
  bind x f := ⟨(f x.value).value, x.log ++ (f x.value).log⟩

def note (entry : ε) : Logged ε Unit := ⟨(), [entry]⟩

/-- The same value with each entry of the log put another way. -/
def mapLog (f : ε → δ) (x : Logged ε α) : Logged δ α := ⟨x.value, x.log.map f⟩

@[ext] theorem ext {x y : Logged ε α} (value : x.value = y.value) (log : x.log = y.log) :
    x = y := by
  cases x
  cases y
  simp_all

@[simp] theorem value_pure (a : α) : (pure a : Logged ε α).value = a := rfl

@[simp] theorem log_pure (a : α) : (pure a : Logged ε α).log = [] := rfl

@[simp] theorem value_bind (x : Logged ε α) (f : α → Logged ε β) :
    (x >>= f).value = (f x.value).value := rfl

@[simp] theorem log_bind (x : Logged ε α) (f : α → Logged ε β) :
    (x >>= f).log = x.log ++ (f x.value).log := rfl

end Logged

/-- How much an entry of the log matters. -/
inductive Level where
  | trace
  | debug
  | warn
  deriving DecidableEq, Repr

def Level.name : Level → String
  | .trace => "trace"
  | .debug => "debug"
  | .warn => "warn"

end SearchQuery
