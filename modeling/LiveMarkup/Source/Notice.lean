/-
# LiveMarkup.Source.Notice -- what an operation reports besides its answer

Operations report to a log.  The log of an operation is part of its answer: a `Logged`
value carries the notices in the order in which they were given.
-/

namespace LiveMarkup

set_option autoImplicit false

inductive NoticeLevel where
  | warning
  | error
  deriving DecidableEq, Repr

/-- A line of the log. -/
structure Notice where
  level : NoticeLevel
  text : String
  deriving DecidableEq, Repr

namespace Notice

def warning (text : String) : Notice := ⟨.warning, text⟩

def error (text : String) : Notice := ⟨.error, text⟩

end Notice

/-- A value with the notices given on the way to it. -/
structure Logged (α : Type) where
  value : α
  notices : List Notice
  deriving Repr

namespace Logged

instance : Monad Logged where
  pure a := ⟨a, []⟩
  bind m f := ⟨(f m.value).value, m.notices ++ (f m.value).notices⟩

/-- Give notices. -/
def report (notices : List Notice) : Logged Unit := ⟨(), notices⟩

@[simp] theorem pure_value {α : Type} (a : α) : (pure a : Logged α).value = a := rfl

@[simp] theorem pure_notices {α : Type} (a : α) : (pure a : Logged α).notices = [] := rfl

@[simp] theorem bind_value {α β : Type} (m : Logged α) (f : α → Logged β) :
    (m >>= f).value = (f m.value).value := rfl

@[simp] theorem bind_notices {α β : Type} (m : Logged α) (f : α → Logged β) :
    (m >>= f).notices = m.notices ++ (f m.value).notices := rfl

end Logged

end LiveMarkup
