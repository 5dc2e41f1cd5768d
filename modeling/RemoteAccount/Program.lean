import RemoteAccount.State.Basic

/-!
# Programs over the store

What a handler may do to a state is read a key and write a key. A `Program` is such a course of
action as a value: it returns, or it reads a key and goes on with what it has read, or it writes a
key and goes on. It cannot emit events, open or close branches, or look at anything but keys, so
whatever is shown for all programs holds for every handler there can be.

`Program.run` carries a program out on a state. `run_bind` says that a program made of two runs them
one after the other.
-/

namespace RemoteAccount

/-- A course of action over the store. -/
inductive Program (α : Type)
  | pure (result : α)
  /-- Read a key, and go on with its value. -/
  | get (key : Bytes) (next : Option Bytes → Program α)
  /-- Give a key a value, or with `none` take it away, and go on. -/
  | write (key : Bytes) (value : Option Bytes) (next : Unit → Program α)

namespace Program

variable {α β γ : Type}

/-- Carry on where a program returns. -/
def bind : Program α → (α → Program β) → Program β
  | .pure result, f => f result
  | .get key next, f => .get key fun value => (next value).bind f
  | .write key value next, f => .write key value fun _ => (next ()).bind f

instance : Monad Program where
  pure := .pure
  bind := Program.bind

theorem bind_pure (p : Program α) : p.bind .pure = p := by
  induction p with
  | pure result => rfl
  | get key next ih => exact congrArg (Program.get key) (funext ih)
  | write key value next ih => exact congrArg (Program.write key value) (funext ih)

theorem bind_assoc (p : Program α) (f : α → Program β) (g : β → Program γ) :
    (p.bind f).bind g = p.bind fun a => (f a).bind g := by
  induction p with
  | pure result => rfl
  | get key next ih => exact congrArg (Program.get key) (funext ih)
  | write key value next ih => exact congrArg (Program.write key value) (funext ih)

instance : LawfulMonad Program :=
  LawfulMonad.mk' Program bind_pure (fun _ _ => rfl) bind_assoc

def run : Program α → State → α × State
  | .pure result, s => (result, s)
  | .get key next, s => (next (s.get key)).run s
  | .write key value next, s => (next ()).run (s.apply (.write key value))

/-- A program made of two runs them one after the other. -/
theorem run_bind (p : Program α) (f : α → Program β) (s : State) :
    (p.bind f).run s = (f (p.run s).1).run (p.run s).2 := by
  induction p generalizing s with
  | pure result => rfl
  | get key next ih => exact ih _ _
  | write key value next ih => exact ih _ _

end Program

end RemoteAccount
