import RemoteAccount.Error.Operation
import RemoteAccount.Message.Chain
import RemoteAccount.Program

/-!
# Handlers

A handler carries out a message: a program over the store that gives back a response, or fails. The
writes it has made before it fails are still there when it fails; it is up to the caller to carry it
out on a branch.

Most handlers are made for one kind of message (`Handler.only`, and `Handler.typed` for the kinds of
`Message`), and refuse a message of any other kind without touching the store.
-/

namespace RemoteAccount

/-- What a message that has been carried out gives back: data for its sender, and events for
everyone. -/
structure Response where
  data : Bytes
  events : List Event
  deriving DecidableEq

/-- A program over the store that may fail. -/
abbrev StoreM := ExceptT OperationError Program

namespace StoreM

def get (key : Bytes) : StoreM (Option Bytes) :=
  ExceptT.lift (.get key .pure)

def write (key : Bytes) (value : Option Bytes) : StoreM Unit :=
  ExceptT.lift (.write key value .pure)

variable {α β : Type}

/-- **One thing after another**: the second is done where the first has left off, unless the first
has failed. -/
theorem run_bind (x : StoreM α) (f : α → StoreM β) (s : State) :
    (x >>= f).run.run s = match x.run.run s with
      | (.ok a, s) => (f a).run.run s
      | (.error cause, s) => (.error cause, s) := by
  refine (Program.run_bind x.run (ExceptT.bindCont f) s).trans ?_
  rcases x.run.run s with ⟨_ | a, t⟩ <;> rfl

@[simp] theorem run_throw (cause : OperationError) (s : State) :
    (throw cause : StoreM α).run.run s = (.error cause, s) := rfl

@[simp] theorem run_get (key : Bytes) (s : State) :
    (get key).run.run s = (.ok (s.get key), s) := rfl

end StoreM

/-- A way to carry out the messages of a chain. -/
abbrev Handler (M : Type := Message) := M → StoreM Response

namespace Handler

/-- The handler that treats the messages which can be opened this way and refuses all others. -/
def only {M α : Type} [ChainMessage M] (open? : M → Option α) (handle : α → StoreM Response) :
    Handler M := fun m =>
  match open? m with
  | some body => handle body
  | none => throw (.unexpectedMessage (ChainMessage.typeUrl m))

/-- The handler that treats messages of one kind this way and refuses all others. -/
def typed (k : Message.Kind) (handle : k.Body → StoreM Response) : Handler :=
  only (Message.body? k) handle

end Handler

end RemoteAccount
