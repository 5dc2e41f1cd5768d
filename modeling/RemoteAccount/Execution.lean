import RemoteAccount.BatchResult
import RemoteAccount.Router

/-!
# Carrying out batches

A batch is carried out in order, and as a whole or not at all.

* `Router.dispatch` carries out one message. The events of its response are emitted when it has
  succeeded; what it has written stays in either case.
* `Router.carryOut` carries out messages one after the other, each checked before it is dispatched,
  and stops at the first that fails.
* `Execution.atomically` does something on a branch, which is committed if it succeeds and discarded
  if it fails.

The second and the third make the batch atomic: `carryOut` says what happens, and `atomically`
decides whether it has happened.
-/

namespace RemoteAccount

/-- Something that is done to a state and may be refused. -/
abbrev Execution (α : Type) := ExceptT HostError (StateM State) α

namespace Execution

variable {α β : Type}

/-- Something that has come out already, whatever the state. -/
def ofResult (result : Except HostError α) : Execution α := fun s =>
  (result, s)

/-- Carry out a program over the store. Its failure is handed on as an error of this kind. -/
def ofProgram (onFailure : OperationError → HostError) (p : StoreM α) : Execution α := fun s =>
  match p.run.run s with
  | (.ok a, s) => (.ok a, s)
  | (.error cause, s) => (.error (onFailure cause), s)

def emit (events : List Event) : Execution Unit := fun s =>
  (.ok (), s.emit events)

/-- Do something on a branch: on success the branch is committed, on failure it is discarded. -/
def atomically (x : Execution α) : Execution α := fun s =>
  match x.run s.fork with
  | (.ok a, s) => (.ok a, s.commit)
  | (.error cause, s) => (.error cause, s.discard)

/-- **One thing after another**: the second is done where the first has left off, unless the first
was refused. -/
theorem bind_apply (x : Execution α) (f : α → Execution β) (s : State) :
    (x >>= f) s = match x s with
      | (.ok a, s) => f a s
      | (.error cause, s) => (.error cause, s) := by
  rcases h : x s with ⟨_ | a, t⟩ <;>
    simp only [bind, ExceptT.bind, ExceptT.mk, ExceptT.bindCont, StateT.bind, h]
  rfl

@[simp] theorem ofResult_apply (result : Except HostError α) (s : State) :
    ofResult result s = (result, s) := rfl

end Execution

namespace Router

variable {M : Type} [ChainMessage M]

/-- Carry out one message, given its place in the batch, and give back its data. -/
def dispatch (router : Router M) (index : Nat) (m : M) : Execution Bytes := do
  match router.find? (ChainMessage.typeUrl m) with
  | none => throw (.noRoute index (ChainMessage.typeUrl m))
  | some handler =>
    let response ← Execution.ofProgram (.operationFailed index) (handler m)
    -- a response without events still emits, if only nothing
    Execution.emit response.events
    return response.data

/-- Check one message and carry it out. -/
def carryOutOne (router : Router M) (index : Nat) (m : M) : Execution MessageResult := do
  match ChainMessage.check m with
  -- a message that makes no sense is refused even if it has no route
  | .error cause => throw (.invalidOperation index cause)
  | .ok () => return ⟨ChainMessage.typeUrl m, ← router.dispatch index m⟩

/-- Carry out messages, the first of which has this place in the batch. The results so far stand in
reverse. -/
def carryOutFrom (router : Router M) (index : Nat) (done : List MessageResult) :
    List M → Execution (List MessageResult)
  | [] => return done.reverse
  | m :: ms => do
    let result ← router.carryOutOne index m
    router.carryOutFrom (index + 1) (result :: done) ms

def carryOut (router : Router M) (ms : List M) : Execution (List MessageResult) :=
  router.carryOutFrom 0 [] ms

end Router

end RemoteAccount
