import RemoteAccount.Handler

/-!
# Scripted handlers

A script is a list of instructions that reads and writes the store and puts a response together,
whatever message it is given. Scripts stand in for the handlers of other modules of a chain.
-/

namespace RemoteAccount

/-- One instruction of a script. -/
inductive Instruction
  | set (key value : Bytes)
  | delete (key : Bytes)
  /-- Add to the data what a key holds: a one and its value, or a zero if it has none. -/
  | read (key : Bytes)
  /-- Add bytes to the data. -/
  | data (bytes : Bytes)
  /-- Add to the data the type URL of the message. -/
  | typeUrl
  | event (event : Event)
  | fail (cause : OperationError)
  /-- Fail if the key has a value. -/
  | failIfHas (key : Bytes) (cause : OperationError)

abbrev Script := List Instruction

namespace Script

variable {M : Type} [ChainMessage M]

def addData (r : Response) (data : Bytes) : Response :=
  { r with data := r.data ++ data }

/-- Carry out one instruction, given the response so far. -/
def step (m : M) (r : Response) : Instruction → StoreM Response
  | .set key value => do
    StoreM.write key (some value)
    return r
  | .delete key => do
    StoreM.write key none
    return r
  | .read key => do
    match ← StoreM.get key with
    | some value => return addData r (1 :: value)
    | none => return addData r [0]
  | .data bytes => return addData r bytes
  | .typeUrl => return addData r (Bytes.ofText (ChainMessage.typeUrl m))
  | .event event => return { r with events := r.events ++ [event] }
  | .fail cause => throw cause
  | .failIfHas key cause => do
    if (← StoreM.get key).isSome then throw cause
    return r

/-- The handler that follows a script. -/
def handler (script : Script) : Handler M := fun m =>
  script.foldlM (step m) ⟨[], []⟩

end Script

end RemoteAccount
