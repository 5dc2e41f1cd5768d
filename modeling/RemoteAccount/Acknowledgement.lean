import RemoteAccount.Error.Host
import RemoteAccount.Json.Bytes
import RemoteAccount.Json.Form

/-!
# Acknowledgements

A host answers a packet with an acknowledgement: the result of the batch, or an error. All
validators have to write the same bytes, so an error tells no more than the code of its cause; the
details stay on the chain of the host, in an event.

In JSON an acknowledgement is an object with one member, `result` with the base64 form of the
result or `error` with a text.
-/

namespace RemoteAccount

/-- What a host answers to a packet. -/
inductive Acknowledgement
  | result (data : Bytes)
  | error (text : String)
  deriving DecidableEq

namespace Acknowledgement

/-- The answer that tells of an error. -/
def ofError (cause : HostError) : Acknowledgement :=
  .error ("ABCI code: " ++ toString cause.code
    ++ ": error handling packet: see events for details")

/-- The answer that tells how the handling of a packet has come out. -/
def ofOutcome : Except HostError Bytes → Acknowledgement
  | .ok data => .result data
  | .error cause => ofError cause

def isSuccess : Acknowledgement → Bool
  | .result _ => true
  | .error _ => false

def result? : Acknowledgement → Option Bytes
  | .result data => some data
  | .error _ => none

end Acknowledgement

instance : JsonForm Acknowledgement where
  toJson
    | .result data => Json.ofFields [("result", Json.ofBytes data)]
    | .error text => Json.ofFields [("error", JsonForm.toJson text)]
  ofJson?
    | .object [(key, value)] => do
      match ← Json.textOfRaw? key with
      | "result" => return .result (← value.bytes?)
      | "error" => return .error (← JsonForm.ofJson? value)
      | _ => none
    | _ => none

end RemoteAccount
