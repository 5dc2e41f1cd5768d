import Mathlib.Data.String.Basic
import Std.Data.String.ToNat
import RemoteAccount.Proofs.Json.Lawful

/-!
# What an acknowledgement discloses

An acknowledgement goes to another chain, and all validators have to write the same bytes, so what
it tells of an error is fixed: the kind of the error (`HostError.SameKind`) and nothing of its
details. Of a result it tells everything. `Acknowledgement.discloses_result_or_kind` says both, of
the bytes that are printed: two outcomes are answered with the same bytes exactly if they are the
same result, or errors of the same kind.

The details get lost on the way from the error to its code (`HostError.code_eq_iff`), and nothing is
lost after that: a code is read off the text that holds it (`Acknowledgement.ofError_inj`), and an
acknowledgement is read back from the bytes that are printed for it (`JsonForm.print_inj`).
-/

namespace RemoteAccount

/-- **Errors of one kind**, whatever texts, places and causes they hold. -/
inductive HostError.SameKind : HostError → HostError → Prop
  | decode : SameKind .decode .decode
  | unsupportedType {tag tag' : String} : SameKind (.unsupportedType tag) (.unsupportedType tag')
  | channelNotFound {portId portId' channel channel' : String} :
      SameKind (.channelNotFound portId channel) (.channelNotFound portId' channel')
  | accountNotFound {connection connection' portId portId' : String} :
      SameKind (.accountNotFound connection portId) (.accountNotFound connection' portId')
  | unauthorized {index index' : Nat} {reason reason' : Refusal} :
      SameKind (.unauthorized index reason) (.unauthorized index' reason')
  | noRoute {index index' : Nat} {typeUrl typeUrl' : String} :
      SameKind (.noRoute index typeUrl) (.noRoute index' typeUrl')
  | invalidOperation {index index' : Nat} {cause cause' : OperationError} :
      SameKind (.invalidOperation index cause) (.invalidOperation index' cause')
  | operationFailed {index index' : Nat} {cause cause' : OperationError} :
      SameKind (.operationFailed index cause) (.operationFailed index' cause')
  | encode {detail detail' : String} : SameKind (.encode detail) (.encode detail')
  | hostDisabled : SameKind .hostDisabled .hostDisabled

/-- **The code of an error** stands for its kind. -/
theorem HostError.code_eq_iff {cause cause' : HostError} :
    cause.code = cause'.code ↔ cause.SameKind cause' := by
  constructor
  · intro h
    -- of the pairs of kinds, those with different codes are ruled out
    cases cause <;> cases cause' <;> simp only [code, Nat.reduceEqDiff] at h <;> constructor
  · intro h
    cases h <;> rfl

namespace Acknowledgement

/-- An error is acknowledged with its code alone. -/
theorem ofError_inj {cause cause' : HostError} :
    ofError cause = ofError cause' ↔ cause.code = cause'.code := by
  rw [ofError, ofError, error.injEq, String.append_left_inj, String.append_right_inj,
    Nat.toString_eq_repr, Nat.toString_eq_repr]
  exact ⟨fun h => Nat.repr_injective h, congrArg Nat.repr⟩

theorem ofOutcome_eq_iff {outcome outcome' : Except HostError Bytes} :
    ofOutcome outcome = ofOutcome outcome' ↔
      (∃ data, outcome = .ok data ∧ outcome' = .ok data) ∨
        ∃ cause cause', outcome = .error cause ∧ outcome' = .error cause' ∧
          cause.SameKind cause' := by
  cases outcome with
  | ok data =>
    cases outcome' with
    | ok data' => simp [ofOutcome, eq_comm]
    | error cause' => simp [ofOutcome, ofError]
  | error cause =>
    cases outcome' with
    | ok data => simp [ofOutcome, ofError]
    | error cause' => simp [ofOutcome, ofError_inj, HostError.code_eq_iff]

/-- **An acknowledgement discloses the result, or the kind of the error.** The bytes that are
printed for two outcomes are the same exactly if both are the same result, or both are errors of
the same kind. The acknowledgement is read back from the bytes; it tells of success exactly if the
outcome is a result, and then it holds this result. -/
theorem discloses_result_or_kind (outcome outcome' : Except HostError Bytes) :
    (JsonForm.print (ofOutcome outcome) = JsonForm.print (ofOutcome outcome') ↔
      (∃ data, outcome = .ok data ∧ outcome' = .ok data) ∨
        ∃ cause cause', outcome = .error cause ∧ outcome' = .error cause' ∧
          cause.SameKind cause') ∧
      JsonForm.parse? (JsonForm.print (ofOutcome outcome)) = some (ofOutcome outcome) ∧
      ((ofOutcome outcome).isSuccess = true ↔ ∃ data, outcome = .ok data) ∧
      ∀ data, (ofOutcome outcome).result? = some data ↔ outcome = .ok data := by
  refine ⟨JsonForm.print_inj.trans ofOutcome_eq_iff, JsonForm.parse?_print _, ?_, fun data => ?_⟩
  · cases outcome <;> simp [ofOutcome, ofError, isSuccess]
  · cases outcome <;> simp [ofOutcome, ofError, result?]

end Acknowledgement

end RemoteAccount
