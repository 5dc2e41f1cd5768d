import RemoteAccount.Channel
import RemoteAccount.Config
import RemoteAccount.Error.Host
import RemoteAccount.Message.Chain

/-!
# Authorization

A controller speaks for the one account that it owns. Before any message of a batch is carried out,
all of them are looked at in order: the type must be on the allow-list, and everyone who must have
signed must be that account. The first message that fails is cited, and of a message its type is
looked at before its signers.

* `permits` is the rule for types and `signerRefusal?` the one for signers.
* `refusal?` puts the two together for one message, and `firstRefusal?` finds the first message of a
  batch that is refused.
* `authenticate` looks up the account and refuses the batch or lets it pass. It does not look at the
  state of the chain.
-/

namespace RemoteAccount

variable {M : Type} [ChainMessage M]

namespace Authorization

/-- Does an allow-list let a type pass? -/
def permits (allowed : List String) (typeUrl : String) : Bool :=
  allowed.any fun entry => entry = wildcard ∨ entry = typeUrl

/-- Why the signers of a message are not as they should be: the first of them who is not the
account. -/
def signerRefusal? (account : String) (m : M) : Option Refusal :=
  ((ChainMessage.signers m).find? (· ≠ account)).map (.signerMismatch account)

/-- Why a message is not authorized, if it is not. -/
def refusal? (allowed : List String) (account : String) (m : M) : Option Refusal :=
  if permits allowed (ChainMessage.typeUrl m) then signerRefusal? account m
  else some (.disallowedType (ChainMessage.typeUrl m))

/-- The first message that is not authorized, by its place, and why. -/
def firstRefusal? (allowed : List String) (account : String) (ms : List M) :
    Option (Nat × Refusal) :=
  ms.zipIdx.findSome? fun (m, index) => (refusal? allowed account m).map (index, ·)

/-- A type is let pass by its own entry, or by the wildcard. -/
theorem permits_iff {allowed : List String} {typeUrl : String} :
    permits allowed typeUrl = true ↔ wildcard ∈ allowed ∨ typeUrl ∈ allowed := by
  rw [permits, List.any_eq_true]
  constructor
  · rintro ⟨entry, hentry, h⟩
    rcases of_decide_eq_true h with rfl | rfl
    · exact .inl hentry
    · exact .inr hentry
  · rintro (h | h)
    · exact ⟨wildcard, h, decide_eq_true (.inl rfl)⟩
    · exact ⟨typeUrl, h, decide_eq_true (.inr rfl)⟩

/-- A message is authorized if its type is permitted and nobody but the account must have signed. -/
theorem refusal?_eq_none_iff {allowed : List String} {account : String} {m : M} :
    refusal? allowed account m = none ↔
      permits allowed (ChainMessage.typeUrl m) = true ∧
        ∀ signer ∈ ChainMessage.signers m, signer = account := by
  unfold refusal? signerRefusal?
  split
  · next hpermits => simp [hpermits]
  · next hpermits => simp [hpermits]

theorem firstRefusal?_eq_none_iff {allowed : List String} {account : String} {ms : List M} :
    firstRefusal? allowed account ms = none ↔ ∀ m ∈ ms, refusal? allowed account m = none := by
  rw [firstRefusal?, List.findSome?_eq_none_iff]
  constructor
  · -- a message of the batch has a place, and is looked at there
    intro h m hm
    obtain ⟨index, hindex, rfl⟩ := List.getElem_of_mem hm
    exact Option.map_eq_none_iff.1 (h (ms[index], index) (List.mk_mem_zipIdx_iff_getElem?.2
      (List.getElem?_eq_getElem hindex)))
  · -- and nothing else is looked at
    rintro h ⟨m, index⟩ hm
    exact Option.map_eq_none_iff.2 (h m (List.fst_mem_of_mem_zipIdx hm))

/-- **The first message that is refused** has none before it that is refused, and is cited with its
place. -/
theorem firstRefusal?_eq_some_iff {allowed : List String} {account : String} {ms : List M}
    {index : Nat} {reason : Refusal} :
    firstRefusal? allowed account ms = some (index, reason) ↔
      ∃ before m after, ms = before ++ m :: after ∧ before.length = index ∧
        (∀ m' ∈ before, refusal? allowed account m' = none) ∧
        refusal? allowed account m = some reason := by
  constructor
  · intro h
    rw [firstRefusal?, List.findSome?_eq_some_iff] at h
    obtain ⟨front, ⟨m, place⟩, back, hsplit, hm, hfront⟩ := h
    -- the places are cut where the messages are cut
    obtain ⟨before, rest, rfl, rfl, hrest⟩ := List.zipIdx_eq_append_iff.1 hsplit
    obtain ⟨_, after, rfl, hhead, -⟩ := List.zipIdx_eq_cons_iff.1 hrest.symm
    cases hhead
    obtain ⟨_, hreason, hcited⟩ := Option.map_eq_some_iff.1 hm
    cases hcited
    have hbefore : firstRefusal? allowed account before = none :=
      List.findSome?_eq_none_iff.2 hfront
    exact ⟨before, m, after, rfl, (Nat.zero_add _).symm, firstRefusal?_eq_none_iff.1 hbefore,
      hreason⟩
  · rintro ⟨before, m, after, rfl, rfl, hbefore, hreason⟩
    have hnone := firstRefusal?_eq_none_iff.2 hbefore
    rw [firstRefusal?] at hnone ⊢
    simp [List.zipIdx_append, List.findSome?_append, hnone, hreason]

end Authorization

/-- May the controller of this name, reached over this connection, have the messages carried
out? -/
def authenticate (accounts : Accounts) (config : Config) (connection : ConnectionId)
    (portId : PortId) (ms : List M) : Except HostError Unit :=
  match accounts.find? connection portId with
  | none => .error (.accountNotFound connection.name portId.name)
  | some account =>
    match Authorization.firstRefusal? config.allowMessages account ms with
    | some (index, reason) => .error (.unauthorized index reason)
    | none => .ok ()

/-- **Authentication succeeds** exactly if there is an account and every message is authorized. -/
theorem authenticate_eq_ok_iff {accounts : Accounts} {config : Config} {connection : ConnectionId}
    {portId : PortId} {ms : List M} :
    authenticate accounts config connection portId ms = .ok () ↔
      ∃ account, accounts.find? connection portId = some account ∧
        ∀ m ∈ ms, Authorization.permits config.allowMessages (ChainMessage.typeUrl m) = true ∧
          ∀ signer ∈ ChainMessage.signers m, signer = account := by
  simp only [← Authorization.refusal?_eq_none_iff, ← Authorization.firstRefusal?_eq_none_iff]
  unfold authenticate
  cases accounts.find? connection portId with
  | none => simp
  | some account =>
    cases hrefusal : Authorization.firstRefusal? config.allowMessages account ms with
    | none => simp [hrefusal]
    | some refusal => simp [hrefusal]

end RemoteAccount
