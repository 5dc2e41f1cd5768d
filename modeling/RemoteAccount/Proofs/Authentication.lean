import RemoteAccount.Authorization

/-!
# Exact authentication

Two searches decide whether a controller may have a batch carried out: one for the first message
that is refused, and within a message one for the first signer who is somebody else. Which message
is cited, and why, is seen by every validator, so it has to be the same everywhere.

The answers are described here without either search. `Accounts.Registers` says which account a
controller has by the entries of the table, `Authorization.Authorized` what a message needs, and
`Authorization.Violates` what is wrong with one that does not have it. A type that is not permitted
is what is wrong with a message even if its signers are wrong too; between messages nothing counts
but their order.

* `Authorization.refusal?_eq_some_iff` — a message is refused for what is wrong with it;
* `Authorization.firstRefusal?_append` — in two parts of a batch, the first refusal is that of the
  first part, or else that of the second, so much further on;
* `authenticates_exactly` — when each of the answers is given, and how the answers for two parts of
  a batch make up that for the whole.
-/

namespace RemoteAccount

variable {M : Type} [ChainMessage M]

/-! ### The account of a controller -/

/-- **The controller has this account**: of the entries for exactly this connection and application,
the one made last has this address. -/
def Accounts.Registers (accounts : Accounts) (connection : ConnectionId) (portId : PortId)
    (address : String) : Prop :=
  ∃ newer older, accounts.entries = newer ++ ((connection, portId), address) :: older ∧
    ∀ entry ∈ newer, entry.1 ≠ (connection, portId)

theorem Accounts.find?_eq_some_iff {accounts : Accounts} {connection : ConnectionId}
    {portId : PortId} {address : String} :
    accounts.find? connection portId = some address ↔
      accounts.Registers connection portId address := by
  rw [find?, List.lookup_eq_some_iff]
  simp only [bne_iff_ne, ne_comm (a := (connection, portId))]
  rfl

theorem Accounts.find?_eq_none_iff {accounts : Accounts} {connection : ConnectionId}
    {portId : PortId} :
    accounts.find? connection portId = none ↔
      ∀ address, ((connection, portId), address) ∉ accounts.entries := by
  rw [find?, List.lookup_eq_none_iff]
  constructor
  · intro h address hentry
    exact bne_iff_ne.1 (h _ hentry) rfl
  · rintro h ⟨pair, address⟩ hentry
    rw [bne_iff_ne]
    rintro rfl
    exact h address hentry

/-! ### What is wrong with a message -/

namespace Authorization

variable {allowed : List String} {account : String} {m : M} {ms ms' : List M} {reason : Refusal}

/-- **An authorized message** has a type that is permitted, and has been signed by nobody but the
account. -/
def Authorized (allowed : List String) (account : String) (m : M) : Prop :=
  (wildcard ∈ allowed ∨ ChainMessage.typeUrl m ∈ allowed) ∧
    ∀ signer ∈ ChainMessage.signers m, signer = account

instance : Decidable (Authorized allowed account m) :=
  inferInstanceAs (Decidable (_ ∧ _))

/-- **What is wrong with a message** that is not authorized. -/
inductive Violates (allowed : List String) (account : String) (m : M) : Refusal → Prop
  /-- Its type is not permitted, whoever has signed it. -/
  | type (h : ¬ (wildcard ∈ allowed ∨ ChainMessage.typeUrl m ∈ allowed)) :
      Violates allowed account m (.disallowedType (ChainMessage.typeUrl m))
  /-- Its type is permitted, and this is the first of its signers who is not the account. -/
  | signer {front back : List String} {got : String}
      (permitted : wildcard ∈ allowed ∨ ChainMessage.typeUrl m ∈ allowed)
      (split : ChainMessage.signers m = front ++ got :: back)
      (first : ∀ signer ∈ front, signer = account) (h : got ≠ account) :
      Violates allowed account m (.signerMismatch account got)

theorem refusal?_eq_none_iff_authorized :
    refusal? allowed account m = none ↔ Authorized allowed account m := by
  rw [refusal?_eq_none_iff, permits_iff, Authorized]

/-- The signer who is cited is the first who is not the account. -/
theorem signerRefusal?_eq_some_iff :
    signerRefusal? account m = some reason ↔
      ∃ front got back, ChainMessage.signers m = front ++ got :: back ∧
        (∀ signer ∈ front, signer = account) ∧ got ≠ account ∧
        reason = .signerMismatch account got := by
  rw [signerRefusal?, Option.map_eq_some_iff]
  constructor
  · rintro ⟨got, hfind, rfl⟩
    obtain ⟨hgot, front, back, hsplit, hfront⟩ := List.find?_eq_some_iff_append.1 hfind
    refine ⟨front, got, back, hsplit, fun signer hsigner => ?_, of_decide_eq_true hgot, rfl⟩
    simpa using hfront signer hsigner
  · rintro ⟨front, got, back, hsplit, hfront, hgot, rfl⟩
    have hskipped : ∀ signer ∈ front, (!decide (signer ≠ account)) = true := by
      intro signer hsigner
      simpa using hfront signer hsigner
    have hfind : (ChainMessage.signers m).find? (· ≠ account) = some got :=
      List.find?_eq_some_iff_append.2 ⟨decide_eq_true hgot, front, back, hsplit, hskipped⟩
    exact ⟨got, hfind, rfl⟩

/-- **A message is refused** for what is wrong with it. -/
theorem refusal?_eq_some_iff :
    refusal? allowed account m = some reason ↔ Violates allowed account m reason := by
  unfold refusal?
  by_cases hpermitted : wildcard ∈ allowed ∨ ChainMessage.typeUrl m ∈ allowed
  · -- the type is no matter, so it is for the signers to say
    rw [if_pos (permits_iff.2 hpermitted), signerRefusal?_eq_some_iff]
    constructor
    · rintro ⟨front, got, back, hsplit, hfront, hgot, rfl⟩
      exact .signer hpermitted hsplit hfront hgot
    · rintro (htype | ⟨-, hsplit, hfront, hgot⟩)
      · exact absurd hpermitted htype
      · exact ⟨_, _, _, hsplit, hfront, hgot, rfl⟩
  · rw [if_neg fun hpermits => hpermitted (permits_iff.1 hpermits), Option.some.injEq]
    constructor
    · rintro rfl
      exact .type hpermitted
    · rintro (htype | ⟨permitted, -, -, -⟩)
      · rfl
      · exact absurd permitted hpermitted

/-! ### The first message that is refused -/

/-- **In two parts of a batch** the first refusal is that of the first part. If there is none, it is
that of the second part, further on by the length of the first. -/
theorem firstRefusal?_append :
    firstRefusal? allowed account (ms ++ ms') =
      (firstRefusal? allowed account ms).or
        ((firstRefusal? allowed account ms').map fun cited => (ms.length + cited.1, cited.2)) := by
  unfold firstRefusal?
  rw [List.zipIdx_append, List.findSome?_append, Nat.zero_add]
  -- the places of the second part are those that it has by itself, moved
  rw [List.zipIdx_eq_map_add (i := ms.length), List.findSome?_map, List.map_findSome?]
  congr 2
  funext entry
  rw [Function.comp_apply, Function.comp_apply, Option.map_map]
  rfl

end Authorization

open Authorization

/-! ### Answers -/

/-- The same error for a batch that has so many messages more in front. -/
def HostError.shift (n : Nat) : HostError → HostError
  | .unauthorized index reason => .unauthorized (n + index) reason
  | cause => cause

section Answers

variable {accounts : Accounts} {config : Config} {connection : ConnectionId} {portId : PortId}
  {account : String} {ms ms' : List M} {cause : HostError}

theorem authenticate_of_unregistered
    (h : ∀ address, ((connection, portId), address) ∉ accounts.entries) (ms : List M) :
    authenticate accounts config connection portId ms
      = .error (.accountNotFound connection.name portId.name) := by
  rw [authenticate, Accounts.find?_eq_none_iff.2 h]

/-- With an account, the answer is for the search for a refusal to give. -/
theorem authenticate_of_registers (h : accounts.Registers connection portId account)
    (ms : List M) :
    authenticate accounts config connection portId ms =
      match firstRefusal? config.allowMessages account ms with
      | some (index, reason) => .error (.unauthorized index reason)
      | none => .ok () := by
  have hfind := Accounts.find?_eq_some_iff.2 h
  rcases hcited : firstRefusal? config.allowMessages account ms with _ | ⟨index, reason⟩ <;>
    simp only [authenticate, hfind, hcited]

/-- A batch is refused for the first of its messages with which something is wrong. -/
theorem authenticate_eq_error_iff (h : accounts.Registers connection portId account) :
    authenticate accounts config connection portId ms = .error cause ↔
      ∃ before m after reason, ms = before ++ m :: after ∧
        (∀ m' ∈ before, Authorized config.allowMessages account m') ∧
        Violates config.allowMessages account m reason ∧
        cause = .unauthorized before.length reason := by
  rw [authenticate_of_registers h]
  constructor
  · intro hanswer
    rcases hcited : firstRefusal? config.allowMessages account ms with _ | ⟨index, reason⟩ <;>
      rw [hcited] at hanswer <;> cases hanswer
    obtain ⟨before, m, after, hsplit, rfl, hbefore, hm⟩ := firstRefusal?_eq_some_iff.1 hcited
    refine ⟨before, m, after, reason, hsplit, fun m' hm' => ?_, refusal?_eq_some_iff.1 hm, rfl⟩
    exact refusal?_eq_none_iff_authorized.1 (hbefore m' hm')
  · rintro ⟨before, m, after, reason, hsplit, hbefore, hm, rfl⟩
    have hcited : firstRefusal? config.allowMessages account ms = some (before.length, reason) :=
      firstRefusal?_eq_some_iff.2 ⟨before, m, after, hsplit, rfl,
        fun m' hm' => refusal?_eq_none_iff_authorized.2 (hbefore m' hm'),
        refusal?_eq_some_iff.2 hm⟩
    rw [hcited]

theorem authenticate_eq_ok_iff_authorized (h : accounts.Registers connection portId account) :
    authenticate accounts config connection portId ms = .ok () ↔
      ∀ m ∈ ms, Authorized config.allowMessages account m := by
  have hnone : (∀ m ∈ ms, Authorized config.allowMessages account m) ↔
      firstRefusal? config.allowMessages account ms = none := by
    simp only [firstRefusal?_eq_none_iff, refusal?_eq_none_iff_authorized]
  rw [authenticate_of_registers h, hnone]
  rcases firstRefusal? config.allowMessages account ms with _ | ⟨index, reason⟩
  · exact ⟨fun _ => rfl, fun _ => rfl⟩
  · exact ⟨nofun, nofun⟩

/-- The error that says that there is no account is given for no other reason. -/
theorem authenticate_eq_accountNotFound_iff {connectionName portName : String} :
    authenticate accounts config connection portId ms
        = .error (.accountNotFound connectionName portName) ↔
      (connectionName = connection.name ∧ portName = portId.name) ∧
        ∀ address, ((connection, portId), address) ∉ accounts.entries := by
  constructor
  · intro hanswer
    cases hfind : accounts.find? connection portId with
    | some account =>
      -- every error is then about some message
      obtain ⟨_, _, _, _, -, -, -, hcause⟩ :=
        (authenticate_eq_error_iff (Accounts.find?_eq_some_iff.1 hfind)).1 hanswer
      cases hcause
    | none =>
      have hnone := Accounts.find?_eq_none_iff.1 hfind
      rw [authenticate_of_unregistered hnone] at hanswer
      cases hanswer
      exact ⟨⟨rfl, rfl⟩, hnone⟩
  · rintro ⟨⟨rfl, rfl⟩, hnone⟩
    exact authenticate_of_unregistered hnone ms

/-- **Two parts of a batch** are refused together if one of them is: for what is wrong with the
first, or else for what is wrong with the second. -/
theorem authenticate_append :
    authenticate accounts config connection portId (ms ++ ms') =
      match authenticate accounts config connection portId ms with
      | .error cause => .error cause
      | .ok () => (authenticate accounts config connection portId ms').mapError
          (HostError.shift ms.length) := by
  cases hfind : accounts.find? connection portId with
  | none =>
    -- the answer is the same for every batch, and it cites no place
    have hnone := Accounts.find?_eq_none_iff.1 hfind
    rw [authenticate_of_unregistered hnone, authenticate_of_unregistered hnone]
  | some account =>
    have hregisters := Accounts.find?_eq_some_iff.1 hfind
    rw [authenticate_of_registers hregisters, authenticate_of_registers hregisters,
      authenticate_of_registers hregisters, firstRefusal?_append]
    rcases firstRefusal? config.allowMessages account ms with _ | ⟨index, reason⟩
    · rcases firstRefusal? config.allowMessages account ms' with _ | ⟨index, reason⟩ <;> rfl
    · rfl

end Answers

/-- **Exact authentication.**

* The answer is that there is no account, with this connection and this application, exactly if the
  table has no entry for them.
* With an account, a batch passes exactly if all of its messages are authorized. Otherwise the
  answer cites the first message that is not, by its place and with what is wrong with it; and
  this is the only other answer there is.
* A batch in two parts fails exactly if one of the parts does, with the error of the first part, or
  if this passes, with that of the second and the place moved by the length of the first. -/
theorem authenticates_exactly (accounts : Accounts) (config : Config) (connection : ConnectionId)
    (portId : PortId) :
    (∀ (ms : List M) (connectionName portName : String),
      authenticate accounts config connection portId ms
          = .error (.accountNotFound connectionName portName) ↔
        (connectionName = connection.name ∧ portName = portId.name) ∧
          ∀ address, ((connection, portId), address) ∉ accounts.entries) ∧
    (∀ account, accounts.Registers connection portId account → ∀ ms : List M,
      (authenticate accounts config connection portId ms = .ok () ↔
        ∀ m ∈ ms, Authorized config.allowMessages account m) ∧
      ∀ cause, authenticate accounts config connection portId ms = .error cause ↔
        ∃ before m after reason, ms = before ++ m :: after ∧
          (∀ m' ∈ before, Authorized config.allowMessages account m') ∧
          Violates config.allowMessages account m reason ∧
          cause = .unauthorized before.length reason) ∧
    ∀ ms ms' : List M,
      authenticate accounts config connection portId (ms ++ ms') =
        match authenticate accounts config connection portId ms with
        | .error cause => .error cause
        | .ok () => (authenticate accounts config connection portId ms').mapError
            (HostError.shift ms.length) := by
  refine ⟨fun ms _ _ => authenticate_eq_accountNotFound_iff, fun account hregisters ms => ?_, ?_⟩
  · exact ⟨authenticate_eq_ok_iff_authorized hregisters,
      fun cause => authenticate_eq_error_iff hregisters⟩
  · exact fun ms ms' => authenticate_append

/-- A vote of nobody passes. The next one is signed by the account and by two others, of whom the
first is cited. That the message after it has a type which is not permitted does not come to light.
The account is the one that was registered last. -/
theorem authenticate_cites_first_signer :
    let accounts := (Accounts.empty.insert ⟨"connection-0"⟩ ⟨"icacontroller"⟩ "ica0").insert
      ⟨"connection-0"⟩ ⟨"icacontroller"⟩ "ica1"
    authenticate accounts (.withAllowMessages ["/gov.v1.MsgVote"]) ⟨"connection-0"⟩
        ⟨"icacontroller"⟩
        [Message.vote ⟨[]⟩, Message.vote ⟨["ica1", "eve", "mallory"]⟩, Message.orphan ⟨"ica1"⟩]
      = .error (.unauthorized 1 (.signerMismatch "ica1" "eve")) := by
  intro accounts
  have hregisters : accounts.Registers ⟨"connection-0"⟩ ⟨"icacontroller"⟩ "ica1" :=
    ⟨[], _, rfl, nofun⟩
  have hexact := (authenticates_exactly accounts (.withAllowMessages ["/gov.v1.MsgVote"])
    ⟨"connection-0"⟩ ⟨"icacontroller"⟩).2.1 "ica1" hregisters
    [Message.vote ⟨[]⟩, Message.vote ⟨["ica1", "eve", "mallory"]⟩, Message.orphan ⟨"ica1"⟩]
  refine (hexact.2 _).2 ⟨[.vote ⟨[]⟩], .vote ⟨["ica1", "eve", "mallory"]⟩, [.orphan ⟨"ica1"⟩],
    .signerMismatch "ica1" "eve", rfl, by decide, ?_, rfl⟩
  have hsplit : ChainMessage.signers (Message.vote ⟨["ica1", "eve", "mallory"]⟩)
      = ["ica1"] ++ "eve" :: ["mallory"] := rfl
  exact .signer (by decide) hsplit (by decide) (by decide)

end RemoteAccount
