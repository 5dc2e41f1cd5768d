import Mathlib.Data.Fintype.EquivFin
import Mathlib.Data.Set.Finite.List
import RemoteAccount.Proofs.Precedence

/-!
# Wider and narrower allow-lists

One allow-list covers another if every entry of the other is on it, or if it has the wildcard
(`Authorization.Covers`). Two hosts that differ in nothing but their allow-lists
(`Host.allowing`) are compared here, on the same packet and from the same session.

The first refusal of a batch moves when the list gets wider. A message that was refused for its type
may now be refused for its signers, or be passed over so that a later one is cited, but no message
is refused that was not refused before. So the place that is cited never comes nearer to the start
(`Authorization.firstRefusal?_mono`), and a batch that was admitted is admitted still. Since a host
asks its allow-list nothing else, the two hosts do the same from there on:

* `Host.handle_unauthorized_iff` — a packet is answered with `HostError.unauthorized` exactly if it
  brings a batch that the gate refuses in this way;
* `Host.handle_allowing_eq` — if the gates of the two hosts agree on this batch, the hosts handle
  the packet alike;
* `Host.receive_allowing_mono` — what this comes to for packets. Lists that cover each other make no
  difference at all, so neither the order nor the repetitions of the entries count.

The widest lists are those with the wildcard. A list is finite, so only they permit every type, and
the others permit no more than finitely many (`Config.allowsAll_iff_permits_all`).
-/

namespace RemoteAccount

variable {M : Type} [ChainMessage M]

/-! ### Allow-lists -/

namespace Authorization

/-- **A list that covers another** has all of its entries, or has the wildcard. -/
def Covers (wide narrow : List String) : Prop :=
  wildcard ∈ wide ∨ ∀ entry ∈ narrow, entry ∈ wide

variable {wide narrow : List String} {account : String} {ms : List M}

theorem permits_mono (h : Covers wide narrow) {typeUrl : String}
    (hnarrow : permits narrow typeUrl = true) : permits wide typeUrl = true := by
  rw [permits_iff] at hnarrow ⊢
  rcases h with hwild | hsub
  · exact .inl hwild
  · exact hnarrow.imp (hsub wildcard) (hsub typeUrl)

/-- What the narrow list lets pass, the wide list lets pass. -/
theorem refusal?_mono (h : Covers wide narrow) {m : M}
    (hnarrow : refusal? narrow account m = none) : refusal? wide account m = none := by
  rw [refusal?_eq_none_iff] at hnarrow ⊢
  exact ⟨permits_mono h hnarrow.1, hnarrow.2⟩

/-- **The first refusal does not come nearer.** If a message is cited under the wide list, one is
cited under the narrow list, and not behind it. The reason may be another. -/
theorem firstRefusal?_mono (h : Covers wide narrow) {index : Nat} {reason : Refusal}
    (hwide : firstRefusal? wide account ms = some (index, reason)) :
    ∃ index' reason', index' ≤ index ∧
      firstRefusal? narrow account ms = some (index', reason') := by
  obtain ⟨before, m, after, rfl, rfl, -, hm⟩ := firstRefusal?_eq_some_iff.1 hwide
  -- the message that the wide list refuses, the narrow list refuses as well
  have hrefused : refusal? narrow account m ≠ none := by
    intro hnone
    rw [refusal?_mono h hnone] at hm
    cases hm
  cases hnarrow : firstRefusal? narrow account (before ++ m :: after) with
  | none =>
    have hmem : m ∈ before ++ m :: after := List.mem_append_right before List.mem_cons_self
    exact absurd (firstRefusal?_eq_none_iff.1 hnarrow m hmem) hrefused
  | some cited =>
    obtain ⟨index', reason'⟩ := cited
    refine ⟨index', reason', ?_, rfl⟩
    -- so it is not among those that stand before the first refusal of the narrow list
    obtain ⟨before', m', after', hsplit, rfl, hbefore, -⟩ := firstRefusal?_eq_some_iff.1 hnarrow
    by_contra hbehind
    have hlt : before.length < before'.length := Nat.lt_of_not_le hbehind
    have hplace : (before ++ m :: after)[before.length]? = some m := by
      rw [List.getElem?_append_right (Nat.le_refl _), Nat.sub_self, List.getElem?_cons_zero]
    rw [hsplit, List.getElem?_append_left hlt] at hplace
    exact hrefused (hbefore m (List.mem_of_getElem? hplace))

/-- Lists with the same entries cover each other, and so do lists that have the wildcard. -/
theorem covers_of_same
    (h : (∀ entry, entry ∈ wide ↔ entry ∈ narrow) ∨ (wildcard ∈ wide ∧ wildcard ∈ narrow)) :
    Covers wide narrow ∧ Covers narrow wide := by
  rcases h with hsame | ⟨hwide, hnarrow⟩
  · exact ⟨.inr fun entry => (hsame entry).2, .inr fun entry => (hsame entry).1⟩
  · exact ⟨.inl hwide, .inl hnarrow⟩

/-- Lists that cover each other refuse the same messages for the same reasons. -/
theorem firstRefusal?_congr (h : Covers wide narrow) (h' : Covers narrow wide) :
    firstRefusal? wide account ms = firstRefusal? narrow account ms := by
  have hpermits : permits wide = permits narrow := by
    funext typeUrl
    rw [Bool.eq_iff_iff]
    exact ⟨permits_mono h', permits_mono h⟩
  unfold firstRefusal? refusal?
  rw [hpermits]

/-! ### The wildcard -/

section Wildcard

variable {allowed : List String}

/-- Without the wildcard, a type needs an entry of its own. -/
theorem permits_iff_mem (h : wildcard ∉ allowed) {typeUrl : String} :
    permits allowed typeUrl = true ↔ typeUrl ∈ allowed := by
  rw [permits_iff]
  exact or_iff_right h

/-- **Finitely many types** are permitted without the wildcard, and all of them with it. -/
theorem finite_permitted_iff :
    {typeUrl | permits allowed typeUrl = true}.Finite ↔ wildcard ∉ allowed := by
  constructor
  · intro hfinite hwild
    have hall : {typeUrl | permits allowed typeUrl = true} = Set.univ :=
      Set.eq_univ_of_forall fun typeUrl => permits_iff.2 (.inl hwild)
    rw [hall] at hfinite
    exact Set.infinite_univ hfinite
  · intro hwild
    simp only [permits_iff_mem hwild]
    exact allowed.finite_toSet

theorem permits_all_iff : (∀ typeUrl, permits allowed typeUrl = true) ↔ wildcard ∈ allowed := by
  constructor
  · intro hall
    by_contra hwild
    -- outside of finitely many types there is one more
    obtain ⟨typeUrl, hrefused⟩ := (finite_permitted_iff.2 hwild).exists_notMem
    exact hrefused (hall typeUrl)
  · exact fun hwild typeUrl => permits_iff.2 (.inl hwild)

end Wildcard

end Authorization

open Authorization

/-- **Allowing all is permitting every type.** A configuration says that it allows all exactly if
its list permits every type. A list does so exactly if the wildcard is on it, at whatever place, and
if it is not, only finitely many types are permitted. -/
theorem Config.allowsAll_iff_permits_all (config : Config) :
    (config.allowsAll = true ↔ ∀ typeUrl, permits config.allowMessages typeUrl = true) ∧
    (wildcard ∈ config.allowMessages ↔
      ∀ typeUrl, permits config.allowMessages typeUrl = true) ∧
    (wildcard ∉ config.allowMessages ↔
      {typeUrl | permits config.allowMessages typeUrl = true}.Finite) :=
  ⟨allowsAll_iff.trans permits_all_iff.symm, permits_all_iff.symm, finite_permitted_iff.symm⟩

/-! ### Hosts -/

namespace Host

/-- The same host with another allow-list. -/
def allowing (host : Host M) (allowed : List String) : Host M :=
  { host with config := { host.config with allowMessages := allowed } }

section Gate

variable {host : Host M} {sourcePort destinationPort : PortId} {destinationChannel : ChannelId}
  {ms : List M} {wide narrow allowed : List String}

/-- With an account, the gate cites the first message that is refused. -/
theorem gate_allowing_of_account {account : String}
    (h : host.account? sourcePort destinationPort destinationChannel = some account) :
    (host.allowing allowed).gate sourcePort destinationPort destinationChannel ms =
      match firstRefusal? allowed account ms with
      | some (index, reason) => .error (.unauthorized index reason)
      | none => .ok () := by
  obtain ⟨connection, hconnection, hfind⟩ := Option.bind_eq_some_iff.1 h
  rcases hcited : firstRefusal? allowed account ms with _ | ⟨index, reason⟩ <;>
    simp only [gate, authenticate, allowing, hconnection, hfind, hcited]

/-- Without an account the allow-list is not asked, and no message is cited. -/
theorem exists_gate_allowing_of_account?_eq_none (ms : List M)
    (h : host.account? sourcePort destinationPort destinationChannel = none) :
    ∃ cause : HostError, (∀ index reason, cause ≠ .unauthorized index reason) ∧
      ∀ allowed, (host.allowing allowed).gate sourcePort destinationPort destinationChannel ms
        = .error cause := by
  simp only [gate, authenticate, allowing]
  cases hconnection : host.channels.connection? destinationPort destinationChannel with
  | none => exact ⟨_, fun _ _ h => HostError.noConfusion h, fun _ => rfl⟩
  | some connection =>
    rw [account?, hconnection, Option.bind_some] at h
    simp only [h]
    exact ⟨_, fun _ _ h => HostError.noConfusion h, fun _ => rfl⟩

/-- **The gate cites a message** exactly if there is an account for which it is the first that is
refused. -/
theorem gate_allowing_unauthorized_iff {index : Nat} {reason : Refusal} :
    (host.allowing allowed).gate sourcePort destinationPort destinationChannel ms
        = .error (.unauthorized index reason) ↔
      ∃ account, host.account? sourcePort destinationPort destinationChannel = some account ∧
        firstRefusal? allowed account ms = some (index, reason) := by
  constructor
  · intro h
    cases haccount : host.account? sourcePort destinationPort destinationChannel with
    | none =>
      obtain ⟨cause, hcause, hgate⟩ := exists_gate_allowing_of_account?_eq_none ms haccount
      have hsame : cause = .unauthorized index reason :=
        Except.error.inj ((hgate allowed).symm.trans h)
      exact absurd hsame (hcause index reason)
    | some account =>
      rw [gate_allowing_of_account haccount] at h
      split at h
      · next hcited =>
        cases h
        exact ⟨account, rfl, hcited⟩
      · cases h
  · rintro ⟨account, haccount, hcited⟩
    rw [gate_allowing_of_account haccount, hcited]

/-- The gate asks the allow-list for nothing but the first refusal. -/
theorem gate_allowing_congr
    (h : ∀ account, host.account? sourcePort destinationPort destinationChannel = some account →
      firstRefusal? wide account ms = firstRefusal? narrow account ms) :
    (host.allowing wide).gate sourcePort destinationPort destinationChannel ms
      = (host.allowing narrow).gate sourcePort destinationPort destinationChannel ms := by
  cases haccount : host.account? sourcePort destinationPort destinationChannel with
  | none =>
    obtain ⟨cause, -, hgate⟩ := exists_gate_allowing_of_account?_eq_none ms haccount
    rw [hgate wide, hgate narrow]
  | some account =>
    rw [gate_allowing_of_account haccount, gate_allowing_of_account haccount, h account haccount]

/-- Where the gate cites no message under the narrow list, its answer is the same under the wide
list. -/
theorem gate_allowing_eq (hcovers : Covers wide narrow)
    (h : ∀ index reason,
      (host.allowing narrow).gate sourcePort destinationPort destinationChannel ms
        ≠ .error (.unauthorized index reason)) :
    (host.allowing wide).gate sourcePort destinationPort destinationChannel ms
      = (host.allowing narrow).gate sourcePort destinationPort destinationChannel ms := by
  refine gate_allowing_congr fun account haccount => ?_
  have hnarrow : firstRefusal? narrow account ms = none := by
    rw [Option.eq_none_iff_forall_ne_some]
    rintro ⟨index, reason⟩ hcited
    exact h index reason (gate_allowing_unauthorized_iff.2 ⟨account, haccount, hcited⟩)
  rw [hnarrow, firstRefusal?_eq_none_iff]
  intro m hm
  exact refusal?_mono hcovers (firstRefusal?_eq_none_iff.1 hnarrow m hm)

end Gate

/-! ### Packets -/

section Packets

variable {host : Host M} {packet : Packet} {wide narrow allowed : List String}

/-- The batch of a packet is read without the allow-list. -/
theorem batchOf_allowing (host : Host M) (packet : Packet) (allowed : List String) :
    (host.allowing allowed).batchOf packet = host.batchOf packet := rfl

theorem batchOf_ne_unauthorized (index : Nat) (reason : Refusal) :
    host.batchOf packet ≠ .error (.unauthorized index reason) := by
  intro h
  unfold batchOf Registry.decode at h
  repeat' split at h
  all_goals cases h

/-- **Where the error comes from.** A packet is answered with a message that is not authorized
exactly if it brings a batch in which the gate cites this message. -/
theorem handle_unauthorized_iff {s : State} {index : Nat} {reason : Refusal} :
    (host.handle packet s).1 = .error (.unauthorized index reason) ↔
      ∃ ms, host.batchOf packet = .ok ms ∧
        host.gate packet.sourcePort packet.destinationPort packet.destinationChannel ms
          = .error (.unauthorized index reason) := by
  constructor
  · intro h
    cases hbatch : host.batchOf packet with
    | error cause =>
      rw [host.handle_of_batchOf_error s hbatch] at h
      cases h
      exact absurd hbatch (batchOf_ne_unauthorized index reason)
    | ok ms =>
      refine ⟨ms, rfl, ?_⟩
      cases hgate : host.gate packet.sourcePort packet.destinationPort packet.destinationChannel
        ms with
      | error cause =>
        rw [host.handle_of_batchOf s hbatch, execute_of_gate_error hgate] at h
        exact congrArg Except.error (Except.error.inj h)
      | ok _ =>
        -- behind the gate no such answer is given
        have hlate := isRefusal_of_answer hbatch hgate h
        cases hlate
  · rintro ⟨ms, hbatch, hgate⟩
    rw [host.handle_of_batchOf s hbatch, execute_of_gate_error hgate]

/-- Hosts that differ in their allow-lists handle a packet alike if their gates agree on its
batch. -/
theorem handle_allowing_eq
    (h : ∀ ms, host.batchOf packet = .ok ms →
      (host.allowing wide).gate packet.sourcePort packet.destinationPort
          packet.destinationChannel ms
        = (host.allowing narrow).gate packet.sourcePort packet.destinationPort
          packet.destinationChannel ms) :
    (host.allowing wide).handle packet = (host.allowing narrow).handle packet := by
  funext s
  cases hbatch : host.batchOf packet with
  | error cause =>
    rw [(host.allowing wide).handle_of_batchOf_error s hbatch,
      (host.allowing narrow).handle_of_batchOf_error s hbatch]
  | ok ms =>
    rw [(host.allowing wide).handle_of_batchOf s hbatch,
      (host.allowing narrow).handle_of_batchOf s hbatch, execute_eq, execute_eq, h ms hbatch]
    rfl

/-- The outcome of a packet is that of handling it. -/
theorem outcome_receive (before : Session) :
    ((host.receive packet).run before).1 = (host.handle packet before.state).1 := rfl

theorem receive_congr {host host' : Host M} (h : host.handle packet = host'.handle packet) :
    host.receive packet = host'.receive packet := by
  funext before
  exact congrArg (fun handle : Execution Bytes =>
    ((handle before.state).1, (⟨(handle before.state).2,
      before.stats.record (handle before.state).1⟩ : Session))) h

end Packets

/-- **A wider list permits more, and a list counts as a set.** A packet arrives in the same session
at two hosts that differ in nothing but their allow-lists.

* The wide list covers the narrow one. If the host with the narrow list cites no message as not
  authorized, the other has the same outcome and leaves the same session. If the host with the wide
  list cites a message, the other cites one as well, and none that stands behind it.
* The lists have the same entries, in any order and any number of times, or both have the wildcard.
  Then the two have the same outcome and leave the same session. -/
theorem receive_allowing_mono (host : Host M) (packet : Packet) (before : Session)
    (wide narrow : List String) :
    let received := ((host.allowing wide).receive packet).run before
    let received' := ((host.allowing narrow).receive packet).run before
    (Covers wide narrow →
      ((∀ index reason, received'.1 ≠ .error (.unauthorized index reason)) →
        received = received') ∧
      ∀ index reason, received.1 = .error (.unauthorized index reason) →
        ∃ index' reason', index' ≤ index ∧
          received'.1 = .error (.unauthorized index' reason')) ∧
    ((∀ entry, entry ∈ wide ↔ entry ∈ narrow) ∨ (wildcard ∈ wide ∧ wildcard ∈ narrow) →
      received = received') := by
  intro received received'
  refine ⟨fun hcovers => ⟨fun hnarrow => ?_, fun index reason hwide => ?_⟩, fun hsame => ?_⟩
  · -- where nothing is cited under the narrow list, the gates agree
    have hhandle : (host.allowing wide).handle packet = (host.allowing narrow).handle packet := by
      refine handle_allowing_eq fun ms hbatch => gate_allowing_eq hcovers ?_
      intro index reason hgate
      exact hnarrow index reason (handle_unauthorized_iff.2 ⟨ms, hbatch, hgate⟩)
    exact congrFun (receive_congr hhandle) before
  · obtain ⟨ms, hbatch, hgate⟩ := handle_unauthorized_iff.1 hwide
    obtain ⟨account, haccount, hcited⟩ := gate_allowing_unauthorized_iff.1 hgate
    obtain ⟨index', reason', hle, hcited'⟩ := firstRefusal?_mono hcovers hcited
    refine ⟨index', reason', hle, handle_unauthorized_iff.2 ⟨ms, hbatch, ?_⟩⟩
    exact gate_allowing_unauthorized_iff.2 ⟨account, haccount, hcited'⟩
  · obtain ⟨hcovers, hcovers'⟩ := covers_of_same hsame
    have hhandle : (host.allowing wide).handle packet = (host.allowing narrow).handle packet :=
      handle_allowing_eq fun ms _ =>
        gate_allowing_congr fun account _ => firstRefusal?_congr hcovers hcovers'
    exact congrFun (receive_congr hhandle) before

/-- The first message is a transfer from the account and the second one from somebody else. If
transfers are allowed the second is cited, for its signer. If nothing is allowed one is cited that
does not stand behind it, and it is the first, for its type. -/
theorem ofOneAccount_cites_no_later :
    let coins (n : Fin 16) : Amount := ⟨n, Nat.lt_trans n.isLt (by decide)⟩
    let own := Message.send ⟨"ica1", "bob", [⟨"atom", coins 2⟩]⟩
    let theft := Message.send ⟨"alice", "ica1", [⟨"atom", coins 2⟩]⟩
    let packet := packetOfOneAccount [own, theft] ""
    let before : Session := ⟨.ledger .empty, .empty⟩
    let outcome (allowed : List String) :=
      (((ofOneAccount.allowing allowed).receive packet).run before).1
    outcome [Message.Kind.send.typeUrl]
        = .error (.unauthorized 1 (.signerMismatch "ica1" "alice")) ∧
      (∃ index reason, index ≤ 1 ∧ outcome [] = .error (.unauthorized index reason)) ∧
      outcome [] = .error (.unauthorized 0 (.disallowedType Message.Kind.send.typeUrl)) := by
  intro coins own theft packet before outcome
  have hbatch : ofOneAccount.batchOf packet = .ok [own, theft] :=
    batchOf_packetOfOneAccount rfl (by decide +kernel)
  -- the two lists differ at the gate only
  have hcited {allowed : List String} {index : Nat} {reason : Refusal}
      (hgate : (ofOneAccount.allowing allowed).gate packet.sourcePort packet.destinationPort
        packet.destinationChannel [own, theft] = .error (.unauthorized index reason)) :
      outcome allowed = .error (.unauthorized index reason) := by
    refine (outcome_receive before).trans (handle_unauthorized_iff.2 ⟨[own, theft], ?_, hgate⟩)
    exact (batchOf_allowing ofOneAccount packet allowed).trans hbatch
  have hwide : outcome [Message.Kind.send.typeUrl]
      = .error (.unauthorized 1 (.signerMismatch "ica1" "alice")) :=
    hcited (by decide +kernel)
  have hnarrow : outcome []
      = .error (.unauthorized 0 (.disallowedType Message.Kind.send.typeUrl)) :=
    hcited (by decide +kernel)
  have hcovers : Covers [Message.Kind.send.typeUrl] [] := .inr nofun
  have hmono := receive_allowing_mono ofOneAccount packet before [Message.Kind.send.typeUrl] []
  exact ⟨hwide, (hmono.1 hcovers).2 1 _ hwide, hnarrow⟩

end Host

end RemoteAccount
