import RemoteAccount.Proofs.Outcome

/-!
# Runs of packets

A host handles packets one after the other, each in the session that the one before has left, and
acknowledges some of them. What a run does to the state is made of two kinds of steps: a packet is
handled (`Host.handle`), and the event that tells how it has come out is emitted. So whatever these
two keep is kept by every run (`Host.deliverAll_rel`).
-/

namespace RemoteAccount

/-- One packet that reaches a host. -/
inductive Delivery
  /-- The packet is handled. -/
  | plain (packet : Packet)
  /-- The packet is handled and acknowledged. -/
  | acknowledged (packet : Packet)

namespace Host

variable {M : Type} [ChainMessage M] (host : Host M)

/-- The session after one delivery. -/
def deliver : Delivery → Session → Session
  | .plain packet, before => ((host.receive packet).run before).2
  | .acknowledged packet, before => ((host.receiveAck packet).run before).2

/-- The session after a run of deliveries. -/
def deliverAll (deliveries : List Delivery) (before : Session) : Session :=
  deliveries.foldl (fun session delivery => host.deliver delivery session) before

theorem state_deliver_plain (packet : Packet) (before : Session) :
    (host.deliver (.plain packet) before).state = (host.handle packet before.state).2 := rfl

/-- An acknowledgement leaves one event behind. -/
theorem state_deliver_acknowledged (packet : Packet) (before : Session) :
    (host.deliver (.acknowledged packet) before).state =
      (host.handle packet before.state).2.emit
        [receipt packet (host.handle packet before.state).1] := rfl

variable {host} {R : State → State → Prop}

/-- One delivery keeps what handling and emitting keep. -/
theorem deliver_rel (trans : ∀ s t u, R s t → R t u → R s u)
    (handle : ∀ packet s, R s (host.handle packet s).2) (emit : ∀ s es, R s (s.emit es))
    (delivery : Delivery) (before : Session) :
    R before.state (host.deliver delivery before).state := by
  cases delivery with
  | plain packet =>
    rw [state_deliver_plain]
    exact handle packet before.state
  | acknowledged packet =>
    rw [state_deliver_acknowledged]
    exact trans _ _ _ (handle packet before.state) (emit _ _)

/-- **What handling and emitting keep, a run keeps.** -/
theorem deliverAll_rel (refl : ∀ s, R s s) (trans : ∀ s t u, R s t → R t u → R s u)
    (handle : ∀ packet s, R s (host.handle packet s).2) (emit : ∀ s es, R s (s.emit es))
    (deliveries : List Delivery) (before : Session) :
    R before.state (host.deliverAll deliveries before).state := by
  induction deliveries generalizing before with
  | nil => exact refl _
  | cons delivery deliveries ih =>
    have hfirst := deliver_rel trans handle emit delivery before
    exact trans _ _ _ hfirst (ih (host.deliver delivery before))

end Host

end RemoteAccount
