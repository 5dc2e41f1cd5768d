import RemoteAccount.Coin

/-!
# Messages

A message asks the chain to do something in somebody's name. There are four kinds:

* a *transfer* moves coins from one account to another;
* a *put* stores a value under a key;
* an *orphan* is a message that asks for nothing;
* a *vote* speaks for any number of voters.

Each kind has a type URL, by which it is known on the wire, on allow-lists and in dispatch tables.
`Message.Kind.Body` is the type of what a message of a kind says, and `Message.body?` opens a
message as one of a given kind; `body?_eq_some_iff` says that this succeeds exactly on messages of
the kind. `Message.signers` names those in whose name a message speaks.
-/

namespace RemoteAccount

/-- Move coins from one account to another. -/
structure Transfer where
  sender : String
  recipient : String
  coins : List Coin
  deriving DecidableEq

/-- Store a value under a key. -/
structure Put where
  owner : String
  key : String
  value : String
  deriving DecidableEq

/-- Ask for nothing. -/
structure Orphan where
  owner : String
  deriving DecidableEq

/-- Speak for any number of voters. -/
structure Vote where
  voters : List String
  deriving DecidableEq

/-- A request to the chain. -/
inductive Message
  | send (body : Transfer)
  | put (body : Put)
  | orphan (body : Orphan)
  | vote (body : Vote)
  deriving DecidableEq

namespace Message

/-- The kinds of messages. -/
inductive Kind
  | send
  | put
  | orphan
  | vote
  deriving DecidableEq

namespace Kind

/-- The name under which a kind is known on the wire. -/
def typeUrl : Kind → String
  | .send => "/cosmos.bank.v1beta1.MsgSend"
  | .put => "/kv.v1.MsgPut"
  | .orphan => "/kv.v1.MsgOrphan"
  | .vote => "/gov.v1.MsgVote"

theorem typeUrl_injective {k l : Kind} (h : k.typeUrl = l.typeUrl) : k = l := by
  revert h
  cases k <;> cases l <;> decide

/-- What a message of a kind says. -/
def Body : Kind → Type
  | .send => Transfer
  | .put => Put
  | .orphan => Orphan
  | .vote => Vote

end Kind

def kind : Message → Kind
  | .send _ => .send
  | .put _ => .put
  | .orphan _ => .orphan
  | .vote _ => .vote

/-- The name of the kind of a message. -/
def typeUrl (m : Message) : String :=
  m.kind.typeUrl

/-- The message of a kind that says this. -/
def ofBody : (k : Kind) → k.Body → Message
  | .send, body => .send body
  | .put, body => .put body
  | .orphan, body => .orphan body
  | .vote, body => .vote body

/-- What the message says, if it is of this kind. -/
def body? : (k : Kind) → Message → Option k.Body
  | .send, .send body => some body
  | .put, .put body => some body
  | .orphan, .orphan body => some body
  | .vote, .vote body => some body
  | _, _ => none

/-- **Opening a message as one of a kind** finds exactly what a message of that kind says. -/
theorem body?_eq_some_iff {k : Kind} {m : Message} {body : k.Body} :
    m.body? k = some body ↔ m = ofBody k body := by
  constructor
  · intro h
    cases k <;> cases m <;> cases h <;> rfl
  · rintro rfl
    cases k <;> rfl

@[simp] theorem kind_ofBody (k : Kind) (body : k.Body) : (ofBody k body).kind = k := by
  cases k <;> rfl

/-- Those who must have signed the message. -/
def signers : Message → List String
  | .send body => [body.sender]
  | .put body => [body.owner]
  | .orphan body => [body.owner]
  | .vote body => body.voters

end Message

/-! ### Written forms -/

instance : JsonForm Transfer where
  toJson t := Json.ofFields
    [("from_address", JsonForm.toJson t.sender), ("to_address", JsonForm.toJson t.recipient),
      ("amount", JsonForm.toJson t.coins)]
  ofJson? json := do
    let names := ["from_address", "to_address", "amount"]
    let [some sender, some recipient, some coins] ← Json.fields? .skipped names json | none
    return ⟨← JsonForm.ofJson? sender, ← JsonForm.ofJson? recipient, ← JsonForm.ofJson? coins⟩

instance : WireForm Transfer :=
  .map (fun t => (t.sender, t.recipient, t.coins))
    fun (sender, recipient, coins) => ⟨sender, recipient, coins⟩

instance : WireForm Put :=
  .map (fun p => (p.owner, p.key, p.value)) fun (owner, key, value) => ⟨owner, key, value⟩

instance : WireForm Orphan :=
  .map Orphan.owner Orphan.mk

instance : WireForm Vote :=
  .map Vote.voters Vote.mk

instance : LawfulWireForm Transfer :=
  .map (fun _ => rfl) fun _ => rfl

instance : LawfulWireForm Put :=
  .map (fun _ => rfl) fun _ => rfl

instance : LawfulWireForm Orphan :=
  .map (fun _ => rfl) fun _ => rfl

instance : LawfulWireForm Vote :=
  .map (fun _ => rfl) fun _ => rfl

namespace Message

instance Kind.wireForm : (k : Kind) → WireForm k.Body
  | .send => inferInstanceAs (WireForm Transfer)
  | .put => inferInstanceAs (WireForm Put)
  | .orphan => inferInstanceAs (WireForm Orphan)
  | .vote => inferInstanceAs (WireForm Vote)

instance Kind.lawfulWireForm : (k : Kind) → LawfulWireForm k.Body
  | .send => inferInstanceAs (LawfulWireForm Transfer)
  | .put => inferInstanceAs (LawfulWireForm Put)
  | .orphan => inferInstanceAs (LawfulWireForm Orphan)
  | .vote => inferInstanceAs (LawfulWireForm Vote)

/-- The bytes of what a message says, without its type URL. -/
def value : Message → Bytes
  | .send body => WireForm.write body
  | .put body => WireForm.write body
  | .orphan body => WireForm.write body
  | .vote body => WireForm.write body

theorem value_ofBody (k : Kind) (body : k.Body) : (ofBody k body).value = WireForm.write body := by
  cases k <;> rfl

/-- Every message says something, as a message of its kind. -/
theorem exists_ofBody (m : Message) : ∃ body : m.kind.Body, m = ofBody m.kind body := by
  cases m <;> exact ⟨_, rfl⟩

/-- The bytes of what a message says, if they are not too many to be sent. -/
def sendValue? (m : Message) : Option Bytes :=
  Wire.bounded? m.value

/-- The message of a kind whose value takes up the whole of a byte string. -/
def ofValue? (k : Kind) (bs : Bytes) : Option Message :=
  (Wire.receive? bs).map (ofBody k)

/-- A value that is not too long to be addressed is read as that of the message. -/
theorem ofValue?_value {m : Message} (h : m.value.length < Numeral.capacity 8) :
    ofValue? m.kind m.value = some m := by
  obtain ⟨body, hbody⟩ := m.exists_ofBody
  have hvalue : m.value = WireForm.write body :=
    (congrArg value hbody).trans (value_ofBody m.kind body)
  rw [ofValue?, (Wire.receive?_eq_some_iff h).2 hvalue, Option.map_some, ← hbody]

/-- What is read as a message of a kind has the type URL of the kind. -/
theorem typeUrl_of_ofValue? {k : Kind} {bs : Bytes} {m : Message} (h : ofValue? k bs = some m) :
    m.typeUrl = k.typeUrl := by
  obtain ⟨body, -, rfl⟩ := Option.map_eq_some_iff.1 h
  rw [typeUrl, kind_ofBody]

end Message

end RemoteAccount
