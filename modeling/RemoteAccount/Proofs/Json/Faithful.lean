import RemoteAccount.Batch
import RemoteAccount.BatchResult
import RemoteAccount.Config
import RemoteAccount.Event
import RemoteAccount.Proofs.Json.Lawful

/-!
# Everything that is written is read back

What this library writes as JSON comes back as it was: every type with a JSON form of its own is
faithful (`JsonForm.Faithful`), which means that each of its values is read back from what is
printed for it, and so no two of them are printed alike. `JsonForm.faithful_throughout` says this of
all of them at once.

Faithful is what is printed for a lawful form, and lawful forms are put together from lawful parts:

* a number is written with its digits, which begin with a zero only if it is zero
  (`Json.isNumeral_decimal`), and they are read as the number, if it is below the bound
  (`Json.natBelow?_ofNat`);
* a list is lawful if its items are;
* so is a record of one field (`LawfulJsonForm.ofSingle`) or of two (`LawfulJsonForm.ofPair`).
-/

namespace RemoteAccount

namespace Json

/-! ### Numbers -/

/-- The digits of a number. -/
def decimal (n : Nat) : Bytes :=
  (Nat.toDigits 10 n).map Char.toUInt8

/-- The byte of a digit. -/
def decimalDigit (n : Nat) : UInt8 :=
  n.digitChar.toUInt8

theorem decimal_of_lt {n : Nat} (h : n < 10) : decimal n = [decimalDigit n] := by
  rw [decimal, Nat.toDigits_of_lt_base h]
  rfl

/-- The last digit is the remainder by ten, and those before it are the digits of the quotient. -/
theorem decimal_of_le {n : Nat} (h : 10 ≤ n) :
    decimal n = decimal (n / 10) ++ [decimalDigit (n % 10)] := by
  rw [decimal, Nat.toDigits_eq_if (by decide), if_neg (Nat.not_lt.2 h), List.map_append]
  rfl

theorem digitValue?_decimalDigit {n : Nat} (h : n < 10) :
    digitValue? (decimalDigit n) = some n := by
  have hall : ∀ n : Fin 10, digitValue? (decimalDigit n) = some n.val := by decide
  exact hall ⟨n, h⟩

/-- Any digit carries a whole number on. -/
theorem next?_decimalDigit {n : Nat} (h : n < 10) :
    NumberSpot.integer.next? (decimalDigit n) = some .integer := by
  have hall : ∀ n : Fin 10, NumberSpot.integer.next? (decimalDigit n) = some .integer := by decide
  exact hall ⟨n, h⟩

/-- Any digit but the zero begins a whole number of more than one digit. -/
theorem start?_decimalDigit {n : Nat} (hpos : 0 < n) (h : n < 10) :
    NumberSpot.start? (decimalDigit n) = some .integer := by
  have hall : ∀ n : Fin 10, 0 < n.val →
      NumberSpot.start? (decimalDigit n) = some .integer := by decide
  exact hall ⟨n, h⟩ hpos

/-- The digits of a number other than zero do not begin with a zero. -/
theorem exists_decimal_eq_cons {n : Nat} (hpos : 0 < n) :
    ∃ b rest, decimal n = b :: rest ∧ NumberSpot.start? b = some .integer ∧
      rest.foldlM NumberSpot.next? .integer = some .integer := by
  induction n using Nat.strongRecOn with
  | ind n ih =>
    by_cases hn : n < 10
    · exact ⟨_, [], decimal_of_lt hn, start?_decimalDigit hpos hn, rfl⟩
    · -- the first digit is that of the quotient, which is not zero either
      obtain ⟨b, rest, hdecimal, hstart, hrest⟩ := ih (n / 10) (by omega) (by omega)
      refine ⟨b, rest ++ [decimalDigit (n % 10)], ?_, hstart, ?_⟩
      · rw [decimal_of_le (Nat.not_lt.1 hn), hdecimal, List.cons_append]
      · have hlast := next?_decimalDigit (Nat.mod_lt n (by decide))
        rw [List.foldlM_append, hrest, Option.bind_eq_bind, Option.bind_some, List.foldlM_cons,
          hlast]
        rfl

/-- **Digits are a numeral** of JSON. -/
theorem isNumeral_decimal (n : Nat) : IsNumeral (decimal n) := by
  rcases Nat.eq_zero_or_pos n with rfl | hpos
  · -- zero is a numeral by itself, and nothing may stand behind it
    exact ⟨_, [], .zero, .zero, rfl, rfl, rfl, rfl⟩
  · obtain ⟨b, rest, hdecimal, hstart, hrest⟩ := exists_decimal_eq_cons hpos
    exact ⟨b, rest, .integer, .integer, hdecimal, hstart, hrest, rfl⟩

/-- Digits are read as the number, if it is below the bound. -/
theorem foldlM_pushDigit?_decimal {bound n : Nat} (h : n < bound) :
    (decimal n).foldlM (pushDigit? bound) 0 = some n := by
  -- the last digit is pushed behind those of the quotient, which is below the bound as well
  have hpush {m d : Nat} (hd : d < 10) (hlt : m * 10 + d < bound) :
      pushDigit? bound m (decimalDigit d) = some (m * 10 + d) := by
    rw [pushDigit?, digitValue?_decimalDigit hd, Option.bind_eq_bind, Option.bind_some,
      (Option.guard_eq_some' ()).2 hlt]
    rfl
  induction n using Nat.strongRecOn with
  | ind n ih =>
    by_cases hn : n < 10
    · have hlast := hpush (m := 0) hn (by omega)
      rw [Nat.zero_mul, Nat.zero_add] at hlast
      rw [decimal_of_lt hn, List.foldlM_cons, hlast]
      rfl
    · have hsum : n / 10 * 10 + n % 10 = n := by omega
      have hlast := hpush (Nat.mod_lt n (by decide)) (hsum ▸ h)
      rw [hsum] at hlast
      rw [decimal_of_le (Nat.not_lt.1 hn), List.foldlM_append, ih (n / 10) (by omega) (by omega),
        Option.bind_eq_bind, Option.bind_some, List.foldlM_cons, hlast]
      rfl

/-- **Numbers are read back** from their JSON form. -/
theorem natBelow?_ofNat {bound n : Nat} (h : n < bound) : natBelow? bound (ofNat n) = some n :=
  foldlM_pushDigit?_decimal h

theorem wellFormed_ofNat (n : Nat) : (ofNat n).WellFormed := by
  intro t ht
  cases List.mem_singleton.1 ht
  exact isNumeral_decimal n

end Json

open LawfulJsonForm

attribute [simp] wellFormed_toJson ofJson?_toJson

/-! ### Plain forms -/

instance : LawfulJsonForm Bool where
  wellFormed_toJson value := by
    intro t ht
    cases List.mem_singleton.1 ht
    trivial
  ofJson?_toJson value := rfl

instance : LawfulJsonForm UInt8 where
  wellFormed_toJson b := Json.wellFormed_ofNat b.toNat
  ofJson?_toJson b := by
    change (Json.natBelow? 256 (Json.ofNat b.toNat)).map UInt8.ofNat = some b
    rw [Json.natBelow?_ofNat b.toNat_lt, Option.map_some, UInt8.ofNat_toNat]

instance : LawfulJsonForm Amount where
  wellFormed_toJson a := Json.wellFormed_ofNat a.val
  ofJson?_toJson a := by
    change (Json.natBelow? Amount.bound (Json.ofNat a.val)).bind Amount.ofNat? = some a
    rw [Json.natBelow?_ofNat a.val_lt, Option.bind_some]
    exact Amount.ofNat?_eq_some_iff.2 rfl

variable {α β γ : Type} [JsonForm α] [JsonForm β] [JsonForm γ]

instance [LawfulJsonForm α] : LawfulJsonForm (List α) where
  wellFormed_toJson as := Json.wellFormed_array_iff.2 fun item hitem => by
    obtain ⟨a, -, rfl⟩ := List.mem_map.1 hitem
    exact wellFormed_toJson a
  ofJson?_toJson as := by
    change (as.map JsonForm.toJson).mapM JsonForm.ofJson? = some as
    rw [mapM_eq_some_iff, List.map_map]
    exact List.map_congr_left fun a _ => ofJson?_toJson a

/-! ### Records -/

/-- **A record of one field** is lawful if the field is, and if what the field holds makes up the
record. -/
theorem LawfulJsonForm.ofSingle [LawfulJsonForm β] {name : String} {pack : β → α} {get : α → β}
    (htoJson : ∀ a, JsonForm.toJson a = Json.ofFields [(name, JsonForm.toJson (get a))])
    (hofJson : ∀ json, JsonForm.ofJson? json = (do
      let [some value] ← Json.fields? .skipped [name] json | none
      return pack (← JsonForm.ofJson? value)))
    (hpack : ∀ a, pack (get a) = a) : LawfulJsonForm α where
  wellFormed_toJson a := by
    rw [htoJson]
    exact Json.wellFormed_ofFields (by simp)
  ofJson?_toJson a := by
    have hfields := Json.fields?_ofFields .skipped [name] [JsonForm.toJson (get a)]
      (by simp) rfl
    rw [List.zip_cons_cons, List.zip_nil_left] at hfields
    rw [hofJson, htoJson, hfields]
    simp [hpack]

/-- **A record of two fields** is lawful if the fields are, if they have different names, and if
what they hold makes up the record. -/
theorem LawfulJsonForm.ofPair [LawfulJsonForm β] [LawfulJsonForm γ] {first second : String}
    {pack : β → γ → α} {left : α → β} {right : α → γ} (hname : first ≠ second)
    (htoJson : ∀ a, JsonForm.toJson a =
      Json.ofFields [(first, JsonForm.toJson (left a)), (second, JsonForm.toJson (right a))])
    (hofJson : ∀ json, JsonForm.ofJson? json = (do
      let [some b, some c] ← Json.fields? .skipped [first, second] json | none
      return pack (← JsonForm.ofJson? b) (← JsonForm.ofJson? c)))
    (hpack : ∀ a, pack (left a) (right a) = a) : LawfulJsonForm α where
  wellFormed_toJson a := by
    rw [htoJson]
    exact Json.wellFormed_ofFields (by simp)
  ofJson?_toJson a := by
    have hfields := Json.fields?_ofFields .skipped [first, second]
      [JsonForm.toJson (left a), JsonForm.toJson (right a)] (by simpa using hname) rfl
    rw [List.zip_cons_cons, List.zip_cons_cons, List.zip_nil_left] at hfields
    rw [hofJson, htoJson, hfields]
    simp [hpack]

instance : LawfulJsonForm Coin :=
  .ofPair (by decide) (fun _ => rfl) (fun _ => rfl) fun _ => rfl

instance : LawfulJsonForm Config :=
  .ofPair (by decide) (fun _ => rfl) (fun _ => rfl) fun _ => rfl

instance : LawfulJsonForm Attribute :=
  .ofPair (by decide) (fun _ => rfl) (fun _ => rfl) fun _ => rfl

instance : LawfulJsonForm Event :=
  .ofPair (by decide) (fun _ => rfl) (fun _ => rfl) fun _ => rfl

instance : LawfulJsonForm PackedMessage :=
  .ofPair (by decide) (fun _ => rfl) (fun _ => rfl) fun _ => rfl

instance : LawfulJsonForm MessageResult :=
  .ofPair (by decide) (fun _ => rfl) (fun _ => rfl) fun _ => rfl

instance : LawfulJsonForm Batch :=
  .ofSingle (fun _ => rfl) (fun _ => rfl) fun _ => rfl

instance : LawfulJsonForm BatchResult :=
  .ofSingle (fun _ => rfl) (fun _ => rfl) fun _ => rfl

instance : LawfulJsonForm Transfer where
  wellFormed_toJson t := Json.wellFormed_ofFields (by simp)
  ofJson?_toJson t := by
    let names := ["from_address", "to_address", "amount"]
    have hread (json : Json) : (JsonForm.ofJson? json : Option Transfer) = (do
        let [some sender, some recipient, some coins] ← Json.fields? .skipped names json | none
        return ⟨← JsonForm.ofJson? sender, ← JsonForm.ofJson? recipient,
          ← JsonForm.ofJson? coins⟩) := rfl
    have hfields : Json.fields? .skipped names (JsonForm.toJson t) = _ :=
      Json.fields?_ofFields .skipped names
        [JsonForm.toJson t.sender, JsonForm.toJson t.recipient, JsonForm.toJson t.coins]
        (by decide) rfl
    rw [hread, hfields]
    simp

/-! ### Names -/

instance : LawfulJsonForm PortId where
  wellFormed_toJson portId := wellFormed_toJson portId.name
  ofJson?_toJson portId := congrArg (Option.map PortId.mk) (ofJson?_toJson portId.name)

instance : LawfulJsonForm ChannelId where
  wellFormed_toJson channel := wellFormed_toJson channel.name
  ofJson?_toJson channel := congrArg (Option.map ChannelId.mk) (ofJson?_toJson channel.name)

instance : LawfulJsonForm ConnectionId where
  wellFormed_toJson connection := wellFormed_toJson connection.name
  ofJson?_toJson connection :=
    congrArg (Option.map ConnectionId.mk) (ofJson?_toJson connection.name)

/-! ### All types -/

namespace JsonForm

/-- **A faithful form**: a value is read back from what is printed for it, and nothing else is
printed in the same way. -/
structure Faithful (α : Type) [JsonForm α] : Prop where
  read_back (a : α) : parse? (print a) = some a
  print_injective {a b : α} (h : print a = print b) : a = b

theorem faithful_of_lawful [LawfulJsonForm α] : Faithful α where
  read_back := parse?_print
  print_injective := print_inj.1

/-- **Everything that is written is read back**: envelopes and acknowledgements, coins and
transfers, configurations, events, packed messages and batches of them, results and answers of them,
and the names of applications, channels and connections. This goes for all texts, all bytes, all
amounts, and lists of any length. -/
theorem faithful_throughout :
    Faithful Envelope ∧ Faithful Acknowledgement ∧ Faithful Coin ∧ Faithful Transfer ∧
      Faithful Config ∧ Faithful Event ∧ Faithful PackedMessage ∧ Faithful Batch ∧
      Faithful MessageResult ∧ Faithful BatchResult ∧ Faithful PortId ∧ Faithful ChannelId ∧
      Faithful ConnectionId :=
  ⟨faithful_of_lawful, faithful_of_lawful, faithful_of_lawful, faithful_of_lawful,
    faithful_of_lawful, faithful_of_lawful, faithful_of_lawful, faithful_of_lawful,
    faithful_of_lawful, faithful_of_lawful, faithful_of_lawful, faithful_of_lawful,
    faithful_of_lawful⟩

end JsonForm

end RemoteAccount
