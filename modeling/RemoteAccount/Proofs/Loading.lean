import RemoteAccount.Authorization
import RemoteAccount.Proofs.EntryLists

/-!
# Loading a configuration

A configuration is loaded from two variables of the environment. A variable counts only if it holds
a text (`Config.Holds`); otherwise it is as if it were not set. What the two of them mean can be
said without saying how they are read:

* `Config.Switches` — the first one holds the word of a truth value, with any blanks around it, or
  nothing, which means that the host is switched on;
* `Config.Lists` — the second one holds a list of entries in one of the ways to write it, or
  nothing, which means that nothing is listed.

The second one always means something, since every text is a way to write a list of entries, and the
first one does unless it holds another word. So there are two laws of loading, one for each answer:
the configuration that the variables mean (`Config.ofEnvironment_eq_ok_iff`), or the word that is no
truth value (`Config.ofEnvironment_eq_error_iff`). That loaded entries are checked for blank ones
makes no difference: an entry is not blank.

`Config.loads_exactly` puts this together, and ties the types that a loaded list permits to the text
that has been read.
-/

namespace RemoteAccount

namespace Config

open Text

/-! ### What the variables mean -/

/-- **What a variable holds.** Bytes that are not the form of a text hold nothing. -/
def Holds (content : Option Bytes) (text : String) : Prop :=
  content = some (Bytes.ofText text)

/-- The word for a truth value. -/
def wordOfBool : Bool → String
  | true => "true"
  | false => "false"

/-- **Is the host switched on?** -/
inductive Switches (enabled : Option Bytes) : Bool → Prop
  | unset : (∀ word, ¬ Holds enabled word) → Switches enabled true
  | set {word : String} {value : Bool} : Holds enabled word → Trims word (wordOfBool value) →
      Switches enabled value

/-- **Which entries are listed?** -/
inductive Lists (allowed : Option Bytes) : List String → Prop
  | unset : (∀ list, ¬ Holds allowed list) → Lists allowed []
  | set {list : String} {entries : List String} : Holds allowed list →
      (∀ entry ∈ entries, IsEntry entry) → Written entries list → Lists allowed entries

variable {enabled allowed content : Option Bytes} {text word list entry : String} {value : Bool}
  {entries : List String} {config : Config}

theorem text?_eq_some_iff_holds : content.bind Bytes.text? = some text ↔ Holds content text := by
  rw [Option.bind_eq_some_iff, Holds]
  constructor
  · rintro ⟨bytes, rfl, htext⟩
    rw [Bytes.text?_eq_some_iff.1 htext]
  · rintro rfl
    exact ⟨_, rfl, Bytes.text?_ofText text⟩

theorem text?_eq_none_iff_holds :
    content.bind Bytes.text? = none ↔ ∀ text, ¬ Holds content text := by
  rw [Option.eq_none_iff_forall_ne_some]
  exact forall_congr' fun text => not_congr text?_eq_some_iff_holds

/-- A variable holds one text at most. -/
theorem Holds.unique {text' : String} (h : Holds content text) (h' : Holds content text') :
    text = text' :=
  Bytes.ofText_injective (Option.some.inj (h.symm.trans h'))

theorem boolOfWord?_eq_some_iff : boolOfWord? word = some value ↔ word = wordOfBool value := by
  unfold boolOfWord?
  cases value <;> split <;> simp_all [wordOfBool]

theorem boolOfWord?_eq_none_iff : boolOfWord? word = none ↔ word ≠ "true" ∧ word ≠ "false" := by
  unfold boolOfWord?
  split <;> simp_all

/-- A variable switches, or it holds another word. -/
theorem switches_or (enabled : Option Bytes) :
    (∃ value, Switches enabled value) ∨
      ∃ word, Holds enabled word ∧ boolOfWord? (trim word) = none := by
  cases hcontent : enabled.bind Bytes.text? with
  | none => exact .inl ⟨true, .unset (text?_eq_none_iff_holds.1 hcontent)⟩
  | some word =>
    have hword := text?_eq_some_iff_holds.1 hcontent
    cases hvalue : boolOfWord? (trim word) with
    | none => exact .inr ⟨word, hword, hvalue⟩
    | some value =>
      exact .inl ⟨value, .set hword (trim_eq_iff.1 (boolOfWord?_eq_some_iff.1 hvalue))⟩

/-- Reading a list finds the entries that are listed. -/
theorem lists_iff :
    Lists allowed entries ↔
      (allowed.bind Bytes.text?).elim default.allowMessages entriesOfList = entries := by
  cases hcontent : allowed.bind Bytes.text? with
  | none =>
    have hunset := text?_eq_none_iff_holds.1 hcontent
    constructor
    · rintro (- | ⟨hlist, -, -⟩)
      · rfl
      · exact absurd hlist (hunset _)
    · rintro rfl
      exact .unset hunset
  | some list =>
    have hlist := text?_eq_some_iff_holds.1 hcontent
    rw [Option.elim_some, entriesOfList_eq_iff]
    constructor
    · rintro (hunset | ⟨hlist', hentries, hwritten⟩)
      · exact absurd hlist (hunset list)
      · rw [hlist.unique hlist']
        exact ⟨hentries, hwritten⟩
    · rintro ⟨hentries, hwritten⟩
      exact .set hlist hentries hwritten

/-- A list is read from any text that is a way to write it. -/
theorem lists_ofText_iff :
    Lists (some (Bytes.ofText list)) entries ↔
      (∀ entry ∈ entries, IsEntry entry) ∧ Written entries list := by
  have hlist : Holds (some (Bytes.ofText list)) list := rfl
  rw [lists_iff, text?_eq_some_iff_holds.2 hlist, Option.elim_some, entriesOfList_eq_iff]

/-- A variable always lists something, be it nothing. -/
theorem exists_lists (allowed : Option Bytes) : ∃ entries, Lists allowed entries :=
  ⟨_, lists_iff.2 rfl⟩

theorem Lists.isEntry (h : Lists allowed entries) (hmem : entry ∈ entries) : IsEntry entry := by
  cases h with
  | unset => cases hmem
  | set _ hentries _ => exact hentries entry hmem

/-- The entries that are listed are what is left of the pieces of a text, where anything is left. -/
theorem Lists.mem_iff (h : Lists allowed entries) :
    entry ∈ entries ↔ ∃ list piece, Holds allowed list ∧ IsPiece piece list ∧
      Trims piece entry ∧ entry ≠ "" := by
  cases h with
  | unset hunset =>
    constructor
    · intro hmem
      cases hmem
    · rintro ⟨list, -, hlist, -⟩
      exact absurd hlist (hunset list)
  | set hlist hentries hwritten =>
    rw [← entriesOfList_of_written hwritten hentries, mem_entriesOfList_iff]
    constructor
    · rintro ⟨piece, hpiece⟩
      exact ⟨_, piece, hlist, hpiece⟩
    · rintro ⟨list', piece, hlist', hpiece⟩
      rw [hlist'.unique hlist] at hpiece
      exact ⟨piece, hpiece⟩

/-- **What is permitted, by the text.** A type needs a piece with nothing in it, blanks apart, but
the type itself or the wildcard. -/
theorem Lists.permits_iff (h : Lists allowed entries) {typeUrl : String} :
    Authorization.permits entries typeUrl = true ↔
      ∃ list piece entry, Holds allowed list ∧ IsPiece piece list ∧ Trims piece entry ∧
        entry ≠ "" ∧ (entry = typeUrl ∨ entry = wildcard) := by
  rw [Authorization.permits_iff]
  constructor
  · rintro (hwild | htype)
    · obtain ⟨list, piece, hlist, hpiece, htrims, hne⟩ := h.mem_iff.1 hwild
      exact ⟨list, piece, wildcard, hlist, hpiece, htrims, hne, .inr rfl⟩
    · obtain ⟨list, piece, hlist, hpiece, htrims, hne⟩ := h.mem_iff.1 htype
      exact ⟨list, piece, typeUrl, hlist, hpiece, htrims, hne, .inl rfl⟩
  · rintro ⟨list, piece, entry, hlist, hpiece, htrims, hne, hentry⟩
    have hmem : entry ∈ entries := h.mem_iff.2 ⟨list, piece, hlist, hpiece, htrims, hne⟩
    rcases hentry with rfl | rfl
    · exact .inr hmem
    · exact .inl hmem

/-! ### Loading -/

/-- An entry is not blank. -/
theorem IsEntry.isBlankText_eq_false (h : IsEntry entry) : isBlankText entry = false := by
  rw [Bool.eq_false_iff]
  intro hblank
  exact h.ne_empty ((trim_of_bare h.bare).symm.trans (trim_eq_empty_iff.2 hblank))

/-- **Entries pass the check.** -/
theorem check_of_isEntry (h : ∀ entry ∈ config.allowMessages, IsEntry entry) :
    config.check = .ok () := by
  have hnone : config.allowMessages.findIdx? isBlankText = none :=
    List.findIdx?_eq_none_iff.2 fun entry hentry => (h entry hentry).isBlankText_eq_false
  rw [check, hnone]
  rfl

/-- What the variables mean is loaded. -/
theorem ofEnvironment_of_switches (henabled : Switches enabled value)
    (hallowed : Lists allowed entries) : ofEnvironment enabled allowed = .ok ⟨value, entries⟩ := by
  -- the check comes after the entries have been read, and has nothing left to find
  have hcheck : Config.check ⟨value, entries⟩ = .ok () :=
    check_of_isEntry fun entry => hallowed.isEntry
  rw [ofEnvironment, lists_iff.1 hallowed]
  cases henabled with
  | unset hunset =>
    rw [text?_eq_none_iff_holds.2 hunset]
    simp only [pure_bind, default, hcheck]
    rfl
  | set hword htrims =>
    have hvalue := boolOfWord?_eq_some_iff.2 (trim_eq_iff.2 htrims)
    rw [text?_eq_some_iff_holds.2 hword]
    simp only [hvalue, pure_bind, hcheck]
    rfl

/-- Another word is an error. -/
theorem ofEnvironment_of_invalid (hword : Holds enabled word)
    (hinvalid : boolOfWord? (trim word) = none) :
    ofEnvironment enabled allowed = .error (.invalidVariable enabledVariable word) := by
  rw [ofEnvironment, text?_eq_some_iff_holds.2 hword]
  simp only [hinvalid]
  rfl

/-- Loading has the one answer or the other. -/
theorem ofEnvironment_cases (enabled allowed : Option Bytes) :
    (∃ value entries, Switches enabled value ∧ Lists allowed entries ∧
        ofEnvironment enabled allowed = .ok ⟨value, entries⟩) ∨
      ∃ word, Holds enabled word ∧ boolOfWord? (trim word) = none ∧
        ofEnvironment enabled allowed = .error (.invalidVariable enabledVariable word) := by
  rcases switches_or enabled with ⟨value, henabled⟩ | ⟨word, hword, hinvalid⟩
  · obtain ⟨entries, hallowed⟩ := exists_lists allowed
    exact .inl ⟨value, entries, henabled, hallowed, ofEnvironment_of_switches henabled hallowed⟩
  · exact .inr ⟨word, hword, hinvalid, ofEnvironment_of_invalid hword hinvalid⟩

/-- **What is loaded** is what the variables mean. -/
theorem ofEnvironment_eq_ok_iff :
    ofEnvironment enabled allowed = .ok config ↔
      Switches enabled config.hostEnabled ∧ Lists allowed config.allowMessages := by
  constructor
  · intro h
    rcases ofEnvironment_cases enabled allowed with
      ⟨value, entries, henabled, hallowed, hanswer⟩ | ⟨word, -, -, hanswer⟩
    · cases h.symm.trans hanswer
      exact ⟨henabled, hallowed⟩
    · cases h.symm.trans hanswer
  · rintro ⟨henabled, hallowed⟩
    exact ofEnvironment_of_switches henabled hallowed

/-- **What cannot be loaded** is another word than those for truth values. It is answered as it
stands in the variable, with its blanks. -/
theorem ofEnvironment_eq_error_iff {cause : ConfigError} :
    ofEnvironment enabled allowed = .error cause ↔
      ∃ word, Holds enabled word ∧ ¬ Trims word "true" ∧ ¬ Trims word "false" ∧
        cause = .invalidVariable enabledVariable word := by
  simp only [← trim_eq_iff]
  constructor
  · intro h
    rcases ofEnvironment_cases enabled allowed with
      ⟨_, _, -, -, hanswer⟩ | ⟨word, hword, hinvalid, hanswer⟩
    · cases h.symm.trans hanswer
    · cases h.symm.trans hanswer
      obtain ⟨htrue, hfalse⟩ := boolOfWord?_eq_none_iff.1 hinvalid
      exact ⟨word, hword, htrue, hfalse, rfl⟩
  · rintro ⟨word, hword, htrue, hfalse, rfl⟩
    exact ofEnvironment_of_invalid hword (boolOfWord?_eq_none_iff.2 ⟨htrue, hfalse⟩)

/-- **Loading is exact.** Of what two variables hold:

* Loading fails exactly if the first one holds a text that is neither `true` nor `false` without the
  blanks around it, and the error has the whole text. That an entry is blank is never the error.
* Otherwise the host is switched as the first one says, every loaded entry is one, and a type is
  permitted exactly if it, or the wildcard, is what is left of a piece of the second one.
* A list of entries is loaded from a text exactly if the text is a way to write it. -/
theorem loads_exactly (enabled allowed : Option Bytes) :
    ((∀ cause, ofEnvironment enabled allowed = .error cause ↔
        ∃ word, Holds enabled word ∧ ¬ Trims word "true" ∧ ¬ Trims word "false" ∧
          cause = .invalidVariable enabledVariable word) ∧
      ∀ index, ofEnvironment enabled allowed ≠ .error (.blankEntry index)) ∧
    (∀ config, ofEnvironment enabled allowed = .ok config →
      Switches enabled config.hostEnabled ∧
      (∀ entry ∈ config.allowMessages, IsEntry entry) ∧
      ∀ typeUrl, Authorization.permits config.allowMessages typeUrl = true ↔
        ∃ list piece entry, Holds allowed list ∧ IsPiece piece list ∧ Trims piece entry ∧
          entry ≠ "" ∧ (entry = typeUrl ∨ entry = wildcard)) ∧
    ∀ value entries list,
      ofEnvironment enabled (some (Bytes.ofText list)) = .ok ⟨value, entries⟩ ↔
        Switches enabled value ∧ (∀ entry ∈ entries, IsEntry entry) ∧ Written entries list := by
  refine ⟨⟨fun cause => ofEnvironment_eq_error_iff, fun index h => ?_⟩, fun config h => ?_,
    fun value entries list => ?_⟩
  · obtain ⟨word, -, -, -, hcause⟩ := ofEnvironment_eq_error_iff.1 h
    cases hcause
  · obtain ⟨henabled, hallowed⟩ := ofEnvironment_eq_ok_iff.1 h
    exact ⟨henabled, fun entry => hallowed.isEntry, fun typeUrl => hallowed.permits_iff⟩
  · rw [ofEnvironment_eq_ok_iff, lists_ofText_iff]

/-- Blanks of several kinds, a blank piece and a comma at the end are no entries, and a repeated
entry is loaded twice. That the wildcard is between two others does not matter. -/
theorem loads_padded_list :
    let enabled := some (Bytes.ofText "\u2003true\n")
    let list := " /a.MsgX , ,\u3000*\n,/a.MsgX,"
    let loaded : Config := ⟨true, ["/a.MsgX", "*", "/a.MsgX"]⟩
    ofEnvironment enabled (some (Bytes.ofText list)) = .ok loaded ∧
      (∀ entry ∈ loaded.allowMessages, IsEntry entry) ∧
      Authorization.permits loaded.allowMessages "/b.MsgY" = true := by
  intro enabled list loaded
  have hlist : Holds (some (Bytes.ofText list)) list := rfl
  have hswitches : Switches enabled true := .set rfl (trim_eq_iff.1 (by decide))
  have hwritten : (∀ entry ∈ loaded.allowMessages, IsEntry entry) ∧
      Written loaded.allowMessages list := entriesOfList_eq_iff.1 (by decide)
  have hloaded : ofEnvironment enabled (some (Bytes.ofText list)) = .ok loaded :=
    (loads_exactly enabled none).2.2 true loaded.allowMessages list |>.2 ⟨hswitches, hwritten⟩
  obtain ⟨-, hentries, hpermits⟩ :=
    (loads_exactly enabled (some (Bytes.ofText list))).2.1 loaded hloaded
  have hpiece : IsPiece "\u3000*\n" list := ⟨by decide, " /a.MsgX , ,", ",/a.MsgX,", by decide,
    .inr ⟨" /a.MsgX , ", by decide⟩, .inr ⟨"/a.MsgX,", by decide⟩⟩
  have htrims : Trims "\u3000*\n" wildcard := trim_eq_iff.1 (by decide)
  exact ⟨hloaded, hentries, (hpermits "/b.MsgY").2
    ⟨list, "\u3000*\n", wildcard, hlist, hpiece, htrims, by decide, .inr rfl⟩⟩

end Config

end RemoteAccount
