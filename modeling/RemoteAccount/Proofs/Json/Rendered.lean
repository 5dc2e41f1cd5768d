import RemoteAccount.Proofs.Json.Printed

/-!
# Rendered JSON, and what stands behind it

A value may be rendered with blanks around all of its tokens (`Json.Renders`), and it is read back
all the same. Behind a value there may be blanks and nothing else: whatever byte comes next begins a
token, and no token has a place behind a value that is finished. A number is the one value that the
bytes behind it may carry on, and then it is read as another number.

* `Scan.Extends` — a scan does not forget the tokens it has finished, nor that it has begun one;
* `Scan.begun_lt_of_trailing` — so a byte that is no blank leads to one more token;
* `Json.parse?_append_of_renders` — and what is read, if anything is, is a number.
-/

namespace RemoteAccount.Json

/-- **The bytes render the value**: its strings and numbers are written as they have to be, and
there may be blanks around its tokens. -/
structure Renders (json : Json) (bs : Bytes) : Prop where
  wellFormed : json.WellFormed
  spaced : Spaced json.tokens bs

/-- **A rendered value is read back.** -/
theorem parse?_of_renders {json : Json} {bs : Bytes} (h : json.Renders bs) :
    parse? bs = some json :=
  parse?_of_spaced (ofTokens?_tokens json) h.wellFormed h.spaced

/-! ### Scanning on -/

namespace Scan

/-- How many tokens have been begun. -/
def begun (s : Scan) : Nat :=
  if s.spot = .between then s.tokens.length else s.tokens.length + 1

/-- One scan is that of the text of another which goes on. -/
structure Extends (s s' : Scan) : Prop where
  tokens : s.tokens <:+ s'.tokens
  begun : s.begun ≤ s'.begun

theorem Extends.refl (s : Scan) : Extends s s :=
  ⟨List.suffix_refl _, Nat.le_refl _⟩

theorem Extends.trans {s t u : Scan} (h : Extends s t) (h' : Extends t u) : Extends s u :=
  ⟨h.tokens.trans h'.tokens, Nat.le_trans h.begun h'.begun⟩

/-- Between two tokens, a byte that is no blank begins one. -/
theorem begin?_spec {tokens : List Token} {b : UInt8} {s : Scan}
    (h : begin? tokens b = some s) :
    tokens <:+ s.tokens ∧
      s.begun = if isSpace b = true then tokens.length else tokens.length + 1 := by
  unfold begin? at h
  split at h
  · next hspace =>
    cases h
    simp [begun, hspace]
  · next hspace =>
    rw [if_neg hspace]
    split at h
    · cases h
      simp [begun]
    · split at h
      · cases h
        simp [begun]
      · split at h
        · cases h
          simp [begun]
        · obtain ⟨spot, -, rfl⟩ := Option.map_eq_some_iff.1 h
          simp [begun]

/-- **What one byte can do.** Between two tokens it may begin one, and so it may behind a number
that it ends. Inside any other token it ends the token or leads further into it. -/
theorem step?_cases {s s' : Scan} {b : UInt8} (h : s.step? b = some s') :
    (s.spot = .between ∧ begin? s.tokens b = some s') ∨
      (∃ spot done, s.spot = .number spot done ∧
        begin? (.number done.reverse :: s.tokens) b = some s') ∨
      (s.spot ≠ .between ∧ ∃ t, s' = ⟨t :: s.tokens, .between⟩) ∨
      (s.spot ≠ .between ∧ s'.tokens = s.tokens ∧ s'.spot ≠ .between) := by
  obtain ⟨tokens, spot⟩ := s
  cases spot with
  | between => exact .inl ⟨rfl, h⟩
  | number spot done =>
    simp only [step?] at h
    split at h
    · cases h
      exact .inr (.inr (.inr ⟨by simp, rfl, by simp⟩))
    · split at h
      · exact .inr (.inl ⟨spot, done, rfl, h⟩)
      · cases h
  | word rest token =>
    refine .inr (.inr ?_)
    cases rest with
    | nil => cases h
    | cons c rest =>
      cases rest with
      | nil =>
        simp only [step?] at h
        split at h
        · cases h
          exact .inl ⟨by simp, _, rfl⟩
        · cases h
      | cons d rest =>
        simp only [step?] at h
        split at h
        · cases h
          exact .inr ⟨by simp, rfl, by simp⟩
        · cases h
  | text done =>
    refine .inr (.inr ?_)
    simp only [step?] at h
    split at h
    · cases h
      exact .inl ⟨by simp, _, rfl⟩
    · repeat' split at h
      all_goals cases h
      all_goals exact .inr ⟨by simp, rfl, by simp⟩
  | escape done =>
    simp only [step?] at h
    repeat' split at h
    all_goals cases h
    all_goals exact .inr (.inr (.inr ⟨by simp, rfl, by simp⟩))
  | unicode left done =>
    simp only [step?] at h
    repeat' split at h
    all_goals cases h
    all_goals exact .inr (.inr (.inr ⟨by simp, rfl, by simp⟩))

/-- **One byte** extends the scan. -/
theorem extends_step? {s s' : Scan} {b : UInt8} (h : s.step? b = some s') : Extends s s' := by
  rcases step?_cases h with ⟨hspot, hbegin⟩ | ⟨spot, done, hspot, hbegin⟩ | ⟨hspot, t, rfl⟩ |
    ⟨hspot, htokens, hspot'⟩
  · -- one token is begun, or none
    obtain ⟨htokens, hbegun⟩ := begin?_spec hbegin
    refine ⟨htokens, ?_⟩
    rw [hbegun, begun, if_pos hspot]
    split <;> omega
  · -- the number is one of the tokens that had been begun
    obtain ⟨htokens, hbegun⟩ := begin?_spec hbegin
    refine ⟨(List.suffix_cons _ _).trans htokens, ?_⟩
    rw [hbegun, begun, hspot, if_neg (by simp), List.length_cons]
    split <;> omega
  · have hbegun : s.begun = begun ⟨t :: s.tokens, .between⟩ := by
      rw [begun, begun, if_neg hspot, if_pos rfl, List.length_cons]
    exact ⟨List.suffix_cons _ _, Nat.le_of_eq hbegun⟩
  · have hbegun : s.begun = s'.begun := by
      rw [begun, begun, if_neg hspot, if_neg hspot', htokens]
    exact ⟨htokens ▸ List.suffix_refl _, Nat.le_of_eq hbegun⟩

/-- What each byte keeps up, a whole text keeps up. -/
theorem foldlM_induction {P : Scan → Prop}
    (hstep : ∀ {s s' : Scan} {b : UInt8}, P s → s.step? b = some s' → P s')
    {bs : Bytes} {s s' : Scan} (hs : P s) (h : bs.foldlM step? s = some s') : P s' := by
  induction bs generalizing s with
  | nil =>
    cases h
    exact hs
  | cons b bs ih =>
    rw [List.foldlM_cons] at h
    obtain ⟨next, hnext, hrest⟩ := Option.bind_eq_some_iff.1 h
    exact ih (hstep hs hnext) hrest

theorem extends_foldlM {bs : Bytes} {s s' : Scan} (h : bs.foldlM step? s = some s') :
    Extends s s' :=
  foldlM_induction (fun hs hnext => hs.trans (extends_step? hnext)) (.refl s) h

/-- When the text ends, the tokens are those that have been begun. -/
theorem finish?_spec {s : Scan} {ts : List Token} (h : s.finish? = some ts) :
    s.tokens <:+ ts.reverse ∧ ts.length = s.begun := by
  unfold finish? at h
  split at h
  · next hspot =>
    cases h
    simp [begun, hspot]
  · next hspot =>
    split at h
    · cases h
      simp [begun, hspot]
    · cases h
  all_goals cases h

/-- **Bytes behind a token**, one of which is no blank, lead to one more token. -/
theorem begun_lt_of_trailing {tokens : List Token} {rest : Bytes} {s : Scan}
    (hrest : ∃ b ∈ rest, isSpace b = false)
    (h : rest.foldlM step? ⟨tokens, .between⟩ = some s) : tokens.length < s.begun := by
  obtain ⟨other, hother, hsolid⟩ := hrest
  induction rest with
  | nil => cases hother
  | cons b rest ih =>
    rw [List.foldlM_cons] at h
    obtain ⟨next, hnext, hrest⟩ := Option.bind_eq_some_iff.1 h
    cases hspace : isSpace b with
    | true =>
      -- a blank leaves the scan where it is
      have hsame : next = ⟨tokens, .between⟩ := by
        have hbegin : begin? tokens b = some next := hnext
        rw [begin?, if_pos hspace] at hbegin
        exact (Option.some.inj hbegin).symm
      rw [hsame] at hrest
      rcases List.mem_cons.1 hother with rfl | hother
      · rw [hspace] at hsolid
        cases hsolid
      · exact ih hrest hother
    | false =>
      have hbegin : begin? tokens b = some next := hnext
      have hbegun := (begin?_spec hbegin).2
      rw [hspace, if_neg Bool.false_ne_true] at hbegun
      have hle := (extends_foldlM hrest).begun
      omega

/-- The tokens are then those that there were, and more. -/
theorem exists_tokens_of_trailing {ts all : List Token} {rest : Bytes} {s : Scan}
    (hrest : ∃ b ∈ rest, isSpace b = false)
    (h : rest.foldlM step? ⟨ts.reverse, .between⟩ = some s) (hall : s.finish? = some all) :
    ∃ t more, all = ts ++ t :: more := by
  obtain ⟨htokens, hlength⟩ := finish?_spec hall
  have hlt := begun_lt_of_trailing hrest h
  obtain ⟨more, rfl⟩ := List.reverse_suffix.1 ((extends_foldlM h).tokens.trans htokens)
  rw [List.length_reverse, ← hlength, List.length_append] at hlt
  cases more with
  | nil => exact absurd hlt (Nat.lt_irrefl _)
  | cons t more => exact ⟨t, more, rfl⟩

/-! ### Numbers that go on -/

/-- The first token is a number, whether or not it is finished. -/
def NumberFirst (s : Scan) : Prop :=
  (∃ spot done, s = ⟨[], .number spot done⟩) ∨ ∃ literal, [.number literal] <:+ s.tokens

theorem numberFirst_step? {s s' : Scan} {b : UInt8} (hs : NumberFirst s)
    (h : s.step? b = some s') : NumberFirst s' := by
  rcases hs with ⟨spot, done, rfl⟩ | ⟨literal, hfirst⟩
  · simp only [step?] at h
    split at h
    · cases h
      exact .inl ⟨_, _, rfl⟩
    · split at h
      · exact .inr ⟨_, (begin?_spec h).1⟩
      · cases h
  · exact .inr ⟨literal, hfirst.trans (extends_step? h).tokens⟩

theorem exists_number_of_numberFirst {s : Scan} {ts : List Token} (hs : NumberFirst s)
    (h : s.finish? = some ts) : ∃ literal more, ts = .number literal :: more := by
  rcases hs with ⟨spot, done, rfl⟩ | ⟨literal, hfirst⟩
  · simp only [finish?] at h
    split at h
    · cases h
      exact ⟨_, [], rfl⟩
    · cases h
  · have hsuffix : [Token.number literal].reverse <:+ ts.reverse :=
      hfirst.trans (finish?_spec h).1
    obtain ⟨more, rfl⟩ := List.reverse_suffix.1 hsuffix
    exact ⟨literal, more, rfl⟩

end Scan

/-! ### What stands behind a value -/

/-- Behind the tokens of a value there is no place for another token. -/
theorem ofTokens?_append_cons {ts : List Token} {json : Json} (h : ofTokens? ts = some json)
    (t : Token) (more : List Token) : ofTokens? (ts ++ t :: more) = none := by
  obtain ⟨b, hb, hfinish⟩ := Option.bind_eq_some_iff.1 h
  cases b with
  | finished value =>
    rw [ofTokens?, List.foldlM_append, hb]
    cases t <;> rfl
  | _ => cases hfinish

/-- Only a number is still open when the scan has come to the end of a value. -/
theorem cases_of_holds_tokens {json : Json} {s : Scan} (h : Scan.Holds json.tokens.reverse s) :
    s = ⟨json.tokens.reverse, .between⟩ ∨ s.NumberFirst := by
  match json with
  | .number literal =>
    cases h with
    | between => exact .inl rfl
    | number hend => exact .inr (.inl ⟨_, _, rfl⟩)
  | .null | .bool _ | .text _ | .array [] | .object [] =>
    exact .inl (Scan.eq_between_of_holds h (by simp [tokens, pushTokens, Token.isNumber]))
  | .array (item :: items) =>
    exact .inl (Scan.eq_between_of_holds h (by simp [tokens_array_cons, Token.isNumber]))
  | .object ((key, value) :: members) =>
    exact .inl (Scan.eq_between_of_holds h (by simp [tokens_object_cons, Token.isNumber]))

/-- **Behind a value** there may be nothing but blanks, unless the value is a number and goes on as
another. -/
theorem parse?_append_of_renders {json : Json} {bs rest : Bytes} (h : json.Renders bs)
    (hrest : ∃ b ∈ rest, isSpace b = false) {other : Json}
    (hparse : parse? (bs ++ rest) = some other) : ∃ literal, other = .number literal := by
  obtain ⟨s, hs, hholds⟩ := exists_holds_of_spaced (ofTokens?_tokens json) h.wellFormed h.spaced
  obtain ⟨all, hscan, hbuild⟩ := Option.bind_eq_some_iff.1 hparse
  obtain ⟨last, hlast, hall⟩ := Option.bind_eq_some_iff.1 hscan
  rw [List.foldlM_append, hs, Option.bind_eq_bind, Option.bind_some] at hlast
  rcases cases_of_holds_tokens hholds with rfl | hnumber
  · -- there is one token too many
    obtain ⟨t, more, rfl⟩ := Scan.exists_tokens_of_trailing hrest hlast hall
    rw [ofTokens?_append_cons (ofTokens?_tokens json)] at hbuild
    cases hbuild
  · -- the first token is a number, and so is what is read, since nothing may stand behind it
    obtain ⟨literal, more, rfl⟩ :=
      Scan.exists_number_of_numberFirst
        (Scan.foldlM_induction Scan.numberFirst_step? hnumber hlast) hall
    refine ⟨literal, ?_⟩
    cases more with
    | nil => exact (Option.some.inj hbuild).symm
    | cons t more =>
      have hnone := ofTokens?_append_cons (rfl : ofTokens? [.number literal] = _) t more
      cases hnone.symm.trans hbuild

end RemoteAccount.Json
