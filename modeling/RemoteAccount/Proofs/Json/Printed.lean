import RemoteAccount.Json.Text

/-!
# Printed JSON is read back

A JSON value that has been printed is read as the same value, if its strings and numbers are written
as strings and numbers have to be (`Json.WellFormed`). It is printed without blanks, but blanks
between its tokens would make no difference (`Json.Spaced`). The scanner and the machine that puts
tokens together are looked at one after the other:

* `Scan.Holds` says that a scan has read some tokens. The last of them may be a number that the
  next byte would have carried on, so after a number there has to come a blank or a token of another
  kind;
* `Build.exists_holds_of_build` — tokens that can be put together are scanned from their bytes, for
  no value is followed directly by a number;
* `Build.read_tokens` — the tokens of a value are put together to the value, inside of whatever is
  open;
* `Json.parse?_of_spaced`, `Json.parse?_print` — so a value is read back from its tokens, and from
  what is printed.
-/

namespace RemoteAccount.Json

/-! ### How tokens are written -/

/-- Can the byte stand in a string by itself? -/
def IsPlain (b : UInt8) : Prop :=
  b ≠ quote ∧ b ≠ backslash ∧ ¬ b < 0x20

instance (b : UInt8) : Decidable (IsPlain b) :=
  inferInstanceAs (Decidable (_ ∧ _ ∧ _))

def IsHex (b : UInt8) : Prop :=
  (hexValue? b).isSome = true

instance (b : UInt8) : Decidable (IsHex b) :=
  inferInstanceAs (Decidable (_ = true))

/-- What may stand between quotation marks. -/
inductive IsRaw : Bytes → Prop
  | nil : IsRaw []
  | plain {b : UInt8} {raw : Bytes} (hb : IsPlain b) (h : IsRaw raw) : IsRaw (b :: raw)
  | escape {b : UInt8} {raw : Bytes} (hb : Scan.isEscape b = true) (h : IsRaw raw) :
      IsRaw (backslash :: b :: raw)
  | unicode {a b c d : UInt8} {raw : Bytes} (ha : IsHex a) (hb : IsHex b) (hc : IsHex c)
      (hd : IsHex d) (h : IsRaw raw) :
      IsRaw (backslash :: 'u'.toUInt8 :: a :: b :: c :: d :: raw)

/-- How a number may be written. -/
def IsNumeral (literal : Bytes) : Prop :=
  ∃ b rest spot last, literal = b :: rest ∧ NumberSpot.start? b = some spot ∧
    rest.foldlM NumberSpot.next? spot = some last ∧ last.isEnd = true

/-- Strings and numbers are written as they have to be. -/
def Token.WellFormed : Token → Prop
  | .number literal => IsNumeral literal
  | .text raw => IsRaw raw
  | _ => True

def Token.isNumber : Token → Bool
  | .number _ => true
  | _ => false

/-- **Tokens with blanks** in front of each of them, and behind the last. -/
inductive Spaced : List Token → Bytes → Prop
  | nil {blanks : Bytes} (hblanks : ∀ b ∈ blanks, isSpace b = true) : Spaced [] blanks
  | cons {blanks : Bytes} {t : Token} {ts : List Token} {bs : Bytes}
      (hblanks : ∀ b ∈ blanks, isSpace b = true) (h : Spaced ts bs) :
      Spaced (t :: ts) (blanks ++ (t.bytes ++ bs))

/-- There may be the same blanks in front of all tokens. -/
theorem spaced_flatMap {blanks : Bytes} (hblanks : ∀ b ∈ blanks, isSpace b = true)
    (ts : List Token) : Spaced ts (ts.flatMap fun t => blanks ++ t.bytes) := by
  induction ts with
  | nil => exact .nil nofun
  | cons t ts ih =>
    rw [List.flatMap_cons, List.append_assoc]
    exact .cons hblanks ih

/-! ### Scanning -/

namespace Scan

/-- The scan has read these tokens, the latest first. If the latest is a number, the scan does not
know yet that it has ended. -/
inductive Holds : List Token → Scan → Prop
  | between (tokens : List Token) : Holds tokens ⟨tokens, .between⟩
  | number {tokens : List Token} {spot : NumberSpot} {done : Bytes} (h : spot.isEnd = true) :
      Holds (.number done.reverse :: tokens) ⟨tokens, .number spot done⟩

variable {tokens : List Token} {s : Scan}

theorem finish?_of_holds (h : Holds tokens s) : s.finish? = some tokens.reverse := by
  cases h with
  | between => rfl
  | number h => simp [finish?, h]

/-- Only a number can be carried on. -/
theorem eq_between_of_holds (h : Holds tokens s)
    (hlast : ∀ t ∈ tokens.head?, t.isNumber = false) : s = ⟨tokens, .between⟩ := by
  cases h with
  | between => rfl
  | number h => cases hlast _ rfl

/-- Can the byte stand in a number behind its first byte? -/
def carriesOn (b : UInt8) : Bool :=
  isDigit b || b = '.'.toUInt8 || b = 'e'.toUInt8 || b = 'E'.toUInt8 || b = '+'.toUInt8
    || b = '-'.toUInt8

theorem next?_eq_none {b : UInt8} (h : carriesOn b = false) (spot : NumberSpot) :
    spot.next? b = none := by
  simp only [carriesOn, Bool.or_eq_false_iff, decide_eq_false_iff_not] at h
  have hzero : b ≠ '0'.toUInt8 := by
    rintro rfl
    exact absurd h.1.1.1.1.1 (by decide)
  cases spot <;> simp [NumberSpot.next?, h, hzero]

/-- A byte that cannot carry a number on ends it. -/
theorem step?_of_holds {b : UInt8} (h : Holds tokens s) (hb : carriesOn b = false) :
    s.step? b = begin? tokens b := by
  cases h with
  | between => rfl
  | number h => simp [step?, next?_eq_none hb, h]

/-! #### Blanks -/

theorem carriesOn_of_isSpace {b : UInt8} (h : isSpace b = true) : carriesOn b = false := by
  simp only [isSpace, Bool.or_eq_true, decide_eq_true_eq] at h
  rcases h with ((rfl | rfl) | rfl) | rfl <;> decide

/-- Blanks may end a number, and do nothing else. -/
theorem exists_holds_blanks {blanks : Bytes} (hs : Holds tokens s)
    (hblanks : ∀ b ∈ blanks, isSpace b = true) :
    ∃ s', blanks.foldlM step? s = some s' ∧ Holds tokens s' := by
  induction blanks generalizing s with
  | nil => exact ⟨s, rfl, hs⟩
  | cons b blanks ih =>
    obtain ⟨hb, hblanks⟩ := List.forall_mem_cons.1 hblanks
    have hstep : s.step? b = some ⟨tokens, .between⟩ := by
      rw [step?_of_holds hs (carriesOn_of_isSpace hb), begin?, if_pos hb]
    obtain ⟨s', hs', hholds⟩ := ih (.between tokens) hblanks
    refine ⟨s', ?_, hholds⟩
    rw [List.foldlM_cons, hstep]
    exact hs'

/-! #### Strings -/

theorem step?_backslash (tokens : List Token) (done : Bytes) :
    step? ⟨tokens, .text done⟩ backslash = some ⟨tokens, .escape (backslash :: done)⟩ :=
  rfl

theorem step?_escape {b : UInt8} (hb : isEscape b = true) (tokens : List Token) (done : Bytes) :
    step? ⟨tokens, .escape done⟩ b = some ⟨tokens, .text (b :: done)⟩ := by
  have hu : b ≠ 'u'.toUInt8 := by
    rintro rfl
    exact absurd hb (by decide)
  simp [step?, hu, hb]

theorem step?_unicode {b : UInt8} (hb : IsHex b) (tokens : List Token) (left : Nat)
    (done : Bytes) :
    step? ⟨tokens, .unicode left done⟩ b = match left with
      | 0 => some ⟨tokens, .text (b :: done)⟩
      | left + 1 => some ⟨tokens, .unicode left (b :: done)⟩ := by
  have hnone : (hexValue? b).isNone = false := by
    rw [← Option.not_isSome, hb]
    rfl
  simp only [step?, hnone]
  cases left <;> rfl

/-- What stands between quotation marks is scanned up to the second of them. -/
theorem foldlM_raw {raw : Bytes} (h : IsRaw raw) (tokens : List Token) (done : Bytes) :
    raw.foldlM step? ⟨tokens, .text done⟩ = some ⟨tokens, .text (raw.reverse ++ done)⟩ := by
  induction h generalizing done with
  | nil => rfl
  | @plain b raw hb h ih =>
    have hstep : step? ⟨tokens, .text done⟩ b = some ⟨tokens, .text (b :: done)⟩ := by
      simp [step?, hb.1, hb.2.1, hb.2.2]
    rw [List.foldlM_cons, hstep, Option.bind_eq_bind, Option.bind_some, ih]
    simp
  | escape hb h ih =>
    simp only [List.foldlM_cons, step?_backslash, step?_escape hb, Option.bind_eq_bind,
      Option.bind_some, ih]
    simp
  | unicode ha hb hc hd h ih =>
    have hu (done : Bytes) : step? ⟨tokens, .escape done⟩ 'u'.toUInt8 =
        some ⟨tokens, .unicode 3 ('u'.toUInt8 :: done)⟩ := rfl
    simp only [List.foldlM_cons, step?_backslash, hu, step?_unicode ha, step?_unicode hb,
      step?_unicode hc, step?_unicode hd, Option.bind_eq_bind, Option.bind_some, ih]
    simp

/-! #### Numbers -/

theorem foldlM_numeral {rest : Bytes} {spot last : NumberSpot}
    (h : rest.foldlM NumberSpot.next? spot = some last) (tokens : List Token) (done : Bytes) :
    rest.foldlM step? ⟨tokens, .number spot done⟩ =
      some ⟨tokens, .number last (rest.reverse ++ done)⟩ := by
  induction rest generalizing spot done with
  | nil =>
    cases h
    rfl
  | cons b rest ih =>
    rw [List.foldlM_cons] at h
    obtain ⟨next, hnext, hrest⟩ := Option.bind_eq_some_iff.1 h
    have hstep : step? ⟨tokens, .number spot done⟩ b =
        some ⟨tokens, .number next (b :: done)⟩ := by
      simp [step?, hnext]
    rw [List.foldlM_cons, hstep, Option.bind_eq_bind, Option.bind_some, ih hrest]
    simp

/-- The first byte of a number begins no other token. -/
theorem begin?_of_start? {b : UInt8} {spot : NumberSpot} (h : NumberSpot.start? b = some spot)
    (tokens : List Token) : begin? tokens b = some ⟨tokens, .number spot [b]⟩ := by
  -- there are not many bytes
  have hall : ∀ n : Fin 256, (NumberSpot.start? (UInt8.ofNat n)).isSome = true →
      isSpace (UInt8.ofNat n) = false ∧ UInt8.ofNat n ≠ quote ∧ sign? (UInt8.ofNat n) = none ∧
        word? (UInt8.ofNat n) = none := by
    decide +kernel
  have hb := hall ⟨b.toNat, b.toNat_lt⟩
  simp only [UInt8.ofNat_toNat, h] at hb
  obtain ⟨hspace, hquote, hsign, hword⟩ := hb rfl
  simp [begin?, hspace, hquote, hsign, hword, h]

/-! #### Words -/

theorem foldlM_word {rest : Bytes} (h : rest ≠ []) (tokens : List Token) (t : Token) :
    rest.foldlM step? ⟨tokens, .word rest t⟩ = some ⟨t :: tokens, .between⟩ := by
  induction rest with
  | nil => exact absurd rfl h
  | cons b rest ih =>
    cases rest with
    | nil => simp [step?]
    | cons c rest =>
      have hstep : step? ⟨tokens, .word (b :: c :: rest) t⟩ b =
          some ⟨tokens, .word (c :: rest) t⟩ := by
        simp [step?]
      rw [List.foldlM_cons, hstep, Option.bind_eq_bind, Option.bind_some, ih (List.cons_ne_nil _ _)]

/-! #### Tokens -/

variable {t : Token}

theorem exists_holds_sign {b : UInt8} (hs : Holds tokens s) (hb : carriesOn b = false)
    (hbegin : begin? tokens b = some ⟨t :: tokens, .between⟩) :
    ∃ s', [b].foldlM step? s = some s' ∧ Holds (t :: tokens) s' := by
  refine ⟨_, ?_, .between _⟩
  rw [List.foldlM_cons, step?_of_holds hs hb, hbegin]
  rfl

theorem exists_holds_word {b : UInt8} {rest : Bytes} (hs : Holds tokens s)
    (hb : carriesOn b = false) (hrest : rest ≠ [])
    (hbegin : begin? tokens b = some ⟨tokens, .word rest t⟩) :
    ∃ s', (b :: rest).foldlM step? s = some s' ∧ Holds (t :: tokens) s' := by
  refine ⟨_, ?_, .between _⟩
  rw [List.foldlM_cons, step?_of_holds hs hb, hbegin, Option.bind_eq_bind, Option.bind_some,
    foldlM_word hrest]

theorem exists_holds_text {raw : Bytes} (hs : Holds tokens s) (hraw : IsRaw raw) :
    ∃ s', (Token.text raw).bytes.foldlM step? s = some s' ∧ Holds (.text raw :: tokens) s' := by
  refine ⟨_, ?_, .between _⟩
  have hopen : step? s quote = some ⟨tokens, .text []⟩ := step?_of_holds hs (by decide)
  have hclose (done : Bytes) : step? ⟨tokens, .text done⟩ quote =
      some ⟨.text done.reverse :: tokens, .between⟩ := rfl
  rw [Token.bytes, List.cons_append, List.foldlM_cons, hopen, Option.bind_eq_bind, Option.bind_some,
    List.foldlM_append, foldlM_raw hraw, Option.bind_eq_bind, Option.bind_some, List.foldlM_cons,
    hclose]
  simp

theorem exists_holds_number {literal : Bytes} (hs : Holds tokens s)
    (hliteral : IsNumeral literal) (happart : ∀ u ∈ tokens.head?, u.isNumber = false) :
    ∃ s', literal.foldlM step? s = some s' ∧ Holds (.number literal :: tokens) s' := by
  obtain ⟨b, rest, spot, last, rfl, hstart, hrest, hend⟩ := hliteral
  -- nothing is left open that the first byte could carry on
  have hbegin : step? s b = some ⟨tokens, .number spot [b]⟩ := by
    rw [eq_between_of_holds hs happart]
    exact begin?_of_start? hstart tokens
  have hholds : Holds (.number (rest.reverse ++ [b]).reverse :: tokens)
      ⟨tokens, .number last (rest.reverse ++ [b])⟩ := .number hend
  refine ⟨_, ?_, by simpa using hholds⟩
  rw [List.foldlM_cons, hbegin, Option.bind_eq_bind, Option.bind_some, foldlM_numeral hrest]

/-- **A token is scanned** from its bytes, unless it is a number right behind another one. -/
theorem exists_holds_cons (hs : Holds tokens s) (ht : t.WellFormed)
    (happart : t.isNumber = true → ∀ u ∈ tokens.head?, u.isNumber = false) :
    ∃ s', t.bytes.foldlM step? s = some s' ∧ Holds (t :: tokens) s' := by
  cases t with
  | number literal => exact exists_holds_number hs ht (happart rfl)
  | text raw => exact exists_holds_text hs ht
  | null => exact exists_holds_word hs (by decide) (by decide) rfl
  | bool value =>
    cases value with
    | true => exact exists_holds_word hs (by decide) (by decide) rfl
    | false => exact exists_holds_word hs (by decide) (by decide) rfl
  | _ => exact exists_holds_sign hs (by decide) rfl

end Scan

/-! ### Putting tokens together -/

namespace Build

/-- Behind a value that is finished there may come no number. -/
theorem provide_number (value : Json) (outer : List Frame) (literal : Bytes) :
    (provide value outer).step? (.number literal) = none := by
  cases outer with
  | nil => rfl
  | cons frame outer => cases frame <;> rfl

/-- Whatever may be followed by a number, a number may be followed by none. -/
theorem step?_number_of_number {b b' : Build} {l l' : Bytes} (h : b.step? (.number l) = some b') :
    b'.step? (.number l') = none := by
  cases b with
  | needValue outer =>
    cases h
    exact provide_number _ _ _
  | firstItem outer =>
    cases h
    exact provide_number _ _ _
  | _ => cases h

/-- **Tokens that can be put together are scanned** from their bytes and the blanks between them,
behind those already read, if a number does not follow one. -/
theorem exists_holds_of_build {ts done : List Token} {bs : Bytes} {s : Scan} {b b' : Build}
    (hbuild : ts.foldlM step? b = some b') (hts : ∀ t ∈ ts, t.WellFormed) (hbs : Spaced ts bs)
    (hs : Scan.Holds done s)
    (happart : ∀ u ∈ done.head?, u.isNumber = true → ∀ l, b.step? (.number l) = none) :
    ∃ s', bs.foldlM Scan.step? s = some s' ∧ Scan.Holds (ts.reverse ++ done) s' := by
  -- both machines go through the tokens in step, and `happart` is what the one knows for the other
  induction hbs generalizing b done s with
  | nil hblanks => exact Scan.exists_holds_blanks hs hblanks
  | @cons blanks t ts bs hblanks _ ih =>
    obtain ⟨ht, hts⟩ := List.forall_mem_cons.1 hts
    rw [List.foldlM_cons] at hbuild
    obtain ⟨next, hnext, hbuild⟩ := Option.bind_eq_some_iff.1 hbuild
    have hhead : t.isNumber = true → ∀ u ∈ done.head?, u.isNumber = false := by
      intro hnumber u hu
      cases t with
      | number l =>
        -- the number has been accepted here, so what is before it is none
        rw [Bool.eq_false_iff]
        intro hlast
        rw [happart u hu hlast l] at hnext
        cases hnext
      | _ => cases hnumber
    have hnumber : ∀ u ∈ (t :: done).head?, u.isNumber = true →
        ∀ l, next.step? (.number l) = none := by
      rintro u hu hlast l
      cases hu
      cases t with
      | number _ => exact step?_number_of_number hnext
      | _ => cases hlast
    obtain ⟨start, hstart, hs⟩ := Scan.exists_holds_blanks hs hblanks
    obtain ⟨mid, hmid, hholds⟩ := Scan.exists_holds_cons hs ht hhead
    obtain ⟨s', hs', hholds⟩ := ih hbuild hts hholds hnumber
    refine ⟨s', ?_, by simpa using hholds⟩
    rw [List.foldlM_append, hstart, Option.bind_eq_bind, Option.bind_some, List.foldlM_append, hmid]
    exact hs'

end Build

/-- Tokens that make up a value are held by a scan of their bytes. -/
theorem exists_holds_of_spaced {ts : List Token} {bs : Bytes} {json : Json}
    (hbuild : ofTokens? ts = some json) (hts : ∀ t ∈ ts, t.WellFormed) (hbs : Spaced ts bs) :
    ∃ s, bs.foldlM Scan.step? ⟨[], .between⟩ = some s ∧ Scan.Holds ts.reverse s := by
  obtain ⟨b, hb, -⟩ := Option.bind_eq_some_iff.1 hbuild
  have hholds := Build.exists_holds_of_build hb hts hbs (.between []) nofun
  rwa [List.append_nil] at hholds

/-- **Reading tokens.** Tokens that make up a value are read as this value, with any blanks between
them. -/
theorem parse?_of_spaced {ts : List Token} {bs : Bytes} {json : Json}
    (hbuild : ofTokens? ts = some json) (hts : ∀ t ∈ ts, t.WellFormed) (hbs : Spaced ts bs) :
    parse? bs = some json := by
  obtain ⟨s, hs, hholds⟩ := exists_holds_of_spaced hbuild hts hbs
  have hscan : Token.scan? bs = some ts := by
    rw [Token.scan?, hs, Option.bind_eq_bind, Option.bind_some, Scan.finish?_of_holds hholds,
      List.reverse_reverse]
  rw [parse?, hscan]
  exact hbuild

/-! ### The tokens of a value -/

/-- The tokens of the items that follow a first one. -/
def itemTokens (items : List Json) : List Token :=
  items.flatMap fun item => .comma :: item.tokens

/-- The tokens of the members that follow a first one. -/
def memberTokens (members : List (Bytes × Json)) : List Token :=
  members.flatMap fun member => .comma :: .text member.1 :: .colon :: member.2.tokens

mutual

theorem toList_pushTokens (done : Array Token) (json : Json) :
    (pushTokens done json).toList = done.toList ++ json.tokens := by
  match json with
  | .null | .bool _ | .number _ | .text _ | .array [] | .object [] => simp [tokens, pushTokens]
  | .array (item :: items) =>
    rw [tokens, pushTokens, pushTokens]
    simp [toList_pushItems _ items, toList_pushTokens _ item]
  | .object ((key, value) :: members) =>
    rw [tokens, pushTokens, pushTokens]
    simp [toList_pushMembers _ members, toList_pushTokens _ value]

theorem toList_pushItems (done : Array Token) (items : List Json) :
    (pushItems done items).toList = done.toList ++ itemTokens items := by
  match items with
  | [] => simp [pushItems, itemTokens]
  | item :: items =>
    simp [pushItems, itemTokens, toList_pushItems _ items, toList_pushTokens _ item]

theorem toList_pushMembers (done : Array Token) (members : List (Bytes × Json)) :
    (pushMembers done members).toList = done.toList ++ memberTokens members := by
  match members with
  | [] => simp [pushMembers, memberTokens]
  | (key, value) :: members =>
    simp [pushMembers, memberTokens, toList_pushMembers _ members, toList_pushTokens _ value]

end

theorem tokens_array_cons (item : Json) (items : List Json) :
    (array (item :: items)).tokens =
      .openArray :: (item.tokens ++ itemTokens items) ++ [.closeArray] := by
  rw [tokens, pushTokens]
  simp [toList_pushItems, toList_pushTokens]

theorem tokens_object_cons (key : Bytes) (value : Json) (members : List (Bytes × Json)) :
    (object ((key, value) :: members)).tokens =
      .openObject :: .text key :: .colon :: (value.tokens ++ memberTokens members)
        ++ [.closeObject] := by
  rw [tokens, pushTokens]
  simp [toList_pushMembers, toList_pushTokens]

/-- No value begins with the bracket that closes an array. -/
theorem exists_tokens_eq_cons (json : Json) :
    ∃ t ts, json.tokens = t :: ts ∧ t ≠ .closeArray := by
  match json with
  | .null | .bool _ | .number _ | .text _ | .array [] | .object [] => exact ⟨_, _, rfl, nofun⟩
  | .array (item :: items) => exact ⟨_, _, tokens_array_cons item items, nofun⟩
  | .object ((key, value) :: members) => exact ⟨_, _, tokens_object_cons key value members, nofun⟩

namespace Build

/-- The first item of an array is read like any other. -/
theorem foldlM_firstItem (json : Json) (ts : List Token) (outer : List Frame) :
    (json.tokens ++ ts).foldlM step? (.firstItem outer) =
      (json.tokens ++ ts).foldlM step? (.needValue (.array [] :: outer)) := by
  obtain ⟨t, more, htokens, ht⟩ := exists_tokens_eq_cons json
  have hstep : step? (.firstItem outer) t = step? (.needValue (.array [] :: outer)) t := by
    cases t <;> first | rfl | exact absurd rfl ht
  rw [htokens, List.cons_append, List.foldlM_cons, List.foldlM_cons, hstep]

/-- One token after another. -/
theorem foldlM_of_step? {b b' : Build} {t : Token} (h : b.step? t = some b') (ts : List Token) :
    (t :: ts).foldlM step? b = ts.foldlM step? b' := by
  rw [List.foldlM_cons, h]
  rfl

mutual

/-- **The tokens of a value** are put together to the value, inside of whatever is open. -/
theorem read_tokens (json : Json) (ts : List Token) (outer : List Frame) :
    (json.tokens ++ ts).foldlM step? (.needValue outer) =
      ts.foldlM step? (provide json outer) := by
  match json with
  | .null | .bool _ | .number _ | .text _ | .array [] | .object [] => rfl
  | .array (item :: items) =>
    -- the items are gathered in reverse, and the closing bracket turns them round
    have hclose : step? (.afterItem (items.reverse ++ [item]) outer) .closeArray =
        some (provide (.array (item :: items)) outer) := by
      simp [step?]
    rw [tokens_array_cons, List.append_assoc, List.cons_append, List.append_assoc,
      foldlM_of_step? (rfl : step? (.needValue outer) .openArray = some (.firstItem outer)),
      foldlM_firstItem, read_tokens item, provide, read_items items]
    exact foldlM_of_step? hclose ts
  | .object ((key, value) :: members) =>
    have hclose : step? (.afterMember (members.reverse ++ [(key, value)]) outer) .closeObject =
        some (provide (.object ((key, value) :: members)) outer) := by
      simp [step?]
    rw [tokens_object_cons, List.append_assoc]
    change (value.tokens ++ memberTokens members ++ (Token.closeObject :: ts)).foldlM step?
      (.needValue (.object [] key :: outer)) = _
    rw [List.append_assoc, read_tokens value, provide, read_members members]
    exact foldlM_of_step? hclose ts

theorem read_items (items done : List Json) (ts : List Token) (outer : List Frame) :
    (itemTokens items ++ ts).foldlM step? (.afterItem done outer) =
      ts.foldlM step? (.afterItem (items.reverse ++ done) outer) := by
  match items with
  | [] => rfl
  | item :: items =>
    have hitems : itemTokens (item :: items) ++ ts =
        .comma :: (item.tokens ++ (itemTokens items ++ ts)) := by
      simp [itemTokens]
    rw [hitems, foldlM_of_step?
      (rfl : step? (.afterItem done outer) .comma = some (.needValue (.array done :: outer))),
      read_tokens item, provide, read_items items]
    simp

theorem read_members (members done : List (Bytes × Json)) (ts : List Token)
    (outer : List Frame) :
    (memberTokens members ++ ts).foldlM step? (.afterMember done outer) =
      ts.foldlM step? (.afterMember (members.reverse ++ done) outer) := by
  match members with
  | [] => rfl
  | (key, value) :: members =>
    have hmembers : memberTokens ((key, value) :: members) ++ ts =
        .comma :: .text key :: .colon :: (value.tokens ++ (memberTokens members ++ ts)) := by
      simp [memberTokens]
    rw [hmembers]
    change (value.tokens ++ (memberTokens members ++ ts)).foldlM step?
      (.needValue (.object done key :: outer)) = _
    rw [read_tokens value, provide, read_members members]
    simp

end

end Build

/-- **A value is put together** from its tokens. -/
theorem ofTokens?_tokens (json : Json) : ofTokens? json.tokens = some json := by
  have hread := Build.read_tokens json [] []
  rw [List.append_nil] at hread
  rw [ofTokens?, hread]
  rfl

/-! ### Values -/

/-- Strings, keys and numbers are written as they have to be, throughout the value. -/
def WellFormed (json : Json) : Prop :=
  ∀ t ∈ json.tokens, t.WellFormed

/-- **A printed value is read back.** -/
theorem parse?_print {json : Json} (h : json.WellFormed) : parse? json.print = some json := by
  have hspaced : Spaced json.tokens json.print := spaced_flatMap (List.forall_mem_nil _) json.tokens
  exact parse?_of_spaced (ofTokens?_tokens json) h hspaced

theorem wellFormed_text {raw : Bytes} (h : IsRaw raw) : (text raw).WellFormed := by
  intro t ht
  cases List.mem_singleton.1 ht
  exact h

/-- An array is well-formed if its items are. -/
theorem wellFormed_array_iff {items : List Json} :
    (array items).WellFormed ↔ ∀ item ∈ items, item.WellFormed := by
  cases items with
  | nil => simp [WellFormed, tokens, pushTokens, Token.WellFormed]
  | cons item items =>
    -- brackets and commas always are
    simp only [WellFormed, tokens_array_cons, itemTokens, List.forall_mem_append,
      List.forall_mem_cons, List.forall_mem_flatMap, Token.WellFormed, true_and]
    simp

/-- An object is well-formed if its keys and values are. -/
theorem wellFormed_object_iff {members : List (Bytes × Json)} :
    (object members).WellFormed ↔ ∀ member ∈ members, IsRaw member.1 ∧ member.2.WellFormed := by
  cases members with
  | nil => simp [WellFormed, tokens, pushTokens, Token.WellFormed]
  | cons member members =>
    obtain ⟨key, value⟩ := member
    simp only [WellFormed, tokens_object_cons, memberTokens, List.forall_mem_append,
      List.forall_mem_cons, List.forall_mem_flatMap, Token.WellFormed, true_and]
    simp [and_assoc]

end RemoteAccount.Json
