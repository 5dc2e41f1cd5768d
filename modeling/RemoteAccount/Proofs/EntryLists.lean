import Mathlib.Data.List.DropRight
import RemoteAccount.Config

/-!
# Lists of entries as they are written

A list of entries is written as one text. Commas stand between the entries, any blanks may stand
around an entry, and what stands between two commas may also be blank and no entry at all. So a list
can be written in many ways. Two relations say what the parts of such a text are, and a third puts
them together:

* `Text.Trims` — what is left of a text without the blanks around it; `Text.trim_eq_iff` says that
  trimming finds it;
* `Config.IsPiece` — what stands between two commas, or between a comma and an end of the list;
  `Config.mem_pieces_iff` says that cutting finds these;
* `Config.Written` — the ways to write a list of entries. `Config.entriesOfList_eq_iff` says that
  reading is the inverse of writing: the entries that are found in a text are the only ones of which
  it is a writing.
-/

namespace RemoteAccount

namespace Text

/-! ### Blanks around a text -/

/-- **A bare text** neither begins nor ends with a blank. -/
def Bare (text : String) : Prop :=
  ∀ c, text.toList.head? = some c ∨ text.toList.getLast? = some c → isBlank c = false

/-- **What is left of a text** when the blanks around it are taken away. -/
structure Trims (text word : String) : Prop where
  bare : Bare word
  surrounded : ∃ left right, isBlankText left = true ∧ isBlankText right = true ∧
    text = left ++ word ++ right

variable {text word : String} {cs left right : List Char}

theorem isBlankText_iff : isBlankText text = true ↔ ∀ c ∈ text.toList, isBlank c = true :=
  List.all_eq_true

/-- Blanks are taken off the front, and then off the back. -/
theorem trimChars_eq (cs : List Char) :
    trimChars cs = (cs.dropWhile isBlank).rdropWhile isBlank := rfl

/-- More blanks make no difference. -/
theorem trimChars_append_append (hleft : ∀ c ∈ left, isBlank c = true)
    (hright : ∀ c ∈ right, isBlank c = true) : trimChars (left ++ cs ++ right) = trimChars cs := by
  have hback (ds : List Char) : (ds ++ right).rdropWhile isBlank = ds.rdropWhile isBlank := by
    rw [List.rdropWhile, List.reverse_append, List.dropWhile_append_of_pos (by simpa using hright),
      List.rdropWhile]
  rw [trimChars_eq, trimChars_eq, List.append_assoc, List.dropWhile_append_of_pos hleft,
    List.dropWhile_append]
  split
  · next hempty =>
    -- nothing is left of the text, and so nothing of the blanks behind it
    rw [List.isEmpty_iff.1 hempty, List.dropWhile_eq_nil_iff.2 hright]
  · exact hback _

/-- A bare text stays as it is. -/
theorem trim_of_bare (h : Bare word) : trim word = word := by
  have hfront : word.toList.dropWhile isBlank = word.toList := by
    rw [List.dropWhile_eq_self_iff]
    intro hpos
    rw [h _ (.inl (List.head?_eq_getElem? ▸ List.getElem?_eq_getElem hpos))]
    exact Bool.false_ne_true
  have hback : word.toList.rdropWhile isBlank = word.toList := by
    rw [List.rdropWhile_eq_self_iff]
    intro hne
    rw [h _ (.inr (List.getLast?_eq_some_getLast hne))]
    exact Bool.false_ne_true
  rw [trim, trimChars_eq, hfront, hback, String.ofList_toList]

/-- What is left begins with the first character that is not blank, and ends with the last one. -/
theorem bare_trim (text : String) : Bare (trim text) := by
  intro c hc
  rw [trim, String.toList_ofList, trimChars_eq] at hc
  rcases hc with hfirst | hlast
  · have hdropped : (text.toList.dropWhile isBlank).head? = some c := by
      rw [← @List.rdropWhile_append_rtakeWhile _ isBlank (text.toList.dropWhile isBlank),
        List.head?_append, hfirst, Option.some_or]
    have hnot := List.head?_dropWhile_not isBlank text.toList
    rw [hdropped] at hnot
    exact hnot
  · obtain ⟨hne, rfl⟩ := List.mem_getLast?_eq_getLast hlast
    exact Bool.eq_false_iff.2 (List.rdropWhile_last_not _ _ hne)

/-- What is taken off is blank. -/
theorem exists_trim_surrounded (text : String) :
    ∃ left right, isBlankText left = true ∧ isBlankText right = true ∧
      text = left ++ trim text ++ right := by
  refine ⟨String.ofList (text.toList.takeWhile isBlank),
    String.ofList ((text.toList.dropWhile isBlank).rtakeWhile isBlank), ?_, ?_, ?_⟩
  · rw [isBlankText_iff, String.toList_ofList]
    exact fun c hc => List.mem_takeWhile_imp hc
  · rw [isBlankText_iff, String.toList_ofList]
    exact fun c hc => List.mem_rtakeWhile_imp hc
  · -- put together again, the three parts are the text
    rw [trim, trimChars_eq, ← String.ofList_append, ← String.ofList_append, List.append_assoc,
      List.rdropWhile_append_rtakeWhile, List.takeWhile_append_dropWhile, String.ofList_toList]

/-- **Trimming** finds what is left of a text. -/
theorem trim_eq_iff : trim text = word ↔ Trims text word := by
  constructor
  · rintro rfl
    exact ⟨bare_trim text, exists_trim_surrounded text⟩
  · rintro ⟨hbare, left, right, hleft, hright, rfl⟩
    rw [isBlankText_iff] at hleft hright
    rw [trim, String.toList_append, String.toList_append, trimChars_append_append hleft hright,
      ← trim, trim_of_bare hbare]

/-- A text is blank if nothing is left of it. -/
theorem trim_eq_empty_iff : trim text = "" ↔ isBlankText text = true := by
  rw [trim_eq_iff]
  constructor
  · rintro ⟨-, left, right, hleft, hright, rfl⟩
    rw [isBlankText_iff] at hleft hright ⊢
    intro c hc
    rw [String.append_empty, String.toList_append, List.mem_append] at hc
    exact hc.elim (hleft c) (hright c)
  · intro hblank
    exact ⟨by simp [Bare], text, "", hblank, rfl, by simp⟩

end Text

namespace Config

open Text

/-! ### Pieces and entries -/

/-- **A piece of a list** has no comma in it, and on each side of it there is a comma or an end of
the list. -/
def IsPiece (piece list : String) : Prop :=
  ',' ∉ piece.toList ∧ ∃ front back, list = front ++ piece ++ back ∧
    (front = "" ∨ ∃ before, front = before ++ ",") ∧ (back = "" ∨ ∃ after, back = "," ++ after)

/-- **What can stand on a list.** An entry has at least one character and no comma, and neither
begins nor ends with a blank. -/
structure IsEntry (entry : String) : Prop where
  ne_empty : entry ≠ ""
  comma_notMem : ',' ∉ entry.toList
  bare : Bare entry

/-- **How a list of entries may be written.** Blanks are a list of nothing, an entry may have blanks
around it, and a comma stands between two lists. -/
inductive Written : List String → String → Prop
  | blank {text : String} : isBlankText text = true → Written [] text
  | entry {entry left right : String} : isBlankText left = true → isBlankText right = true →
      Written [entry] (left ++ entry ++ right)
  | append {entries entries' : List String} {list list' : String} : Written entries list →
      Written entries' list' → Written (entries ++ entries') (list ++ "," ++ list')

variable {list list' piece entry : String} {entries : List String}

/-- A list has no comma, or it is two lists with a comma between them. -/
theorem list_induction {P : String → Prop} (single : ∀ list, ',' ∉ list.toList → P list)
    (append : ∀ list list', P list → P list' → P (list ++ "," ++ list')) (list : String) :
    P list := by
  -- along the text, with the characters since the last comma held back in `front`
  have hfrom (cs : List Char) : ∀ front : List Char, ',' ∉ front → P (.ofList (front ++ cs)) := by
    induction cs with
    | nil =>
      intro front hfront
      exact single _ (by simpa using hfront)
    | cons c cs ih =>
      intro front hfront
      by_cases hc : c = ','
      · subst hc
        have hsplit : String.ofList (front ++ ',' :: cs)
            = .ofList front ++ "," ++ .ofList ([] ++ cs) := by
          rw [← String.toList_inj]
          simp
        rw [hsplit]
        exact append _ _ (single _ (by simpa using hfront)) (ih [] List.not_mem_nil)
      · have hfront' : ',' ∉ front ++ [c] := by simp [hfront, Ne.symm hc]
        have hnext := ih (front ++ [c]) hfront'
        rwa [List.append_assoc] at hnext
  simpa using hfrom list.toList [] List.not_mem_nil

theorem toList_append_comma (list list' : String) :
    (list ++ "," ++ list').toList = list.toList ++ ',' :: list'.toList := by
  simp

/-- **Cutting** finds the pieces. -/
theorem mem_pieces_iff : piece.toList ∈ pieces ',' list.toList ↔ IsPiece piece list := by
  constructor
  · induction list using list_induction with
    | single list hlist =>
      intro h
      rw [pieces_of_not_mem hlist, List.mem_singleton, String.toList_inj] at h
      subst h
      exact ⟨hlist, "", "", by simp, .inl rfl, .inl rfl⟩
    | append list list' ih ih' =>
      intro h
      rw [toList_append_comma, pieces_append, List.mem_append] at h
      rcases h with h | h
      · obtain ⟨hpiece, front, back, rfl, hfront, hback⟩ := ih h
        refine ⟨hpiece, front, back ++ "," ++ list', by simp [String.append_assoc], hfront, .inr ?_⟩
        rcases hback with rfl | ⟨after, rfl⟩
        · exact ⟨list', by simp⟩
        · exact ⟨after ++ "," ++ list', by simp [String.append_assoc]⟩
      · obtain ⟨hpiece, front, back, rfl, hfront, hback⟩ := ih' h
        refine ⟨hpiece, list ++ "," ++ front, back, by simp [String.append_assoc], .inr ?_, hback⟩
        rcases hfront with rfl | ⟨before, rfl⟩
        · exact ⟨list, by simp⟩
        · exact ⟨list ++ "," ++ before, by simp [String.append_assoc]⟩
  · rintro ⟨hpiece, front, back, rfl, hfront, hback⟩
    have hself := pieces_of_not_mem hpiece
    -- on each side there is an end of the list, or a comma, where it is cut
    rcases hfront with rfl | ⟨before, rfl⟩ <;> rcases hback with rfl | ⟨after, rfl⟩
    all_goals simp [pieces_append, hself]

/-! ### Reading a list -/

theorem entriesOfList_eq (list : String) :
    entriesOfList list = ((pieces ',' list.toList).map fun piece => trim (.ofList piece)).filter
      (!·.isEmpty) := by
  simp [entriesOfList, trim]

/-- The entries of two lists with a comma between them are those of the one and then those of the
other. -/
theorem entriesOfList_append (list list' : String) :
    entriesOfList (list ++ "," ++ list') = entriesOfList list ++ entriesOfList list' := by
  rw [entriesOfList_eq, toList_append_comma, pieces_append, List.map_append, List.filter_append,
    ← entriesOfList_eq, ← entriesOfList_eq]

/-- Without a comma there is at most one entry. -/
theorem entriesOfList_of_comma_notMem (h : ',' ∉ list.toList) :
    entriesOfList list = if trim list = "" then [] else [trim list] := by
  rw [entriesOfList_eq, pieces_of_not_mem h, List.map_singleton, String.ofList_toList]
  split
  · next hempty => simp [hempty]
  · next hne => simp [hne]

/-- **The entries of a list** are what is left of its pieces, where anything is left. -/
theorem mem_entriesOfList_iff :
    entry ∈ entriesOfList list ↔
      ∃ piece, IsPiece piece list ∧ Trims piece entry ∧ entry ≠ "" := by
  rw [entriesOfList_eq, List.mem_filter, List.mem_map]
  constructor
  · rintro ⟨⟨piece, hpiece, rfl⟩, hne⟩
    refine ⟨.ofList piece, mem_pieces_iff.1 ?_, trim_eq_iff.1 rfl, by simpa using hne⟩
    rwa [String.toList_ofList]
  · rintro ⟨piece, hpiece, htrims, hne⟩
    refine ⟨⟨piece.toList, mem_pieces_iff.2 hpiece, ?_⟩, by simpa using hne⟩
    rw [String.ofList_toList, trim_eq_iff.2 htrims]

/-- What is left of a piece is an entry, where anything is left. -/
theorem isEntry_of_mem (h : entry ∈ entriesOfList list) : IsEntry entry := by
  obtain ⟨piece, ⟨hpiece, -⟩, ⟨hbare, left, right, -, -, rfl⟩, hne⟩ := mem_entriesOfList_iff.1 h
  refine ⟨hne, fun hmem => hpiece ?_, hbare⟩
  rw [String.toList_append, String.toList_append]
  exact List.mem_append_left _ (List.mem_append_right _ hmem)

/-- A text is a way to write the entries that are found in it. -/
theorem written_entriesOfList (list : String) : Written (entriesOfList list) list := by
  induction list using list_induction with
  | single list hlist =>
    rw [entriesOfList_of_comma_notMem hlist]
    split
    · next hempty => exact .blank (trim_eq_empty_iff.1 hempty)
    · obtain ⟨left, right, hleft, hright, hlist⟩ := exists_trim_surrounded list
      have hwritten : Written [trim list] (left ++ trim list ++ right) := .entry hleft hright
      rwa [← hlist] at hwritten
  | append list list' ih ih' =>
    rw [entriesOfList_append]
    exact .append ih ih'

/-- There are no commas among blanks. -/
theorem comma_notMem_of_isBlankText {text : String} (h : isBlankText text = true) :
    ',' ∉ text.toList := by
  intro hmem
  have hcomma := isBlankText_iff.1 h ',' hmem
  revert hcomma
  decide

/-- However a list of entries is written, its entries are found. -/
theorem entriesOfList_of_written (hwritten : Written entries list)
    (hentries : ∀ entry ∈ entries, IsEntry entry) : entriesOfList list = entries := by
  induction hwritten with
  | blank hblank =>
    rw [entriesOfList_of_comma_notMem (comma_notMem_of_isBlankText hblank),
      if_pos (trim_eq_empty_iff.2 hblank)]
  | @entry entry left right hleft hright =>
    have hentry := hentries entry (List.mem_singleton_self entry)
    have hcomma : ',' ∉ (left ++ entry ++ right).toList := by
      simp [comma_notMem_of_isBlankText hleft, comma_notMem_of_isBlankText hright,
        hentry.comma_notMem]
    have htrim : trim (left ++ entry ++ right) = entry :=
      trim_eq_iff.2 ⟨hentry.bare, left, right, hleft, hright, rfl⟩
    rw [entriesOfList_of_comma_notMem hcomma, htrim, if_neg hentry.ne_empty]
  | append _ _ ih ih' =>
    rw [List.forall_mem_append] at hentries
    rw [entriesOfList_append, ih hentries.1, ih' hentries.2]

/-- **Reading is the inverse of writing.** The entries that are found in a text are entries, and of
these the only ones of which it is a writing. -/
theorem entriesOfList_eq_iff :
    entriesOfList list = entries ↔ (∀ entry ∈ entries, IsEntry entry) ∧ Written entries list := by
  constructor
  · rintro rfl
    exact ⟨fun entry => isEntry_of_mem, written_entriesOfList list⟩
  · rintro ⟨hentries, hwritten⟩
    exact entriesOfList_of_written hwritten hentries

end Config

end RemoteAccount
