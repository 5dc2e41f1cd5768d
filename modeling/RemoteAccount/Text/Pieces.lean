/-!
# Pieces of a separated text

A configured list is one text whose entries stand between separators. `pieces` cuts it, so that
`n` separators give `n + 1` pieces, empty ones included. Two laws determine it:

* `pieces_append` — the pieces of two texts joined by a separator are those of the first and then
  those of the second;
* `pieces_of_not_mem` — a text without separators is its own only piece.
-/

namespace RemoteAccount.Text

/-- Put a character in front of a text that is already cut: a separator opens a new piece, and any
other character joins the first one. -/
def pushPiece (separator c : Char) (ps : List (List Char)) : List (List Char) :=
  if c = separator then [] :: ps
  else match ps with
    | [] => [[c]]
    | p :: ps => (c :: p) :: ps

/-- The pieces of a text between separators. There is always at least one. -/
def pieces (separator : Char) (cs : List Char) : List (List Char) :=
  cs.foldr (pushPiece separator) [[]]

@[simp] theorem pieces_nil (separator : Char) : pieces separator [] = [[]] := rfl

@[simp] theorem pieces_cons (separator c : Char) (cs : List Char) :
    pieces separator (c :: cs) = pushPiece separator c (pieces separator cs) := rfl

theorem pieces_ne_nil (separator : Char) (cs : List Char) : pieces separator cs ≠ [] := by
  cases cs with
  | nil => simp
  | cons c cs =>
    simp only [pieces_cons, pushPiece]
    split
    · simp
    · split <;> simp

/-- Only the first piece of a cut text is looked at. -/
theorem pushPiece_append {separator c : Char} {ps qs : List (List Char)} (h : ps ≠ []) :
    pushPiece separator c (ps ++ qs) = pushPiece separator c ps ++ qs := by
  cases ps with
  | nil => exact absurd rfl h
  | cons p ps =>
    simp only [pushPiece, List.cons_append]
    split <;> rfl

/-- **Joining two texts by a separator** joins their pieces. -/
theorem pieces_append (separator : Char) (xs ys : List Char) :
    pieces separator (xs ++ separator :: ys) = pieces separator xs ++ pieces separator ys := by
  induction xs with
  | nil => simp [pushPiece]
  | cons c cs ih => simp [ih, pushPiece_append (pieces_ne_nil separator cs)]

/-- A text without separators is its own only piece. -/
theorem pieces_of_not_mem {separator : Char} {cs : List Char} (h : separator ∉ cs) :
    pieces separator cs = [cs] := by
  induction cs with
  | nil => rfl
  | cons c cs ih =>
    simp only [List.mem_cons, not_or] at h
    simp [ih h.2, pushPiece, Ne.symm h.1]

end RemoteAccount.Text
