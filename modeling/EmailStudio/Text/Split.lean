/-!
# Splitting texts

Texts are split at every occurrence of a mark, so that the parts with the mark between them are the
text again.
-/

namespace EmailStudio.Text

/-- Splits at every occurrence of a character. -/
def splitAll (mark : Char) : List Char → List (List Char)
  | [] => [[]]
  | c :: rest =>
    if c = mark then [] :: splitAll mark rest
    else
      match splitAll mark rest with
      | [] => [[c]]
      | part :: parts => (c :: part) :: parts

/-- Parts with a mark between them. -/
def joinAll (mark : Char) : List (List Char) → List Char
  | [] => []
  | [part] => part
  | part :: parts => part ++ mark :: joinAll mark parts

theorem splitAll_ne_nil (mark : Char) (cs : List Char) : splitAll mark cs ≠ [] := by
  cases cs with
  | nil => simp [splitAll]
  | cons c rest =>
    unfold splitAll
    split
    · simp
    · split <;> simp

theorem joinAll_splitAll (mark : Char) (cs : List Char) : joinAll mark (splitAll mark cs) = cs := by
  induction cs with
  | nil => rfl
  | cons c rest ih =>
    unfold splitAll
    split
    · rename_i h
      obtain ⟨part, parts, hp⟩ := List.exists_cons_of_ne_nil (splitAll_ne_nil mark rest)
      rw [hp] at ih ⊢
      simp [joinAll, ih, h]
    · split
      · rename_i h
        exact absurd h (splitAll_ne_nil mark rest)
      · rename_i part parts h
        rw [h] at ih
        cases parts with
        | nil => simp_all [joinAll]
        | cons q qs => simp_all [joinAll]

end EmailStudio.Text
