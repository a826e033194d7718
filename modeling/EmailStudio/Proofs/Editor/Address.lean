import EmailStudio.Editor.Data

/-!
# Ids of the editor

The id of a node spells the path that leads to it, a dash and a number for each step down. By
`idBelow_injective` different paths have different ids, so that no zone is taken for another: the
digits of a number hold no dash, and where the next dash stands the step is over.
-/

namespace EmailStudio.Editor

/-- The id of what a path leads to from a node on. -/
def idBelow (id : String) (path : List Nat) : String :=
  path.foldl childId id

/-- The characters that a path adds to an id. -/
def pathChars (path : List Nat) : List Char :=
  path.flatMap fun i => '-' :: Nat.toDigits 10 i

theorem toList_idBelow (id : String) (path : List Nat) :
    (idBelow id path).toList = id.toList ++ pathChars path := by
  induction path generalizing id with
  | nil => simp [idBelow, pathChars]
  | cons i path ih =>
    have hstep : idBelow id (i :: path) = idBelow (childId id i) path := rfl
    have hchild : (childId id i).toList = id.toList ++ '-' :: Nat.toDigits 10 i := by
      rw [childId, String.toList_append, String.toList_append, Nat.toString_eq_repr,
        Nat.toList_repr, List.append_assoc]
      rfl
    rw [hstep, ih, hchild, List.append_assoc]
    rfl

/-- A number in a path ends where the next dash or the path ends. -/
theorem takeWhile_digits (i : Nat) (path : List Nat) :
    (Nat.toDigits 10 i ++ pathChars path).takeWhile (· ≠ '-') = Nat.toDigits 10 i := by
  have digits : ∀ c ∈ Nat.toDigits 10 i, decide (c ≠ '-') = true := fun c hc => by
    have hd := Nat.isDigit_of_mem_toDigits (by decide) (by decide) hc
    exact decide_eq_true fun heq => absurd (heq ▸ hd) (by decide)
  have rest : (pathChars path).takeWhile (· ≠ '-') = [] := by
    cases path <;> rfl
  rw [List.takeWhile_append_of_pos digits, rest, List.append_nil]

theorem toDigits_injective {i j : Nat} (h : Nat.toDigits 10 i = Nat.toDigits 10 j) : i = j := by
  have h := congrArg (Nat.ofDigitChars 10 · 0) h
  simpa only [Nat.ofDigitChars_ten_toDigits] using h

theorem pathChars_injective : ∀ {p q : List Nat}, pathChars p = pathChars q → p = q
  | [], [], _ => rfl
  | [], _ :: _, h => nomatch h
  | _ :: _, [], h => nomatch h
  | i :: p, j :: q, h => by
    have h : Nat.toDigits 10 i ++ pathChars p = Nat.toDigits 10 j ++ pathChars q :=
      (List.cons.inj h).2
    have hdigits : Nat.toDigits 10 i = Nat.toDigits 10 j := by
      rw [← takeWhile_digits i p, h, takeWhile_digits]
    rw [hdigits] at h
    rw [toDigits_injective hdigits, pathChars_injective (List.append_cancel_left h)]

/-- Different paths lead to different ids. -/
theorem idBelow_injective (id : String) : Function.Injective (idBelow id) := fun p q h => by
  have h := congrArg String.toList h
  rw [toList_idBelow, toList_idBelow] at h
  exact pathChars_injective (List.append_cancel_left h)

theorem childId_ne_empty (id : String) (index : Nat) : childId id index ≠ "" := by
  simp [childId]

theorem zoneName_injective : Function.Injective zoneName := fun _ _ h =>
  String.append_left_inj _ |>.1 h

end EmailStudio.Editor
