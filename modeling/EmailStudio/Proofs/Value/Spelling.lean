import EmailStudio.Value.Writer
import Mathlib.Tactic.SplitIfs

/-!
# The characters of documents

The text of a document is put together from many texts. `Value.spelling` lists its characters
directly, and by `Value.toList_write` they are the same, so that what is written can be followed
character by character.
-/

namespace EmailStudio

namespace Text

/-- The characters that stand for one inside a text of a document. -/
def escapedChars (c : Char) : List Char :=
  if c = '"' ∨ c = '\\' ∨ c.toNat < 0x20 then (escapeChar c).toList else [c]

theorem toList_escapeChar (c : Char) : (escapeChar c).toList = escapedChars c := by
  unfold escapedChars
  split_ifs with h
  · rfl
  · obtain ⟨hquote, h⟩ := not_or.1 h
    obtain ⟨hslash, hcontrol⟩ := not_or.1 h
    have hne (d : Char) (hd : d.toNat < 0x20) : c ≠ d := fun heq => hcontrol (heq ▸ hd)
    rw [escapeChar, if_neg hquote, if_neg hslash, if_neg (hne '\n' (by decide)),
      if_neg (hne '\r' (by decide)), if_neg (hne '\t' (by decide)),
      if_neg (hne '\x08' (by decide)), if_neg (hne '\x0c' (by decide)), if_neg hcontrol,
      String.toList_singleton]

/-- The characters of a text of a document. -/
def spelling (s : String) : List Char :=
  '"' :: s.toList.flatMap escapedChars ++ ['"']

theorem toList_enclose (s : String) : (enclose s).toList = spelling s := by
  rw [enclose, String.toList_append, String.toList_append, String.toList_join, List.flatMap_map,
    spelling]
  simp only [toList_escapeChar]
  rfl

end Text

namespace Value

mutual

/-- The characters of the text of a document. -/
def spelling : Value → List Char
  | text s => Text.spelling s
  | list items => '[' :: [','].intercalate (spellingItems items) ++ [']']
  | object fields => '\x7b' :: [','].intercalate (spellingFields fields) ++ ['\x7d']
  | v => v.write.toList

def spellingItems : List Value → List (List Char)
  | [] => []
  | v :: rest => spelling v :: spellingItems rest

def spellingFields : List (String × Value) → List (List Char)
  | [] => []
  | (k, v) :: rest => (Text.spelling k ++ ':' :: spelling v) :: spellingFields rest

end

mutual

theorem toList_write : ∀ v : Value, v.write.toList = v.spelling
  | null | bool _ | int _ | float _ => by rw [spelling] <;> intros <;> contradiction
  | text s => Text.toList_enclose s
  | list items => by
    rw [write, spelling, ← map_toList_writeItems items, String.toList_append, String.toList_append,
      String.toList_intercalate]
    rfl
  | object fields => by
    rw [write, spelling, ← map_toList_writeFields fields, String.toList_append,
      String.toList_append, String.toList_intercalate]
    rfl

theorem map_toList_writeItems : ∀ items : List Value,
    (writeItems items).map String.toList = spellingItems items
  | [] => rfl
  | v :: rest => by
    rw [writeItems, List.map_cons, toList_write v, map_toList_writeItems rest, spellingItems]

theorem map_toList_writeFields : ∀ fields : List (String × Value),
    (writeFields fields).map String.toList = spellingFields fields
  | [] => rfl
  | (k, v) :: rest => by
    rw [writeFields, List.map_cons, String.toList_append, String.toList_append,
      Text.toList_enclose, toList_write v, map_toList_writeFields rest, spellingFields,
      List.append_assoc]
    rfl

end

end Value

end EmailStudio
