import EmailStudio.Intake.Field
import EmailStudio.Proofs.Outcome

/-!
# Reading records

A record is good exactly if every field of it is. The rules here take a reading apart: when readings
that are put together give a result, and what is known of a field that was read.
-/

namespace EmailStudio

namespace Reading

variable {α β γ : Type}

theorem map_eq_ok_iff {f : α → β} {x : Reading α} {b : β} :
    (f <$> x).result = .ok b ↔ ∃ a, x.result = .ok a ∧ f a = b :=
  Outcome.map_eq_ok_iff

theorem seq_eq_ok_iff {f : Reading (α → β)} {x : Reading α} {b : β} :
    (f <*> x).result = .ok b ↔ ∃ g, f.result = .ok g ∧ ∃ a, x.result = .ok a ∧ g a = b := by
  show (Reading.seq f fun _ => x).result = _ ↔ _
  unfold Reading.seq
  cases f.result <;> cases x.result <;> simp

theorem map_induction {f : α → β} {x : Reading α} {P : β → Prop}
    (h : ∀ a, x.result = .ok a → P (f a)) (b : β) (hb : (f <$> x).result = .ok b) : P b := by
  obtain ⟨a, ha, rfl⟩ := map_eq_ok_iff.1 hb
  exact h a ha

/-- What holds of all that the two parts give together holds of what they are read as. -/
theorem seq_induction {f : Reading (α → β)} {x : Reading α} {P : β → Prop}
    (h : ∀ g, f.result = .ok g → ∀ a, x.result = .ok a → P (g a)) (b : β)
    (hb : (f <*> x).result = .ok b) : P b := by
  obtain ⟨g, hg, a, ha, rfl⟩ := seq_eq_ok_iff.1 hb
  exact h g hg a ha

theorem result_map_of_ok {f : α → β} {x : Reading α} {a : α} (h : x.result = .ok a) :
    (f <$> x).result = .ok (f a) :=
  map_eq_ok_iff.2 ⟨a, h, rfl⟩

theorem result_seq_of_ok {f : Reading (α → β)} {x : Reading α} {g : α → β} {a : α}
    (hf : f.result = .ok g) (hx : x.result = .ok a) : (f <*> x).result = .ok (g a) :=
  seq_eq_ok_iff.2 ⟨g, hf, a, hx, rfl⟩

/-- The first part is good: what comes of both is what comes of the second. -/
theorem result_seq_of_left {f : Reading (α → β)} {x : Reading α} {g : α → β}
    (hf : f.result = .ok g) : (f <*> x).result = x.result.map g := by
  show (Reading.seq f fun _ => x).result = _
  rw [Reading.seq, hf]
  cases x.result <;> rfl

/-- The second part is good: what comes of both is what comes of the first. -/
theorem result_seq_of_right {f : Reading (β → γ)} {x : Reading β} {r : Except (List IntakeIssue) α}
    {g : α → β → γ} {b : β} (hf : f.result = r.map g) (hx : x.result = .ok b) :
    (f <*> x).result = r.map fun a => g a b := by
  show (Reading.seq f fun _ => x).result = _
  rw [Reading.seq, hf, hx]
  cases r <;> rfl

theorem andThen_eq_ok_iff {x : Reading α} {f : α → Reading β} {b : β} :
    (x.andThen f).result = .ok b ↔ ∃ a, x.result = .ok a ∧ (f a).result = .ok b := by
  unfold andThen
  cases x.result <;> simp

theorem within_eq_ok_iff {step : Step} {x : Reading α} {a : α} :
    (x.within step).result = .ok a ↔ x.result = .ok a :=
  Outcome.mapError_eq_ok_iff

end Reading

namespace Intake

variable {α : Type} {v : Value}

theorem optional_congr {key : String} {fields others : Fields}
    (h : Fields.get? key others = Fields.get? key fields) (default : α)
    (read : Value → Reading α) :
    optional key default read others = optional key default read fields := by
  rw [optional, h, optional]

/-- What holds of the default and of all that can be read holds of an optional field. -/
theorem optional_induction {key : String} {default : α} {read : Value → Reading α}
    {fields : Fields} {a : α} {P : α → Prop}
    (h : (optional key default read fields).result = .ok a) (hdefault : P default)
    (hread : ∀ v, (read v).result = .ok a → P a) : P a := by
  unfold optional at h
  split at h
  · cases h
    exact hdefault
  · exact hread _ (Reading.within_eq_ok_iff.1 h)

theorem text_eq_ok_iff {s : String} : (text v).result = .ok s ↔ v = .text s := by
  cases v <;> simp [text, Reading.good, Reading.bad]

theorem length_of_textOfLength {low high : Nat} {s : String}
    (h : (textOfLength (some low) (some high) v).result = .ok s) :
    low ≤ s.length ∧ s.length ≤ high := by
  obtain ⟨t, -, h⟩ := Reading.andThen_eq_ok_iff.1 h
  simp only [Option.any_some, decide_eq_true_eq] at h
  split_ifs at h with hlow hhigh
  · cases h
  · cases h
  · cases h
    exact ⟨Nat.le_of_not_lt hlow, Nat.le_of_not_lt hhigh⟩

theorem le_of_integerBetween {low n : Int} {high : Option Int}
    (h : (integerBetween (some low) high v).result = .ok n) :
    low ≤ n ∧ ∀ bound ∈ high, n ≤ bound := by
  obtain ⟨m, -, h⟩ := Reading.andThen_eq_ok_iff.1 h
  simp only [Option.any_some, decide_eq_true_eq] at h
  split_ifs at h with hlow hhigh
  · cases h
  · cases h
  · cases h
    refine ⟨Int.not_lt.1 hlow, fun bound hbound => Int.not_lt.1 fun hlt => hhigh ?_⟩
    rw [Option.mem_def.1 hbound, Option.any_some, decide_eq_true hlt]

theorem nullable_eq_ok_iff {read : Value → Reading α} {a : α} :
    (nullable read v).result = .ok (some a) ↔ v ≠ .null ∧ (read v).result = .ok a := by
  cases v <;> simp [nullable, Reading.map_eq_ok_iff, Reading.good]

end Intake

end EmailStudio
