import EmailStudio.Text.Case
import Mathlib.Tactic.SplitIfs

/-!
# Lower case of Latin letters

The lower case of a text holds no capital Latin letter, nor the one other character that has a Latin
letter as its lower case, the sign of the kelvin. So by `Text.lower_lower`, if lowering a text once
more gives nothing but basic characters, it changes nothing.
-/

namespace EmailStudio.Text

/-! ## Runs of the table -/

/-- A character, other than the letter itself, that has a basic Latin letter as its lower case. -/
def isLatinCapital (c : Char) : Bool :=
  ('A' ≤ c && c ≤ 'Z') || c = '\u212A'

/-- A run moves capital Latin letters or the sign of the kelvin, or else it moves characters to
others that are neither basic nor that sign. -/
def CaseRun.leavesLatin (r : CaseRun) : Bool :=
  r.last < 128 || (r.first = 0x212A && r.last = 0x212A && r.offset = -8383) ||
    (128 ≤ r.first + r.offset && r.last + r.offset < 0xD800 &&
      (r.last + r.offset < 0x212A || 0x212A < r.first + r.offset)) ||
    (0xE000 ≤ r.first + r.offset && r.last + r.offset < 0x110000)

theorem leavesLatin_of_mem : ∀ r ∈ lowerRuns, r.leavesLatin = true := by
  decide +kernel

theorem toNat_ofNat_of_lt {n : Nat} (h : n < 0xD800 ∨ (0xE000 ≤ n ∧ n < 0x110000)) :
    (Char.ofNat n).toNat = n := by
  have hvalid : n.isValidChar := by
    unfold Nat.isValidChar
    omega
  rw [Char.ofNat, dif_pos hvalid]
  rfl

theorem isLatinCapital_of_le {c : Char} (hc : 128 ≤ c.toNat) (hsign : c.toNat ≠ 0x212A) :
    isLatinCapital c = false := by
  have hletter : ¬c ≤ 'Z' := by
    rw [Char.le_def, UInt32.le_iff_toNat_le]
    show ¬c.toNat ≤ 90
    omega
  have hkelvin : c ≠ '\u212A' := fun heq => hsign (heq ▸ rfl)
  simp [isLatinCapital, hletter, hkelvin]

/-- Behind the basic range, a run gives `k` for the sign of the kelvin and otherwise stays there. -/
theorem CaseRun.of_apply {r : CaseRun} {c d : Char} (hr : r.leavesLatin = true)
    (h : r.apply? c = some d) (hc : 128 ≤ c.toNat) :
    isLatinCapital c = true ∧ d = 'k' ∨ isLatinCapital d = false ∧ 128 ≤ d.toNat := by
  unfold CaseRun.apply? at h
  split_ifs at h with hin
  cases h
  obtain ⟨hfirst, hlast, -⟩ := hin
  have moved {n : Nat} (hn : n < 0xD800 ∨ (0xE000 ≤ n ∧ n < 0x110000)) (hbasic : 128 ≤ n)
      (hsign : n ≠ 0x212A) :
      isLatinCapital (Char.ofNat n) = false ∧ 128 ≤ (Char.ofNat n).toNat := by
    have htoNat := toNat_ofNat_of_lt hn
    have hle : 128 ≤ (Char.ofNat n).toNat := by rw [htoNat]; exact hbasic
    exact ⟨isLatinCapital_of_le hle (by rw [htoNat]; exact hsign), hle⟩
  simp only [leavesLatin, Bool.or_eq_true, Bool.and_eq_true, decide_eq_true_eq] at hr
  obtain ((hbasic | ⟨⟨h1, h2⟩, h3⟩) | ⟨⟨h1, h2⟩, h3⟩) | ⟨h1, h2⟩ := hr
  · omega
  · have hkelvin : c = '\u212A' := Char.toNat_inj.1 (by show c.toNat = 0x212A; omega)
    rw [hkelvin, h3]
    exact .inl ⟨by decide, by decide⟩
  · exact .inr (moved (by omega) (by omega) (by omega))
  · exact .inr (moved (by omega) (by omega) (by omega))

/-! ## Characters -/

/-- The lower case of a character behind the basic range does not lie in it, except that of the sign
of the kelvin. -/
theorem lowerChar_of_le (before : List Char) {c : Char} (after : List Char)
    (hc : 128 ≤ c.toNat) :
    (∃ d ∈ lowerChar before c after, 128 ≤ d.toNat) ∧
        (∀ d ∈ lowerChar before c after, isLatinCapital d = false) ∨
      isLatinCapital c = true ∧ lowerChar before c after = ['k'] := by
  have single {d : Char} (h : 128 ≤ d.toNat) (hd : isLatinCapital d = false) :
      (∃ e ∈ [d], 128 ≤ e.toNat) ∧ ∀ e ∈ [d], isLatinCapital e = false :=
    ⟨⟨d, List.mem_singleton_self d, h⟩, List.forall_mem_singleton.2 hd⟩
  unfold lowerChar
  split_ifs with hsigma hfinal hdotted
  · exact .inl (single (by decide) (by decide))
  · exact .inl (single (by decide) (by decide))
  · exact .inl ⟨⟨'\u0307', by simp, by decide⟩,
      List.forall_mem_cons.2 ⟨by decide, List.forall_mem_singleton.2 (by decide)⟩⟩
  · omega
  · cases hfound : lowerRuns.findSome? fun r => r.apply? c with
    | none =>
      refine .inl (single hc (isLatinCapital_of_le hc fun hsign => ?_))
      have hkelvin : (lowerRuns.findSome? fun r => r.apply? '\u212A').isSome = true := by
        decide +kernel
      have hchar : c = '\u212A' := Char.toNat_inj.1 hsign
      rw [← hchar, hfound] at hkelvin
      cases hkelvin
    | some d =>
      obtain ⟨r, hr, happly⟩ := List.exists_of_findSome?_eq_some hfound
      obtain ⟨hcapital, rfl⟩ | ⟨hd, hle⟩ :=
        CaseRun.of_apply (leavesLatin_of_mem r hr) happly hc
      · exact .inr ⟨hcapital, rfl⟩
      · exact .inl (single hle hd)

/-- A basic character has a basic lower case that is no capital. -/
theorem lowerChar_of_lt (before : List Char) {c : Char} (after : List Char) (hc : c.toNat < 128) :
    lowerChar before c after = [c.toLower] ∧ isLatinCapital c.toLower = false ∧
      (isLatinCapital c = false → c.toLower = c) := by
  have hall : ∀ n < 128, isLatinCapital (Char.ofNat n).toLower = false ∧
      (isLatinCapital (Char.ofNat n) = false → (Char.ofNat n).toLower = Char.ofNat n) := by
    decide +kernel
  have hchar := hall c.toNat hc
  rw [Char.ofNat_toNat] at hchar
  refine ⟨?_, hchar⟩
  have hsigma : c ≠ 'Σ' := fun heq => absurd hc (heq ▸ by decide)
  have hdotted : c ≠ 'İ' := fun heq => absurd hc (heq ▸ by decide)
  rw [lowerChar, if_neg hsigma, if_neg hdotted, if_pos hc]

theorem isLatinCapital_of_mem_lowerChar {before after : List Char} {c d : Char}
    (h : d ∈ lowerChar before c after) : isLatinCapital d = false := by
  by_cases hc : c.toNat < 128
  · obtain ⟨hlower, hcapital, -⟩ := lowerChar_of_lt before after hc
    rw [hlower, List.mem_singleton] at h
    exact h ▸ hcapital
  · obtain ⟨-, hnone⟩ | ⟨-, hk⟩ := lowerChar_of_le before after (Nat.le_of_not_lt hc)
    · exact hnone d h
    · rw [hk, List.mem_singleton] at h
      exact h ▸ by decide

/-- A character that is no capital and has a basic lower case is its own lower case. -/
theorem lowerChar_eq_self {before after : List Char} {c : Char} (hcapital : isLatinCapital c = false)
    (hbasic : ∀ d ∈ lowerChar before c after, d.toNat < 128) : lowerChar before c after = [c] := by
  by_cases hc : c.toNat < 128
  · obtain ⟨hlower, -, hsame⟩ := lowerChar_of_lt before after hc
    rw [hlower, hsame hcapital]
  · obtain ⟨⟨d, hd, hle⟩, -⟩ | ⟨htrue, -⟩ := lowerChar_of_le before after (Nat.le_of_not_lt hc)
    · exact absurd (hbasic d hd) (Nat.not_lt.2 hle)
    · rw [hcapital] at htrue
      cases htrue

/-! ## Texts -/

variable {f : List Char → Char → List Char → List Char}

theorem mem_mapInContext {acc before cs : List Char} {d : Char} :
    d ∈ mapInContext f acc before cs →
      d ∈ acc ∨ ∃ before c after, d ∈ f before c after := by
  induction cs generalizing acc before with
  | nil =>
    intro h
    exact .inl (List.mem_reverse.1 h)
  | cons c cs ih =>
    intro h
    rw [mapInContext] at h
    refine (ih h).elim (fun hacc => ?_) .inr
    rcases List.mem_append.1 hacc with hd | hd
    · exact .inr ⟨before, c, cs, List.mem_reverse.1 hd⟩
    · exact .inl hd

theorem mem_mapInContext_of_mem {acc before cs : List Char} {d : Char} (h : d ∈ acc) :
    d ∈ mapInContext f acc before cs := by
  induction cs generalizing acc before with
  | nil => exact List.mem_reverse.2 h
  | cons c cs ih =>
    rw [mapInContext]
    exact ih (List.mem_append_right _ h)

/-- What a character of a text becomes in any context is in what the text becomes. -/
theorem mem_mapInContext_of_forall {acc before cs : List Char} {c d : Char} (hc : c ∈ cs)
    (h : ∀ before after, d ∈ f before c after) : d ∈ mapInContext f acc before cs := by
  induction cs generalizing acc before with
  | nil => exact absurd hc List.not_mem_nil
  | cons b cs ih =>
    rw [mapInContext]
    rcases List.mem_cons.1 hc with rfl | hc
    · apply mem_mapInContext_of_mem
      exact List.mem_append_left _ (List.mem_reverse.2 (h before cs))
    · exact ih hc

/-- A mapping of characters that keeps every one of them keeps a text. -/
theorem mapInContext_eq_self {P : Char → Prop} {acc before cs : List Char}
    (hself : ∀ c ∈ cs, ∀ before after, (∀ d ∈ f before c after, P d) → f before c after = [c])
    (h : ∀ d ∈ mapInContext f acc before cs, P d) :
    mapInContext f acc before cs = acc.reverse ++ cs := by
  induction cs generalizing acc before with
  | nil => rw [mapInContext, List.append_nil]
  | cons c cs ih =>
    obtain ⟨hc, hself⟩ := List.forall_mem_cons.1 hself
    rw [mapInContext] at h ⊢
    have hsame : f before c cs = [c] := hc before cs fun d hd =>
      h d (mem_mapInContext_of_mem (List.mem_append_left _ (List.mem_reverse.2 hd)))
    rw [hsame] at h ⊢
    rw [ih hself h, List.reverse_append, List.reverse_reverse, List.append_assoc,
      List.singleton_append]

/-- What is in lower case stays as it is if it is basic text in lower case. -/
theorem lower_lower {s : String} (h : ∀ c ∈ (lower (lower s)).toList, c.toNat < 128) :
    lower (lower s) = lower s := by
  have hcapital : ∀ c ∈ (lower s).toList, isLatinCapital c = false := by
    intro c hc
    rw [lower, String.toList_ofList] at hc
    obtain hnil | ⟨before, b, after, hb⟩ := mem_mapInContext hc
    · cases hnil
    · exact isLatinCapital_of_mem_lowerChar hb
  generalize lower s = t at h hcapital
  rw [lower, String.toList_ofList] at h
  rw [lower, mapInContext_eq_self (fun c hc before after => lowerChar_eq_self (hcapital c hc)) h]
  exact String.ofList_toList

/-- A basic character that is no capital stays in a text. -/
theorem mem_lower_of_mem {s : String} {c : Char} (h : c ∈ s.toList) (hbasic : c.toNat < 128)
    (hcapital : isLatinCapital c = false) : c ∈ (lower s).toList := by
  rw [lower, String.toList_ofList]
  apply mem_mapInContext_of_forall h
  intro before after
  obtain ⟨hlower, -, hsame⟩ := lowerChar_of_lt before after hbasic
  rw [hlower, hsame hcapital]
  exact List.mem_singleton_self c

end EmailStudio.Text
