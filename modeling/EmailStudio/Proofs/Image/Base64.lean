import EmailStudio.Image.Base64
import EmailStudio.Text.Blank
import Mathlib.Tactic.SplitIfs

/-!
# Writing bytes in base64

The text of bytes is the digits of their sextets, with equals signs up to a full group of four. By
`Base64.decode?_encode` some bytes are what their text stands for, whether the last group is full or
lacks one character or two. No character of a text in base64 is a blank, a colon or a comma.
-/

namespace EmailStudio.Base64

/-! ## Digits -/

theorem digit?_digitChar {n : Nat} (h : n < 64) : digit? (digitChar n) = some n := by
  have hall : ∀ n < 64, digit? (digitChar n) = some n := by decide
  exact hall n h

theorem filterMap_digit? {sextets : List Nat} (h : ∀ n ∈ sextets, n < 64) :
    (sextets.map digitChar).filterMap digit? = sextets := by
  induction sextets with
  | nil => rfl
  | cons n rest ih =>
    obtain ⟨hn, h⟩ := List.forall_mem_cons.1 h
    rw [List.map_cons, List.filterMap_cons_some (digit?_digitChar hn), ih h]

theorem isSome_digit?_of_mem {sextets : List Nat} (h : ∀ n ∈ sextets, n < 64) :
    ∀ c ∈ sextets.map digitChar, (digit? c).isSome = true := by
  intro c hc
  obtain ⟨n, hn, rfl⟩ := List.mem_map.1 hc
  rw [digit?_digitChar (h n hn)]
  rfl

/-- Digits and as many equals signs as fit stand for the bytes of the digits. -/
theorem decode?_digits {sextets : List Nat} {pads : Nat} (h : ∀ n ∈ sextets, n < 64)
    (hpads : padsFit sextets.length pads = true) :
    decode? (sextets.map digitChar ++ List.replicate pads '=') = some (bytesFrom [] sextets) := by
  have hstop : (List.replicate pads '=').takeWhile (fun c => (digit? c).isSome) = [] := by
    cases pads <;> rfl
  have hdigits : (sextets.map digitChar ++ List.replicate pads '=').takeWhile
      (fun c => (digit? c).isSome) = sextets.map digitChar := by
    rw [List.takeWhile_append_of_pos (isSome_digit?_of_mem h), hstop, List.append_nil]
  have hmarks : (List.replicate pads '=').all (· = '=') = true := by
    rw [List.all_replicate]
    simp
  unfold decode?
  dsimp only
  rw [hdigits, List.drop_left, List.length_map, List.length_replicate, hpads, hmarks,
    filterMap_digit? h]
  rfl

/-! ## Sextets -/

/-- The bits of bytes in groups of six, the last one filled up. -/
def sextets : List UInt8 → List Nat
  | a :: b :: c :: rest =>
    a.toNat / 4 :: (a.toNat % 4 * 16 + b.toNat / 16) :: (b.toNat % 16 * 4 + c.toNat / 64)
      :: c.toNat % 64 :: sextets rest
  | [a, b] => [a.toNat / 4, a.toNat % 4 * 16 + b.toNat / 16, b.toNat % 16 * 4]
  | [a] => [a.toNat / 4, a.toNat % 4 * 16]
  | [] => []

/-- How many equals signs stand behind the digits of a number of bytes. -/
def padsFor (size : Nat) : Nat :=
  (3 - size % 3) % 3

theorem sextets_lt (bytes : List UInt8) : ∀ n ∈ sextets bytes, n < 64 := by
  have hlt (a : UInt8) : a.toNat < 256 := a.toNat_lt
  fun_induction sextets bytes with
  | case1 a b c rest ih =>
    have ha := hlt a
    have hb := hlt b
    have hc := hlt c
    exact List.forall_mem_cons.2 ⟨by omega, List.forall_mem_cons.2 ⟨by omega,
      List.forall_mem_cons.2 ⟨by omega, List.forall_mem_cons.2 ⟨by omega, ih⟩⟩⟩⟩
  | case2 a b =>
    have ha := hlt a
    have hb := hlt b
    exact List.forall_mem_cons.2 ⟨by omega, List.forall_mem_cons.2 ⟨by omega,
      List.forall_mem_singleton.2 (by omega)⟩⟩
  | case3 a =>
    have ha := hlt a
    exact List.forall_mem_cons.2 ⟨by omega, List.forall_mem_singleton.2 (by omega)⟩
  | case4 => simp

theorem length_sextets (bytes : List UInt8) :
    (sextets bytes).length = (bytes.length * 4 + 2) / 3 := by
  fun_induction sextets bytes with
  | case1 a b c rest ih =>
    simp only [List.length_cons, ih]
    omega
  | case2 => simp
  | case3 => simp
  | case4 => rfl

theorem encode_eq (bytes : List UInt8) : encode bytes =
    (sextets bytes).map digitChar ++ List.replicate (padsFor bytes.length) '=' := by
  fun_induction sextets bytes with
  | case1 a b c rest ih =>
    have hpads : padsFor (a :: b :: c :: rest).length = padsFor rest.length := by
      simp only [padsFor, List.length_cons]
      omega
    rw [encode, ih, hpads]
    rfl
  | case2 | case3 | case4 => rfl

theorem padsFit_padsFor {bytes : List UInt8} (h : bytes ≠ []) :
    padsFit (sextets bytes).length (padsFor bytes.length) = true := by
  have hpos : 0 < bytes.length := List.length_pos_iff.2 h
  rw [length_sextets, padsFor]
  generalize bytes.length = size at hpos
  obtain ⟨groups, hsize | hsize | hsize⟩ : ∃ groups, size = 3 * groups ∨ size = 3 * groups + 1 ∨
      size = 3 * groups + 2 := ⟨size / 3, by omega⟩
  · have hmod : (size * 4 + 2) / 3 % 4 = 0 := by omega
    have hdigits : 0 < (size * 4 + 2) / 3 := by omega
    simp [padsFit, hmod, hdigits]
  · have hmod : (size * 4 + 2) / 3 % 4 = 2 := by omega
    have hpads : (3 - size % 3) % 3 = 2 := by omega
    simp [padsFit, hmod, hpads]
  · have hmod : (size * 4 + 2) / 3 % 4 = 3 := by omega
    have hpads : (3 - size % 3) % 3 = 1 := by omega
    simp [padsFit, hmod, hpads]

/-! ## Bytes -/

theorem ofNat_eq_of_toNat {a : UInt8} {n : Nat} (h : n = a.toNat) : UInt8.ofNat n = a := by
  rw [h, UInt8.ofNat_toNat]

theorem bytesFrom_sextets (before bytes : List UInt8) :
    bytesFrom before (sextets bytes) = before.reverse ++ bytes := by
  have hlt (a : UInt8) : a.toNat < 256 := a.toNat_lt
  fun_induction sextets bytes generalizing before with
  | case1 a b c rest ih =>
    have ha := hlt a
    have hb := hlt b
    have hc := hlt c
    rw [bytesFrom, ih, ofNat_eq_of_toNat (a := c) (by omega),
      ofNat_eq_of_toNat (a := b) (by omega), ofNat_eq_of_toNat (a := a) (by omega)]
    simp only [List.reverse_cons, List.append_assoc, List.cons_append, List.nil_append]
  | case2 a b =>
    have ha := hlt a
    have hb := hlt b
    rw [bytesFrom, ofNat_eq_of_toNat (a := b) (by omega), ofNat_eq_of_toNat (a := a) (by omega)]
    simp only [List.reverse_cons, List.append_assoc, List.cons_append, List.nil_append]
  | case3 a =>
    have ha := hlt a
    rw [bytesFrom, ofNat_eq_of_toNat (a := a) (by omega), List.reverse_cons]
  | case4 => simp [bytesFrom]

/-- Bytes are what their text stands for. -/
theorem decode?_encode {bytes : List UInt8} (h : bytes ≠ []) :
    decode? (encode bytes) = some bytes := by
  rw [encode_eq, decode?_digits (sextets_lt bytes) (padsFit_padsFor h), bytesFrom_sextets]
  rfl

/-! ## Characters of a text -/

theorem mem_encode {bytes : List UInt8} {c : Char} (h : c ∈ encode bytes) :
    (∃ n < 64, c = digitChar n) ∨ c = '=' := by
  rw [encode_eq] at h
  rcases List.mem_append.1 h with h | h
  · obtain ⟨n, hn, rfl⟩ := List.mem_map.1 h
    exact .inl ⟨n, sextets_lt bytes n hn, rfl⟩
  · exact .inr (List.eq_of_mem_replicate h)

theorem not_isBlank_of_mem_encode {bytes : List UInt8} {c : Char} (h : c ∈ encode bytes) :
    Text.isBlank c = false ∧ c ≠ ':' := by
  have hall : ∀ n < 64, Text.isBlank (digitChar n) = false ∧ digitChar n ≠ ':' := by
    decide +kernel
  obtain ⟨n, hn, rfl⟩ | rfl := mem_encode h
  · exact hall n hn
  · decide

theorem encode_ne_nil {bytes : List UInt8} (h : bytes ≠ []) : encode bytes ≠ [] := by
  intro hnil
  have hsome := decode?_encode h
  rw [hnil] at hsome
  cases hsome

end EmailStudio.Base64
