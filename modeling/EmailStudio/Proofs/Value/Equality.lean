import EmailStudio.Value.Basic

/-!
# Deciding equality of values

Two values are compared constructor by constructor; the fields of objects are compared in order.
-/

namespace EmailStudio.Value

mutual

def beq : Value → Value → Bool
  | null, null => true
  | bool b, bool c => b == c
  | int n, int m => n == m
  | float x, float y => x == y
  | text s, text t => s == t
  | list items, list others => beqItems items others
  | object fields, object others => beqFields fields others
  | _, _ => false

def beqItems : List Value → List Value → Bool
  | [], [] => true
  | v :: rest, w :: others => beq v w && beqItems rest others
  | _, _ => false

def beqFields : Fields → Fields → Bool
  | [], [] => true
  | (k, v) :: rest, (l, w) :: others => k == l && beq v w && beqFields rest others
  | _, _ => false

end

mutual

theorem beq_iff : ∀ {v w : Value}, v.beq w = true ↔ v = w
  | null, w => by cases w <;> simp [beq]
  | bool b, w => by cases w <;> simp [beq]
  | int n, w => by cases w <;> simp [beq]
  | float x, w => by cases w <;> simp [beq]
  | text s, w => by cases w <;> simp [beq]
  | list items, w => by cases w <;> simp [beq, beqItems_iff]
  | object fields, w => by cases w <;> simp [beq, beqFields_iff]

theorem beqItems_iff : ∀ {vs ws : List Value}, beqItems vs ws = true ↔ vs = ws
  | [], ws => by cases ws <;> simp [beqItems]
  | v :: rest, ws => by cases ws <;> simp [beqItems, beq_iff, beqItems_iff]

theorem beqFields_iff : ∀ {fields others : Fields}, beqFields fields others = true ↔ fields = others
  | [], others => by cases others <;> simp [beqFields]
  | (k, v) :: rest, others => by
    cases others <;> simp [beqFields, beq_iff, beqFields_iff, Prod.ext_iff]

end

instance : DecidableEq Value := fun _ _ => decidable_of_iff _ beq_iff

end EmailStudio.Value
