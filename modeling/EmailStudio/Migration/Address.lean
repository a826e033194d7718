import EmailStudio.Text.Case
import EmailStudio.Value.Text

/-!
# Addresses in a store of options

The address of the database passes through a store of options, in which a percent sign starts a
reference: two percent signs stand for one, and a name in brackets before an `s` stands for the
option of that name. The store takes a text in which every percent sign looks like one of these, and
replaces them when the text is taken out again; what a reference stands for may hold references
itself, down to some depth.
-/

namespace EmailStudio

/-- Why an address does not come back from the store of options. -/
inductive AddressFault where
  /-- A text with a percent sign that starts no reference. The position of the sign is counted
  without the references before it. -/
  | strayPercent (text : String) (position : Nat)
  /-- There is no reference where one was to be replaced. -/
  | malformedReference
  /-- A reference to an option that is not there. -/
  | noSuchOption (name : String)
  /-- References within references go too deep. -/
  | tooDeep
deriving DecidableEq, Repr

namespace AddressFault

/-- The wording for a text that the store does not take. -/
def message? : AddressFault → Option String
  | strayPercent text position =>
    some ("invalid interpolation syntax in " ++ Text.quote text ++ " at position "
      ++ toString position)
  | _ => none

end AddressFault

namespace Address

/-- Splits off a name that has at least one character and is closed by a bracket and an `s`. -/
def takeReference (cs : List Char) : Option (List Char × List Char) :=
  match cs.dropWhile (· ≠ ')') with
  | ')' :: 's' :: rest =>
    let name := cs.takeWhile (· ≠ ')')
    if name.isEmpty then none else some (name, rest)
  | _ => none

theorem takeReference_lt {cs name rest : List Char} (h : takeReference cs = some (name, rest)) :
    rest.length < cs.length := by
  simp only [takeReference] at h
  split at h
  next rest' hdrop =>
    split at h
    · exact nomatch h
    · obtain ⟨-, rfl⟩ := by simpa using h
      have hsuffix := (List.dropWhile_suffix (· ≠ ')') (l := cs)).length_le
      rw [hdrop, List.length_cons, List.length_cons] at hsuffix
      omega
  next => exact nomatch h

/-! ## Putting in -/

/-- Drops all pairs of percent signs. -/
def withoutPairs : List Char → List Char
  | '%' :: '%' :: rest => withoutPairs rest
  | c :: rest => c :: withoutPairs rest
  | [] => []

/-- The position of the first percent sign that is left when references are passed over. -/
def strayPosition? (position : Nat) (cs : List Char) : Option Nat :=
  match cs with
  | [] => none
  | '%' :: '(' :: rest =>
    match _h : takeReference rest with
    | some (_, rest) => strayPosition? position rest
    | none => some position
  | '%' :: _ => some position
  | _ :: rest => strayPosition? (position + 1) rest
termination_by cs.length
decreasing_by
  · have := takeReference_lt _h
    simp only [List.length_cons]
    omega
  · simp

/-- Whether the store takes a text. -/
def accept (s : String) : Except AddressFault Unit :=
  match strayPosition? 0 (withoutPairs s.toList) with
  | some position => .error (.strayPercent s position)
  | none => .ok ()

/-! ## Taking out -/

/-- The options that lie beside the address: the directory of the file of options, and what stands
in that file. -/
def options (directory address : String) : List (String × String) := [
  ("here", directory), ("script_location", "alembic"), ("prepend_sys_path", "src"),
  ("sqlalchemy.url", address)]

/-- How deep references go. -/
def depthLimit : Nat := 10

/-- Replaces pairs of percent signs, and references by what their names in small letters stand
for. -/
def expandWith (value : String → Except AddressFault (List Char)) (cs : List Char) :
    Except AddressFault (List Char) :=
  match cs with
  | [] => .ok []
  | '%' :: '%' :: rest => (expandWith value rest).map ('%' :: ·)
  | '%' :: '(' :: rest =>
    match _h : takeReference rest with
    | some (name, rest) => do
      let v ← value (Text.lower (String.ofList name))
      (expandWith value rest).map (v ++ ·)
    | none => .error .malformedReference
  | '%' :: _ => .error .malformedReference
  | c :: rest => (expandWith value rest).map (c :: ·)
termination_by cs.length
decreasing_by
  · simp only [List.length_cons]
    omega
  · have := takeReference_lt _h
    simp only [List.length_cons]
    omega
  · simp

/-- Replaces references, and those within what they stand for, some levels of them. -/
def expand (options : List (String × String)) : Nat → List Char → Except AddressFault (List Char)
  | 0, _ => .error .tooDeep
  | depth + 1, cs => cs |> expandWith fun name =>
    match options.lookup name with
    | none => .error (.noSuchOption name)
    | some v => if v.toList.contains '%' then expand options depth v.toList else .ok v.toList

/-- The value of an option as it is taken out. -/
def taken (options : List (String × String)) (value : String) : Except AddressFault String :=
  (expand options depthLimit value.toList).map String.ofList

/-- The address that comes back when one is put in and taken out again. -/
def throughStore (directory address : String) : Except AddressFault String := do
  accept address
  taken (options directory address) address

/-- The options that come back when an address is put in and all are taken out. -/
def allThroughStore (directory address : String) :
    Except AddressFault (List (String × String)) := do
  accept address
  (options directory address).mapM fun (name, value) =>
    (taken (options directory address) value).map (name, ·)

end Address

end EmailStudio
