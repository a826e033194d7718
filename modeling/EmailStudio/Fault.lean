import EmailStudio.Value.Text

/-!
# Faults

What can go wrong when a value is used as a part of a document that it is not. Each constructor is
one cause; `Fault.message?` words those that are reported with a text.
-/

namespace EmailStudio

/-- Why a value could not be used. -/
inductive Fault where
  /-- A value without fields was asked for one. -/
  | noFields
  /-- A text was needed. -/
  | notText
  /-- A list was needed. -/
  | notList
  /-- An object was needed. -/
  | notObject
  /-- A list or an object cannot be looked up. -/
  | notKey
  /-- A number was needed. -/
  | notNumber
  /-- A block does not say what kind it is. -/
  | kindMissing
  /-- A block is of no known kind. -/
  | kindUnknown (kind : Value)
  /-- A text is no integer. -/
  | badInteger (s : String)
  /-- A text has more digits than are read. -/
  | tooManyDigits (count : Nat)
  /-- What is not a number has no whole part. -/
  | wholeOfNaN
  /-- A number is too large. -/
  | tooLarge
  /-- Blocks were to be spread over no columns. -/
  | noColumns
  /-- Zones hold each other in a circle. -/
  | endlessZones

namespace Fault

/-- The wording of the faults that have one. -/
def message? : Fault → Option String
  | kindUnknown v => some (v.quoted ++ " is not a valid BlockType")
  | badInteger s =>
    some ("invalid literal for int() with base 10: "
      ++ String.ofList ((Text.quote s).toList.take 200))
  | tooManyDigits n =>
    some ("Exceeds the limit (4300 digits) for integer string conversion: value has "
      ++ toString n ++ " digits; use sys.set_int_max_str_digits() to increase the limit")
  | wholeOfNaN => some "cannot convert float NaN to integer"
  | _ => none

end Fault

end EmailStudio
