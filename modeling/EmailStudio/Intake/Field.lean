import EmailStudio.Intake.Number

/-!
# Fields of records

How the fields of a record are read: texts with bounds on their length, choices, lists, objects, and
fields that may be null or left out.
-/

namespace EmailStudio.Intake

variable {α : Type}

def text : Value → Reading String
  | .text s => .good s
  | _ => .bad .notText

/-- A text whose length lies within bounds. -/
def textOfLength (low high : Option Nat) (v : Value) : Reading String :=
  (text v).andThen fun s =>
    if low.any (s.length < ·) then .bad .tooShort
    else if high.any (· < s.length) then .bad .tooLong
    else .good s

/-- One of some named things. -/
def choice (ofName? : String → Option α) : Value → Reading α
  | .text s =>
    match ofName? s with
    | some a => .good a
    | none => .bad .notOneOf
  | _ => .bad .notOneOf

/-- Each item of a list, with its index in the place of what is wrong with it. -/
def eachItem (read : Value → Reading α) (index : Nat) : List Value → Reading (List α)
  | [] => .good []
  | v :: rest =>
    (·:: ·) <$> (read v).within (.index index) <*> eachItem read (index + 1) rest

def listOf (read : Value → Reading α) : Value → Reading (List α)
  | .list items => eachItem read 0 items
  | _ => .bad .notList

def object : Value → Reading Fields
  | .object fields => .good fields
  | _ => .bad .notObject

/-- Null, or what is read otherwise. -/
def nullable (read : Value → Reading α) : Value → Reading (Option α)
  | .null => .good none
  | v => some <$> read v

/-- A field that may be left out. -/
def optional (key : String) (default : α) (read : Value → Reading α) (fields : Fields) :
    Reading α :=
  match fields.get? key with
  | none => .good default
  | some v => (read v).within (.name key)

/-- A field that must be there. -/
def required (key : String) (read : Value → Reading α) (fields : Fields) : Reading α :=
  match fields.get? key with
  | none => Reading.within (.name key) (.bad .missing)
  | some v => (read v).within (.name key)

end EmailStudio.Intake
