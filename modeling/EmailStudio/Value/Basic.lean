import EmailStudio.Number.Binary64

/-!
# Document values

A `Value` is what a document, a request body or a configuration file holds before anything is known
about it. Integers and binary numbers are kept apart and objects keep the order of their fields.
-/

namespace EmailStudio

/-- A value of a document. -/
inductive Value where
  | null
  | bool (b : Bool)
  | int (n : Int)
  | float (x : Binary64)
  | text (s : String)
  | list (items : List Value)
  | object (fields : List (String × Value))
deriving Inhabited

/-- The fields of an object, in order. -/
abbrev Fields := List (String × Value)

namespace Fields

/-- The value of the first field of a name. -/
def get? (key : String) : Fields → Option Value
  | [] => none
  | (k, v) :: rest => if k = key then some v else get? key rest

/-- The value of a field, null when it is absent. -/
def get (fields : Fields) (key : String) : Value :=
  (fields.get? key).getD .null

def has (fields : Fields) (key : String) : Bool :=
  (fields.get? key).isSome

/-- Gives a field a value: in its place if there is one, else as the last field. -/
def set (key : String) (value : Value) : Fields → Fields
  | [] => [(key, value)]
  | (k, v) :: rest => if k = key then (k, value) :: rest else (k, v) :: set key value rest

def erase (fields : Fields) (key : String) : Fields :=
  fields.filter fun field => field.1 ≠ key

/-- Sets the fields of the second object in the first, one after the other. -/
def update (fields : Fields) (changes : Fields) : Fields :=
  changes.foldl (fun acc field => acc.set field.1 field.2) fields

end Fields

namespace Value

/-- Whether a value counts as given: null, false, zero and what is empty do not. -/
def truthy : Value → Bool
  | null => false
  | bool b => b
  | int n => n ≠ 0
  | float x => !x.isZero
  | text s => !s.isEmpty
  | list items => !items.isEmpty
  | object fields => !fields.isEmpty

/-- A value that counts as given, or a default. -/
def orElse (v : Value) (default : Value) : Value :=
  if v.truthy then v else default

def isNull : Value → Bool
  | null => true
  | _ => false

def isText : Value → Bool
  | text _ => true
  | _ => false

def isBool : Value → Bool
  | bool _ => true
  | _ => false

def isObject : Value → Bool
  | object _ => true
  | _ => false

/-- The fields of an object, none for any other value. -/
def fields : Value → Fields
  | object fields => fields
  | _ => []

/-- The items of a list, none for any other value. -/
def items : Value → List Value
  | list items => items
  | _ => []

/-! ## Numbers -/

/-- Integers and binary numbers; a truth value is no number. -/
def isNumber : Value → Bool
  | int _ | float _ => true
  | _ => false

/-- The exact value of a finite number. -/
def rat? : Value → Option Rat
  | int n => some n
  | float x => x.toRat?
  | _ => none

/-- A finite number between two bounds. -/
def isBetween (v : Value) (low high : Int) : Bool :=
  match v.rat? with
  | some q => (low : Rat) ≤ q ∧ q ≤ (high : Rat)
  | none => false

/-- A number equal to an integer, in either spelling. -/
def isWhole (v : Value) (n : Int) : Bool :=
  v.rat? = some (n : Rat)

end Value

end EmailStudio
