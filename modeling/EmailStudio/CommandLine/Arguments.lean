/-!
# Arguments

Options begin with two hyphens or, if they have a short form, with one. A value stands behind its
option, or joined to it; several short options may share a hyphen. Two hyphens alone end the
options. What is no option is an operand.
-/

namespace EmailStudio.CommandLine

/-- An option that a command knows. -/
structure OptionForm where
  name : String
  short : Option Char
  takesValue : Bool

/-- An option that is on or off. -/
def flag (name : String) : OptionForm := ⟨name, none, false⟩

/-- An option with a value. -/
def valued (name : String) (short : Option Char) : OptionForm := ⟨name, short, true⟩

/-- Options that were given, with their values, and operands. -/
structure Arguments where
  options : List (String × Option String)
  operands : List String

namespace Arguments

/-- The value of an option; of several, the last. -/
def value? (arguments : Arguments) (name : String) : Option String :=
  (arguments.options.reverse.lookup name).getD none

def isGiven (arguments : Arguments) (name : String) : Bool :=
  arguments.options.any (·.1 = name)

/-- What an argument with options holds: options, and the name of one that waits for its value. -/
abbrev Taken := List (String × Option String) × Option String

/-- Takes short options. The value of one is what follows it, if anything does. -/
def takeShort (forms : List OptionForm) : List Char → Option Taken
  | [] => some ([], none)
  | c :: rest =>
    match forms.find? (·.short = some c) with
    | none => none
    | some form =>
      if form.takesValue then
        if rest.isEmpty then some ([], some form.name)
        else some ([(form.name, some (String.ofList rest))], none)
      else (takeShort forms rest).map fun (options, waiting) =>
        ((form.name, none) :: options, waiting)

/-- Takes the options of an argument that begins with a hyphen. -/
def takeOptions (forms : List OptionForm) (argument : String) : Option Taken :=
  match argument.toList with
  | '-' :: '-' :: rest =>
    let name := rest.takeWhile (· ≠ '=')
    let value := if name.length < rest.length then
        some (String.ofList (rest.drop (name.length + 1))) else none
    match forms.find? (·.name = String.ofList name), value with
    | none, _ => none
    | some form, some value =>
      if form.takesValue then some ([(form.name, some value)], none) else none
    | some form, none =>
      if form.takesValue then some ([], some form.name) else some ([(form.name, none)], none)
  | '-' :: rest => takeShort forms rest
  | _ => none

/-- Reads arguments, where an option may wait for its value. A command that hands its operands on
takes no options behind the first of them. -/
def readFrom (forms : List OptionForm) (handsOn : Bool) (waiting : Option String)
    (before : Arguments) : List String → Option Arguments
  | [] => if waiting.isSome then none else some before
  | argument :: rest =>
    match waiting with
    | some name =>
      readFrom forms handsOn none
        { before with options := before.options ++ [(name, some argument)] } rest
    | none =>
      if argument = "--" then some { before with operands := before.operands ++ rest }
      else if argument.startsWith "-" && 1 < argument.length then
        match takeOptions forms argument with
        | none => none
        | some (options, waiting) =>
          readFrom forms handsOn waiting { before with options := before.options ++ options } rest
      else if handsOn then some { before with operands := before.operands ++ argument :: rest }
      else
        readFrom forms handsOn none { before with operands := before.operands ++ [argument] } rest

/-- Reads arguments. -/
def read (forms : List OptionForm) (handsOn : Bool) (arguments : List String) : Option Arguments :=
  readFrom forms handsOn none ⟨[], []⟩ arguments

end Arguments

end EmailStudio.CommandLine
