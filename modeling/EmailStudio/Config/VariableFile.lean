import EmailStudio.Text.Blank
import EmailStudio.Text.Case
import EmailStudio.Text.Lines
import EmailStudio.Value.Basic

/-!
# Files of variables

A file of variables gives one on each line, as `NAME=value`, perhaps with `export` before it and a
comment behind it. Values and names may stand in quotes; between quotes backslashes escape. In every
value the name of another variable in `${...}` stands for its value, with a default behind `:-`. A
line that does not read like this is passed over.
-/

namespace EmailStudio.VariableFile

/-- A blank that does not end the line. -/
def isSpace (c : Char) : Bool :=
  Text.isBlank c && c ≠ '\n'

def dropSpaces (cs : List Char) : List Char :=
  cs.dropWhile isSpace

/-- What a text is when it begins with a word. -/
def behind? (word cs : List Char) : Option (List Char) :=
  if word.isPrefixOf cs then some (cs.drop word.length) else none

/-- Drops the word that marks a variable for export. -/
def dropExport (cs : List Char) : List Char :=
  match behind? "export".toList cs with
  | some (c :: rest) => if isSpace c then dropSpaces rest else cs
  | _ => cs

/-- Takes what stands before a closing quote, and the quote. A quote behind a backslash does not
close, unless no other does. -/
def takeQuoted (quote : Char) : List Char → Option (List Char × List Char)
  | [] => none
  | '\\' :: c :: rest =>
    if c = quote then
      match takeQuoted quote rest with
      | some (inner, rest) => some ('\\' :: quote :: inner, rest)
      | none => some (['\\'], rest)
    else (takeQuoted quote (c :: rest)).map fun (inner, rest) => ('\\' :: inner, rest)
  | c :: rest =>
    if c = quote then some ([], rest)
    else (takeQuoted quote rest).map fun (inner, rest) => (c :: inner, rest)

/-- What a character behind a backslash stands for. -/
def escaped? (quote c : Char) : Option Char :=
  if c = '\\' || c = '\'' then some c
  else if quote = '\'' then none
  else
    match c with
    | '"' => some '"'
    | 'a' => some '\x07'
    | 'b' => some '\x08'
    | 'f' => some '\x0c'
    | 'n' => some '\n'
    | 'r' => some '\r'
    | 't' => some '\t'
    | 'v' => some '\x0b'
    | _ => none

/-- Resolves backslashes. -/
def resolveEscapes (quote : Char) : List Char → List Char
  | '\\' :: c :: rest =>
    match escaped? quote c with
    | some e => e :: resolveEscapes quote rest
    | none => '\\' :: resolveEscapes quote (c :: rest)
  | c :: rest => c :: resolveEscapes quote rest
  | [] => []

/-- Cuts off a comment, which begins with a number sign behind blanks. -/
def cutComment : List Char → List Char
  | [] => []
  | c :: rest =>
    if Text.isBlank c && (rest.dropWhile Text.isBlank).head? = some '#' then []
    else c :: cutComment rest

/-- Takes a value. -/
def takeValue (cs : List Char) : Option (List Char × List Char) :=
  match cs with
  | '\'' :: rest => (takeQuoted '\'' rest).map fun (v, rest) => (resolveEscapes '\'' v, rest)
  | '"' :: rest => (takeQuoted '"' rest).map fun (v, rest) => (resolveEscapes '"' v, rest)
  | _ =>
    let line := cs.takeWhile (· ≠ '\n')
    some (((cutComment line).reverse.dropWhile Text.isBlank).reverse, cs.drop line.length)

/-- Takes a name; a comment has none. -/
def takeName (cs : List Char) : Option (Option (List Char) × List Char) :=
  match cs with
  | '#' :: _ => some (none, cs)
  | '\'' :: rest =>
    let name := rest.takeWhile (· ≠ '\'')
    if name.isEmpty || name.length = rest.length then none
    else some (some name, rest.drop (name.length + 1))
  | _ =>
    let name := cs.takeWhile fun c => c ≠ '=' && c ≠ '#' && !Text.isBlank c
    if name.isEmpty then none else some (some name, cs.drop name.length)

/-- A text behind a comment and the end of the line. -/
def behindLine? (cs : List Char) : Option (List Char) :=
  let rest :=
    match dropSpaces cs with
    | '#' :: rest => rest.dropWhile (· ≠ '\n')
    | rest => rest
  match rest with
  | [] => some []
  | '\n' :: rest => some rest
  | _ => none

/-- A text behind the rest of its line. -/
def behindRest (cs : List Char) : List Char :=
  (cs.dropWhile (· ≠ '\n')).drop 1

/-- A name and its value; the value is missing without an equals sign. -/
abbrev Binding := String × Option String

/-- Takes a binding, if the line gives one, and the rest of the line. -/
def takeBinding (cs : List Char) : Option Binding × List Char :=
  match takeName (dropExport cs) with
  | none => (none, behindRest (dropExport cs))
  | some (name, rest) =>
    let binding (value : Option (List Char)) (rest : List Char) : Option Binding × List Char :=
      match behindLine? rest with
      | some rest => (name.map fun name => (String.ofList name, value.map String.ofList), rest)
      | none => (none, behindRest rest)
    match dropSpaces rest with
    | '=' :: rest =>
      match takeValue (dropSpaces rest) with
      | some (value, rest) => binding (some value) rest
      | none => (none, behindRest (dropSpaces rest))
    | rest => binding none rest

/-- The bindings of a text, of which at most a number are read. -/
def bindingsIn : Nat → List Char → List Binding
  | 0, _ => []
  | limit + 1, cs =>
    match cs.dropWhile Text.isBlank with
    | [] => []
    | cs =>
      let (binding, rest) := takeBinding cs
      binding.toList ++ bindingsIn limit rest

/-- Variables with their values, where they have one. -/
abbrev Bindings := List Binding

/-- Gives a variable a value, in its place or as the last one. -/
def setBinding (name : String) (value : Option String) : Bindings → Bindings
  | [] => [(name, value)]
  | (n, v) :: rest => if n = name then (n, value) :: rest else (n, v) :: setBinding name value rest

/-- Takes the reference to a variable behind the dollar sign: its name and its default. -/
def takeReference (cs : List Char) : Option (String × String × List Char) :=
  match cs with
  | '{' :: rest =>
    let name := rest.takeWhile fun c => c ≠ '}' && c ≠ ':'
    match rest.drop name.length with
    | '}' :: rest => some (String.ofList name, "", rest)
    | ':' :: '-' :: rest =>
      let default := rest.takeWhile (· ≠ '}')
      if default.length < rest.length then
        some (String.ofList name, String.ofList default, rest.drop (default.length + 1))
      else none
    | _ => none
  | _ => none

/-- Puts the values of variables in the place of their names. -/
def expand (lookup : String → Option (Option String)) : Nat → List Char → String
  | 0, _ => ""
  | _, [] => ""
  | limit + 1, '$' :: rest =>
    match takeReference rest with
    | some (name, default, rest) =>
      ((lookup name).getD (some default)).getD "" ++ expand lookup limit rest
    | none => "$" ++ expand lookup limit rest
  | limit + 1, c :: rest => String.singleton c ++ expand lookup limit rest

/-- Resolves the references in values, one after the other: to variables before them, or else to
those of the environment. -/
def resolve (environment : List (String × String)) (bindings : Bindings) : Bindings :=
  bindings.foldl (fun acc (name, value) =>
    let lookup (name : String) : Option (Option String) :=
      match acc.lookup name with
      | some value => some value
      | none => (environment.lookup name).map some
    setBinding name (value.map fun v => expand lookup (v.length + 1) v.toList) acc) []

/-- The variables of a file, by names in small letters. -/
def bindings (environment : List (String × String)) (content : String) :
    List (String × String) :=
  let cs := (Text.asRead content).toList
  let resolved := resolve environment (bindingsIn (cs.length + 1) cs)
  let lowered := resolved.foldl (fun acc (name, value) =>
    setBinding (Text.lower name) value acc) []
  lowered.filterMap fun (name, value) => value.map fun v => (name, v)

end EmailStudio.VariableFile
