import EmailStudio.Value.Token

/-!
# Reading document text

The reader walks the tokens once, with the lists and objects that are open on a stack. A field that
is given twice keeps the place of the first and the value of the last.
-/

namespace EmailStudio

/-- An open list with its items in reverse, or an open object with its fields and the name that
waits for a value. -/
inductive OpenValue where
  | list (items : List Value)
  | object (fields : Fields) (name : String)

/-- What the reader waits for. -/
inductive Expecting where
  /-- A value, or the end of a list that was just opened. -/
  | value (mayClose : Bool)
  /-- A name, or the end of an object that was just opened. -/
  | name (fields : Fields) (mayClose : Bool)
  | colon (fields : Fields) (name : String)
  /-- What follows a value. -/
  | after (v : Value)

/-- Reads on with the tokens that are left. -/
def Value.ofTokens (stack : List OpenValue) (expecting : Expecting) :
    List Placed → Except SyntaxFault Value
  | [] => .error ⟨.expectedValue, 0⟩
  | ⟨token, position⟩ :: rest =>
    match expecting with
    | .value mayClose =>
      match token with
      | .scalar v => Value.ofTokens stack (.after v) rest
      | .text s => Value.ofTokens stack (.after (.text s)) rest
      | .openList => Value.ofTokens (.list [] :: stack) (.value true) rest
      | .openObject => Value.ofTokens stack (.name [] true) rest
      | .badText fault => .error fault
      | .closeList =>
        match mayClose, stack with
        | true, .list items :: stack => Value.ofTokens stack (.after (.list items.reverse)) rest
        | _, _ => .error ⟨.expectedValue, position⟩
      | _ => .error ⟨.expectedValue, position⟩
    | .name fields mayClose =>
      match token with
      | .text s => Value.ofTokens stack (.colon fields s) rest
      | .badText fault => .error fault
      | .closeObject =>
        if mayClose then Value.ofTokens stack (.after (.object fields)) rest
        else .error ⟨.expectedName, position⟩
      | _ => .error ⟨.expectedName, position⟩
    | .colon fields name =>
      match token with
      | .colon => Value.ofTokens (.object fields name :: stack) (.value false) rest
      | _ => .error ⟨.expectedColon, position⟩
    | .after v =>
      match stack with
      | [] =>
        match token with
        | .finish => .ok v
        | _ => .error ⟨.extraData, position⟩
      | .list items :: stack =>
        match token with
        | .comma => Value.ofTokens (.list (v :: items) :: stack) (.value false) rest
        | .closeList => Value.ofTokens stack (.after (.list (v :: items).reverse)) rest
        | _ => .error ⟨.expectedComma, position⟩
      | .object fields name :: stack =>
        match token with
        | .comma => Value.ofTokens stack (.name (fields.set name v) false) rest
        | .closeObject => Value.ofTokens stack (.after (.object (fields.set name v))) rest
        | _ => .error ⟨.expectedComma, position⟩

/-- Reads document text. A byte order mark at the start is refused. -/
def Value.read (cs : List Char) : Except SyntaxFault Value :=
  match cs with
  | '\uFEFF' :: _ => .error ⟨.byteOrderMark, 0⟩
  | _ => Value.ofTokens [] (.value false) (tokens cs)

namespace SyntaxFault

/-- What a problem is called. -/
def problemText : SyntaxProblem → String
  | .byteOrderMark => "Unexpected UTF-8 BOM (decode using utf-8-sig)"
  | .expectedValue => "Expecting value"
  | .expectedName => "Expecting property name enclosed in double quotes"
  | .expectedColon => "Expecting ':' delimiter"
  | .expectedComma => "Expecting ',' delimiter"
  | .extraData => "Extra data"
  | .unterminatedText => "Unterminated string starting at"
  | .controlCharacter => "Invalid control character at"
  | .badEscape => "Invalid \\escape"
  | .badUnicodeEscape => "Invalid \\uXXXX escape"
  | .tooManyDigits _ => "Too many digits"

/-- The line of a position and the column in it, both from one. -/
def lineAndColumn (cs : List Char) (position : Nat) : Nat × Nat :=
  let before := cs.take position
  (before.count '\n' + 1, (before.reverse.takeWhile (· ≠ '\n')).length + 1)

/-- The problem and its place in the text. -/
def message (fault : SyntaxFault) (cs : List Char) : String :=
  let (line, column) := lineAndColumn cs fault.position
  problemText fault.problem ++ ": line " ++ toString line ++ " column "
    ++ toString column ++ " (char " ++ toString fault.position ++ ")"

end SyntaxFault

end EmailStudio
