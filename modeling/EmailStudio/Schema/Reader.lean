import EmailStudio.Schema.Statement

/-!
# Reading statements

A statement is read from a text in two stages: the text is split into words, names in quotes, texts,
numbers and marks, and these are matched with the forms of statements. Keywords may be written in
either case. A text that has none of the forms is no statement.
-/

namespace EmailStudio

/-- A piece of a statement. -/
inductive SqlToken where
  /-- A keyword or a name. -/
  | word (s : String)
  /-- A name in quotes. -/
  | name (s : String)
  | text (s : String)
  | number (s : String)
  | mark (c : Char)
deriving DecidableEq, Repr

namespace SqlToken

/-- Whether a character may stand in a word. -/
def isWordPart (c : Char) : Bool :=
  c.isAlphanum || c = '_' || c = '$' || 127 < c.toNat

/-- Reads up to a quote that stands alone; two quotes are one inside. -/
def quoted (quote : Char) : List Char → Option (List Char × List Char)
  | [] => none
  | [c] => if c = quote then some ([], []) else none
  | c :: d :: rest =>
    if c = quote then
      if d = quote then (quoted quote rest).map fun (s, rest) => (quote :: s, rest)
      else some ([], d :: rest)
    else (quoted quote (d :: rest)).map fun (s, rest) => (c :: s, rest)

/-- The mark that closes a name. -/
def closing? : Char → Option Char
  | '"' => some '"'
  | '\x60' => some '\x60'
  | '[' => some ']'
  | _ => none

/-- Reads the first piece of a text that does not start with a blank. -/
def next (c : Char) (rest : List Char) : Option (SqlToken × List Char) :=
  if c = '\'' then
    (quoted c rest).map fun (s, rest) => (text (String.ofList s), rest)
  else match closing? c with
    | some close => (quoted close rest).map fun (s, rest) => (name (String.ofList s), rest)
    | none =>
      if c.isDigit then
        let more := rest.takeWhile fun c => isWordPart c || c = '.'
        some (number (String.ofList (c :: more)), rest.drop more.length)
      else if isWordPart c then
        let more := rest.takeWhile isWordPart
        some (word (String.ofList (c :: more)), rest.drop more.length)
      else some (mark c, rest)

/-- Reads at most so many pieces. -/
def scanUpTo : Nat → List Char → Option (List SqlToken)
  | 0, _ => some []
  | _ + 1, [] => some []
  | fuel + 1, c :: rest =>
    if c.isWhitespace || c = '\x0c' then scanUpTo fuel rest
    else match next c rest with
      | none => none
      | some (token, rest) => (scanUpTo fuel rest).map (token :: ·)

/-- The pieces of a text. -/
def scan (s : String) : Option (List SqlToken) :=
  scanUpTo (s.length + 1) s.toList

/-- Whether a piece is a keyword. -/
def isKeyword (keyword : String) : SqlToken → Bool
  | word s => sameName s keyword
  | _ => false

end SqlToken

namespace Statement

abbrev Tokens := List SqlToken

/-- Reads keywords. -/
def keywords? : List String → Tokens → Option Tokens
  | [], ts => some ts
  | _ :: _, [] => none
  | keyword :: more, t :: ts => if t.isKeyword keyword then keywords? more ts else none

/-- Reads keywords that may be missing. -/
def keywordsThere (keywords : List String) (ts : Tokens) : Bool × Tokens :=
  match keywords? keywords ts with
  | some ts => (true, ts)
  | none => (false, ts)

/-- Reads a name. -/
def name? : Tokens → Option (String × Tokens)
  | .word s :: ts | .name s :: ts => some (s, ts)
  | _ => none

/-- Reads a mark. -/
def mark? (c : Char) : Tokens → Option Tokens
  | .mark d :: ts => if c = d then some ts else none
  | _ => none

/-- Reads a value. -/
def cell? : Tokens → Option (Cell × Tokens)
  | .text s :: ts | .number s :: ts => some (some s, ts)
  | .mark '-' :: .number s :: ts => some (some ("-" ++ s), ts)
  | .word s :: ts =>
    if sameName s "null" then some (none, ts)
    else if sameName s "current_timestamp" then some (some "now", ts)
    else none
  | _ => none

/-- Reads at most so many items, with commas between them. -/
def itemsUpTo {α : Type} (item : Tokens → Option (α × Tokens)) :
    Nat → Tokens → Option (List α × Tokens)
  | 0, _ => none
  | fuel + 1, ts => do
    let (a, ts) ← item ts
    match mark? ',' ts with
    | none => return ([a], ts)
    | some ts =>
      let (more, ts) ← itemsUpTo item fuel ts
      return (a :: more, ts)

/-- Reads items with commas between them. -/
def items? {α : Type} (item : Tokens → Option (α × Tokens)) (ts : Tokens) :
    Option (List α × Tokens) :=
  itemsUpTo item (ts.length + 1) ts

/-- Reads what stands between round brackets. -/
def bracketed? {α : Type} (inner : Tokens → Option (α × Tokens)) (ts : Tokens) :
    Option (α × Tokens) := do
  let ts ← mark? '(' ts
  let (a, ts) ← inner ts
  return (a, ← mark? ')' ts)

/-- Reads names between round brackets. -/
def names? (ts : Tokens) : Option (List String × Tokens) :=
  bracketed? (items? name?) ts

/-- Reads a column and the value it is set to or compared with. -/
def assignment? (ts : Tokens) : Option ((String × Cell) × Tokens) := do
  let (column, ts) ← name? ts
  let ts ← mark? '=' ts
  let (cell, ts) ← cell? ts
  return ((column, cell), ts)

/-- Reads at most so many comparisons with the word between them. -/
def testsUpTo : Nat → Tokens → Option (List CellTest × Tokens)
  | 0, _ => none
  | fuel + 1, ts => do
    let ((column, cell), ts) ← assignment? ts
    match keywords? ["and"] ts with
    | none => return ([⟨column, cell⟩], ts)
    | some ts =>
      let (more, ts) ← testsUpTo fuel ts
      return (⟨column, cell⟩ :: more, ts)

/-- Reads a condition, which may be missing. -/
def tests? (ts : Tokens) : Option (List CellTest × Tokens) :=
  match keywords? ["where"] ts with
  | none => some ([], ts)
  | some ts => testsUpTo (ts.length + 1) ts

/-! ## Columns -/

/-- What is said about a column behind its type. -/
structure ColumnNotes where
  required : Bool
  default : Option ColumnDefault
  isKey : Bool

/-- Reads the words of a type up to a note. -/
def typeUpTo : Nat → Tokens → List String × Tokens
  | 0, ts => ([], ts)
  | fuel + 1, .word s :: ts =>
    if ["not", "null", "default", "primary", "unique", "constraint"].any (sameName s) then
      ([], .word s :: ts)
    else
      match ts with
      | .mark '(' :: .number n :: .mark ')' :: ts => ([s ++ "(" ++ n ++ ")"], ts)
      | _ =>
        let (more, rest) := typeUpTo fuel ts
        (s :: more, rest)
  | _ + 1, ts => ([], ts)

/-- Reads at most so many notes. -/
def notesUpTo : Nat → ColumnNotes → Tokens → ColumnNotes × Tokens
  | 0, notes, ts => (notes, ts)
  | fuel + 1, notes, ts =>
    match keywords? ["not", "null"] ts, keywords? ["primary", "key"] ts,
        keywords? ["default"] ts, keywords? ["null"] ts with
    | some ts, _, _, _ => notesUpTo fuel { notes with required := true } ts
    | _, some ts, _, _ => notesUpTo fuel { notes with isKey := true } ts
    | _, _, some (.text s :: ts), _ =>
      notesUpTo fuel { notes with default := some (.text s) } ts
    | _, _, some (.number s :: ts), _ =>
      notesUpTo fuel { notes with default := some (.written s) } ts
    | _, _, some (.word s :: ts), _ =>
      notesUpTo fuel { notes with default := some (.written s) } ts
    | _, _, _, some ts => notesUpTo fuel notes ts
    | _, _, _, _ => (notes, ts)

/-- Reads a column, and whether it is the key. -/
def column? (ts : Tokens) : Option ((TableColumn × Bool) × Tokens) := do
  let (name, ts) ← name? ts
  let (words, ts) := typeUpTo (ts.length + 1) ts
  let (notes, ts) := notesUpTo (ts.length + 1) ⟨false, none, false⟩ ts
  let column : TableColumn := {
    name := name
    type := .named (" ".intercalate words)
    required := notes.required
    default := notes.default
    comment := none }
  return ((column, notes.isKey), ts)

/-- A part of the definition of a table. -/
inductive TablePart where
  | column (column : TableColumn) (isKey : Bool)
  | key (name : Option String) (columns : List String)

/-- Reads a part of the definition of a table. -/
def tablePart? (ts : Tokens) : Option (TablePart × Tokens) :=
  match keywords? ["primary", "key"] ts with
  | some ts => (names? ts).map fun (columns, ts) => (.key none columns, ts)
  | none =>
    match keywords? ["constraint"] ts with
    | some ts => do
      let (name, ts) ← name? ts
      let ts ← keywords? ["primary", "key"] ts
      let (columns, ts) ← names? ts
      return (.key (some name) columns, ts)
    | none => (column? ts).map fun ((column, isKey), ts) => (.column column isKey, ts)

/-- The table of a name with the given parts. -/
def shapeOf (name : String) (parts : List TablePart) : TableShape where
  name := name
  columns := parts.filterMap fun
    | .column column _ => some column
    | .key _ _ => none
  key := parts.flatMap fun
    | .column column isKey => if isKey then [column.name] else []
    | .key _ columns => columns
  keyName := parts.findSome? fun
    | .column _ _ => none
    | .key name _ => name

/-! ## Statements -/

/-- Reads what is made. -/
def created? (ts : Tokens) : Option (Statement × Tokens) :=
  match keywords? ["table"] ts with
  | some ts => do
    let (unlessThere, ts) := keywordsThere ["if", "not", "exists"] ts
    let (name, ts) ← name? ts
    let (parts, ts) ← bracketed? (items? tablePart?) ts
    return (.createTable (shapeOf name parts) unlessThere, ts)
  | none => do
    let ts ← keywords? ["index"] ts
    let (unlessThere, ts) := keywordsThere ["if", "not", "exists"] ts
    let (name, ts) ← name? ts
    let ts ← keywords? ["on"] ts
    let (table, ts) ← name? ts
    let (columns, ts) ← names? ts
    return (.createIndex ⟨name, table, columns⟩ unlessThere, ts)

/-- Reads what is dropped. -/
def dropped? (ts : Tokens) : Option (Statement × Tokens) :=
  match keywords? ["table"] ts with
  | some ts => do
    let (ifThere, ts) := keywordsThere ["if", "exists"] ts
    let (name, ts) ← name? ts
    return (.dropTable name ifThere, ts)
  | none => do
    let ts ← keywords? ["index"] ts
    let (ifThere, ts) := keywordsThere ["if", "exists"] ts
    let (name, ts) ← name? ts
    return (.dropIndex name ifThere, ts)

/-- Reads what is changed about a table. -/
def altered? (ts : Tokens) : Option (Statement × Tokens) := do
  let ts ← keywords? ["table"] ts
  let (table, ts) ← name? ts
  match keywords? ["rename", "to"] ts with
  | some ts =>
    let (newName, ts) ← name? ts
    return (.renameTable table newName, ts)
  | none =>
    let ts ← keywords? ["add"] ts
    let (_, ts) := keywordsThere ["column"] ts
    let ((column, _), ts) ← column? ts
    return (.addColumn table column, ts)

/-- Reads which rows are added. -/
def inserted? (ts : Tokens) : Option (Statement × Tokens) := do
  let ts ← keywords? ["into"] ts
  let (table, ts) ← name? ts
  match keywords? ["default", "values"] ts with
  | some ts => return (.insert table (some []) [[]] [], ts)
  | none =>
    let (columns, ts) : Option (List String) × Tokens :=
      match names? ts with
      | some (columns, ts) => (some columns, ts)
      | none => (none, ts)
    let ts ← keywords? ["values"] ts
    let (rows, ts) ← items? (bracketed? (items? cell?)) ts
    return (.insert table columns rows [], ts)

/-- Reads which rows are changed, and how. -/
def updated? (ts : Tokens) : Option (Statement × Tokens) := do
  let (table, ts) ← name? ts
  let ts ← keywords? ["set"] ts
  let (changes, ts) ← items? assignment? ts
  let (tests, ts) ← tests? ts
  return (.update table changes tests, ts)

/-- Reads which rows are removed. -/
def deleted? (ts : Tokens) : Option (Statement × Tokens) := do
  let ts ← keywords? ["from"] ts
  let (table, ts) ← name? ts
  let (tests, ts) ← tests? ts
  return (.delete table tests, ts)

/-- Reads what is looked at: all rows of a table. -/
def looked? (ts : Tokens) : Option (Statement × Tokens) := do
  let ts ← mark? '*' ts
  let ts ← keywords? ["from"] ts
  let (table, ts) ← name? ts
  return (.look table, ts)

/-- The forms of statements, each behind its first word. -/
def forms : List (String × (Tokens → Option (Statement × Tokens))) := [
  ("create", created?), ("drop", dropped?), ("alter", altered?), ("insert", inserted?),
  ("update", updated?), ("delete", deleted?), ("select", looked?)]

/-- Reads a statement, which may end with a semicolon. -/
def read (s : String) : Except SchemaFault Statement :=
  let result : Option Statement := do
    match ← SqlToken.scan s with
    | [] => none
    | first :: ts =>
      let (_, form) ← forms.find? fun (keyword, _) => first.isKeyword keyword
      let (statement, ts) ← form ts
      if ts.all (· = .mark ';') then some statement else none
  match result with
  | some statement => .ok statement
  | none => .error .unreadable

end Statement

end EmailStudio
