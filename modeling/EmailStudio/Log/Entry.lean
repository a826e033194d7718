import EmailStudio.Log.Level
import EmailStudio.Value.Basic

/-!
# Log entries and their scopes

Pairs are bound to a context and go into every entry until they are taken back. A scope binds pairs
when it is entered and takes their keys back when it is left, whatever they were bound to before.
-/

namespace EmailStudio.Log

/-- The bound pairs, and the keys of the scopes that are open, the innermost first. -/
structure Context where
  bound : Fields
  scopes : List (List String)

namespace Context

def empty : Context := ⟨[], []⟩

def bind (context : Context) (pairs : Fields) : Context :=
  { context with bound := context.bound.update pairs }

def unbind (context : Context) (keys : List String) : Context :=
  { context with bound := context.bound.filter fun (key, _) => !keys.contains key }

/-- Forgets all pairs; scopes stay open. -/
def clear (context : Context) : Context :=
  { context with bound := [] }

/-- Enters a scope. -/
def enter (context : Context) (pairs : Fields) : Context :=
  let context := context.bind pairs
  { context with scopes := pairs.map (·.1) :: context.scopes }

/-- Leaves the innermost scope. -/
def leave (context : Context) : Context :=
  match context.scopes with
  | [] => context
  | keys :: scopes => { context.unbind keys with scopes := scopes }

/-- Binds the id that a request is followed by. -/
def bindCorrelation (context : Context) (id : Value) : Context :=
  context.bind [("correlation_id", id)]

end Context

/-- The level of a way of logging. -/
def levelOf? : String → Option LogLevel
  | "debug" => some .debug
  | "info" => some .info
  | "warning" | "warn" => some .warning
  | "error" | "exception" => some .error
  | "critical" | "fatal" => some .critical
  | _ => none

/-- The name that every entry carries. -/
def loggerName : String := "mailblocks"

/-- The fields of an entry: the bound pairs, over them the fields of the call, and over those what
every entry says about itself. An entry without correlation gets an id of its own. -/
def entry (context : Context) (level : LogLevel) (event : String) (fields : Fields)
    (freshId : String) : Fields :=
  let pairs := (context.bound.update fields).filter fun (key, _) =>
    !(["event", "exc_info", "stack_info", "timestamp"].contains key)
  let pairs := Fields.update pairs [("level", .text level.name), ("logger", .text loggerName)]
  let pairs :=
    if pairs.has "correlation_id" then pairs else pairs.set "correlation_id" (.text freshId)
  pairs.set "message" (.text event)

/-- The entry of a call, unless its level lies below the threshold. -/
def emitted? (threshold : LogLevel) (context : Context) (level : LogLevel) (event : String)
    (fields : Fields) (freshId : String) : Option Fields :=
  if level.rank < threshold.rank then none else some (entry context level event fields freshId)

end EmailStudio.Log
