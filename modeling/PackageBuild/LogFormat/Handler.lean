import PackageBuild.LogFormat.Formatter

/-!
# Handlers of loggers

A logger hands its records to its handlers in order. A tracing handler has a filter that notes the
current span on a record, and prints the record as a line. Making a logger trace installs such a
handler, or changes the formatter of the first one that is there.

Main results:

- `trace_invalid`: a template that makes no formatter changes nothing.
-/

namespace PackageBuild.LogFormat

/-- What a handler does with a record before it prints it. -/
inductive Filter where
  /-- Note the current span. -/
  | span
  /-- Anything else; what it does is not seen outside its handler. -/
  | other
  deriving DecidableEq, Repr

/-- Which handler it is. -/
inductive Handler.Identity where
  /-- A handler that was given to the logger. -/
  | given (n : Nat)
  /-- A handler that was made for a logger with so many handlers. -/
  | made (n : Nat)
  deriving DecidableEq, Repr

/-- A handler of a logger. -/
structure Handler where
  identity : Handler.Identity
  passes : List Filter
  /-- How it prints lines; nothing for one that prints none. -/
  formatter? : Option Formatter
  deriving Repr

namespace Handler

/-- The number of filters of a handler. -/
def filters (h : Handler) : Nat := h.passes.length

/-- Whether a handler notes the current span. -/
def isTracing (h : Handler) : Bool := h.passes.any (· = .span)

/-- A handler with filters of other kinds that prints nothing. -/
def plain (n others : Nat) : Handler := ⟨.given n, List.replicate others .other, none⟩

/-- The record as a handler sees it. -/
def filtered (h : Handler) (context? : Option SpanContext) (r : Record) : Record :=
  h.passes.foldl (fun r filter => if filter = .span then r.noted context? else r) r

/-- What a handler prints of a record: a line, or nothing if the record cannot be formatted. -/
def printed (h : Handler) (context? : Option SpanContext) (r : Record) : List String :=
  match h.formatter? with
  | none => []
  | some formatter =>
    match formatter.format (h.filtered context? r) with
    | .ok line => [line ++ "\n"]
    | .error _ => []

end Handler

/-- A logger with its handlers in the order of their installation. -/
structure Logger where
  handlers : List Handler := []
  /-- Records below this level are not let out. -/
  threshold : Int := Log.threshold
  deriving Repr, Inhabited

namespace Logger

/-- The handlers with another formatter for the first tracing one, and this one; nothing if there is
none. -/
def reformat? (formatter : Formatter) : List Handler → Option (List Handler × Handler)
  | [] => none
  | h :: rest =>
    if h.isTracing then
      some ({ h with formatter? := some formatter } :: rest,
        { h with formatter? := some formatter })
    else (reformat? formatter rest).map fun (handlers, found) => (h :: handlers, found)

/-- Make a logger trace with a template and a date format: the logger and its tracing handler. An
empty template is as good as none. -/
def trace (l : Logger) (template dateFormat : Value) : Except Fault (Logger × Handler) :=
  (Formatter.ofValue? traceTemplate template dateFormat).map fun formatter =>
    match reformat? formatter l.handlers with
    | some (handlers, h) => ({ l with handlers }, h)
    | none =>
      let h : Handler := ⟨.made l.handlers.length, [.span], some formatter⟩
      ({ l with handlers := l.handlers ++ [h] }, h)

/-- Make a logger trace; whether a handler was installed for it. -/
def applyTrace (l : Logger) (template : Value) (dateFormat : Value := .null) :
    Except Fault (Logger × Bool) :=
  (l.trace template dateFormat).map fun (after, h) =>
    (after, l.handlers.all fun other => other.identity ≠ h.identity)

/-- Give a handler to a logger, unless it has it. -/
def add (l : Logger) (h : Handler) : Logger :=
  if l.handlers.any fun other => other.identity = h.identity then l
  else { l with handlers := l.handlers ++ [h] }

/-- Give a new handler that prints nothing to a logger. -/
def addSilent (l : Logger) : Logger := l.add (.plain l.handlers.length 0)

/-- The tracing handler. -/
def tracing? (l : Logger) : Option Handler := l.handlers.find? Handler.isTracing

/-- What the handlers of a logger print of a record at a level, each for itself. -/
def emit (l : Logger) (level : Int) (r : Record) (context? : Option SpanContext) :
    List (Handler.Identity × String) :=
  if l.threshold ≤ level then
    l.handlers.flatMap fun h => (h.printed context? r).map (h.identity, ·)
  else []

/-- What the handlers of a logger print of a message under a name at a level. -/
def log (l : Logger) (name : String) (level : Int) (message : Message)
    (context? : Option SpanContext) : List String :=
  (l.emit level (Record.of (.text name) (.int level) message []) context?).map Prod.snd

/-- A template that makes no formatter changes nothing. -/
theorem trace_invalid {l : Logger} {template dateFormat : Value} {fault : Fault}
    (h : Formatter.ofValue? traceTemplate template dateFormat = .error fault) :
    l.trace template dateFormat = .error fault := by
  simp [trace, h, Except.map]

end Logger

end PackageBuild.LogFormat
