-- Reading a list of arguments. An argument is the name of a parameter, a
-- value, a flag or the name of a command. The value of a parameter is the
-- next argument, and is looked at only when the next parameter or flag
-- comes or the list ends.
import ResultGateway.CommandLine.Parameter

namespace ResultGateway.CommandLine

/-! ## What may be given -/

structure Grammar where
  named : List Parameter := []
  /-- The parameter that takes a value without a name. -/
  unnamed : Option Parameter := none
  /-- The names of commands, of which the first one ends the list. -/
  commands : List String := []
  hasVersion : Bool := false
  /-- Pairs of parameters that are not given together. -/
  exclusive : List (String × String) := []
deriving Repr

/-! ## Kinds of arguments -/

inductive Word where
  /-- All arguments behind this one are values. -/
  | escape
  | long (name : String) (value : Option String)
  | short (letter : Char)
  | plain
deriving DecidableEq, Repr

/-- What the start of an argument tells. -/
def Word.ofChars : List Char → Word
  | ['-', '-'] => .escape
  | '-' :: '-' :: cs =>
    let value := match cs.dropWhile (· != '=') with
      | [] => none
      | _ :: value => some (String.ofList value)
    .long (String.ofList (cs.takeWhile (· != '='))) value
  | '-' :: c :: _ => .short c
  | _ => .plain

/-! ## Reading -/

/-- What is read so far. -/
structure Scan where
  /-- The values that are accepted, in order. -/
  given : List (Parameter × String) := []
  /-- The parameter that was named last, and its value if it is there already. -/
  pending : Option (Parameter × Option String) := none
  isFilled : Bool := false
  isEscaped : Bool := false
deriving Repr

namespace Scan

def isGiven (s : Scan) (p : Parameter) : Bool := s.given.any fun g => g.1.name == p.name

def value? (s : Scan) (name : String) : Option String :=
  (s.given.find? fun g => g.1.name == name).map Prod.snd

def accept (s : Scan) (p : Parameter) (value : String) : Except UsageError Scan :=
  if s.isGiven p then .error (.repeated p.shown)
  else
    match p.form.fault? value with
    | some fault => .error (fault.error p value)
    | none => .ok { s with given := s.given ++ [(p, value)] }

/-- Accepts the value that is pending. -/
def settle (s : Scan) : Except UsageError Scan :=
  match s.pending with
  | none => .ok s
  | some (p, none) => .error (.valueMissing p.shown)
  | some (p, some value) => { s with pending := none }.accept p value

/-- A parameter that needs the next argument as its value. -/
def awaiting? (s : Scan) : Option Parameter :=
  match s.pending with
  | some (p, none) => some p
  | _ => none

end Scan

/-- What one argument leads to. -/
inductive Step where
  | more (s : Scan)
  | command (name : String)
  | help
  | version

namespace Grammar

/-- A value that belongs to no named parameter. -/
def place (g : Grammar) (s : Scan) (arg : String) : Except UsageError Step :=
  match g.unnamed with
  | some p =>
    if s.isFilled then .error (.unexpectedArgument arg)
    else
      match s.settle with
      | .error e => .error e
      | .ok s => .ok (.more { s with pending := some (p, some arg), isFilled := true })
  | none =>
    if g.commands.isEmpty || (s.isEscaped && g.commands.contains arg) then
      .error (.unexpectedArgument arg)
    else .error (.unrecognizedCommand arg)

/-- A flag, which takes no value. -/
def flag (s : Scan) (name : String) (value : Option String) (step : Step) :
    Except UsageError Step :=
  match value with
  | some value => .error (.unexpectedValue value ("--" ++ name))
  | none =>
    match s.settle with
    | .error e => .error e
    | .ok _ => .ok step

def long (g : Grammar) (s : Scan) (name : String) (value : Option String) :
    Except UsageError Step :=
  match g.named.find? fun p => p.name == name with
  | some p =>
    match s.settle with
    | .error e => .error e
    | .ok s =>
      match value with
      | none => .ok (.more { s with pending := some (p, none) })
      | some value => (s.accept p value).map .more
  | none =>
    if name = "help" then flag s name value .help
    else if name = "version" && g.hasVersion then flag s name value .version
    else .error (.unexpectedArgument ("--" ++ name))

def short (g : Grammar) (s : Scan) (letter : Char) : Except UsageError Step :=
  if letter = 'h' then flag s "help" none .help
  else if letter = 'V' && g.hasVersion then flag s "version" none .version
  else .error (.unexpectedArgument (String.ofList ['-', letter]))

/-- Reads one argument. -/
def step (g : Grammar) (s : Scan) (arg : String) : Except UsageError Step :=
  if s.isEscaped then g.place s arg
  else if s.awaiting?.isNone && g.commands.contains arg then .ok (.command arg)
  else
    match Word.ofChars arg.toList with
    | .escape => .ok (.more { s with isEscaped := true })
    | .long name value => g.long s name value
    | .short letter => g.short s letter
    | .plain =>
      match s.awaiting? with
      | some p => .ok (.more { s with pending := some (p, some arg) })
      | none => g.place s arg

end Grammar

/-- What a list of arguments holds. -/
inductive Reading where
  | values (s : Scan)
  /-- The name of a command, and the arguments behind it. The value pending before it is not
  looked at yet. -/
  | command (name : String) (rest : List String) (s : Scan)
  | help
  | version

def Grammar.read (g : Grammar) (s : Scan) : List String → Except UsageError Reading
  | [] => s.settle.map .values
  | arg :: rest =>
    match g.step s arg with
    | .error e => .error e
    | .ok (.more s) => g.read s rest
    | .ok (.command name) => .ok (.command name rest s)
    | .ok .help => .ok .help
    | .ok .version => .ok .version

/-! ## Values that go together -/

def Grammar.excludes (g : Grammar) (a b : String) : Bool :=
  g.exclusive.contains (a, b) || g.exclusive.contains (b, a)

/-- The first given parameter that excludes another given one, and that one. -/
def Grammar.clash? (g : Grammar) (given : List (Parameter × String)) : Option UsageError :=
  given.findSome? fun a =>
    (given.find? fun b => g.excludes a.1.name b.1.name).map fun b =>
      .exclusive a.1.shown b.1.shown

end ResultGateway.CommandLine
