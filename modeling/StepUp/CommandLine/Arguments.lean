/-!
# Command line arguments

A command is a group and an action of it, followed by the options of the action and at most one
file. Flags about logging may stand at each of the three levels; those of the innermost level at
which any is given count. Two dashes end the options.
-/

namespace StepUp.CommandLine

inductive Command where
  | inspectSessionError
  | normalize (includeExtra pretty : Bool)
  | inspectResponse (status : UInt16)
deriving DecidableEq

/-- The flags about logging at one level. -/
structure LogFlags where
  verbosity : Nat := 0
  json : Bool := false
deriving DecidableEq

namespace LogFlags

/-- The flags that count of an outer and an inner level. -/
def within (outer inner : LogFlags) : LogFlags where
  verbosity := if inner.verbosity = 0 then outer.verbosity else inner.verbosity
  json := outer.json || inner.json

/-- How much an argument adds to the verbosity, if it is a flag for that. -/
def verbosity? (arg : String) : Option Nat :=
  if arg = "--verbose" then some 1
  else
    match arg.toList with
    | '-' :: 'v' :: rest => if rest.all (· = 'v') then some (rest.length + 1) else none
    | _ => none

def isLogFlag (arg : String) : Bool := (verbosity? arg).isSome || arg = "--json-logs"

/-- The flags with one more. Only verbosity may be given again. -/
def add? (flags : LogFlags) (arg : String) : Option LogFlags :=
  match verbosity? arg with
  | some n => some { flags with verbosity := flags.verbosity + n }
  | none => if flags.json then none else some { flags with json := true }

end LogFlags

/-- What an argument of an action looks like. -/
def isOption (arg : String) : Bool :=
  match arg.toList with
  | '-' :: _ :: _ => true
  | _ => false

/-- Reads the flags before a word; gives the flags, the word and the arguments after it. -/
def beforeWord (flags : LogFlags) : List String → Option (LogFlags × String × List String)
  | [] => none
  | arg :: rest =>
    if LogFlags.isLogFlag arg then do beforeWord (← flags.add? arg) rest
    else some (flags, arg, rest)

inductive Action where
  | inspectSessionError
  | normalize
  | inspectResponse
deriving DecidableEq

def Action.ofWords? : String → String → Option Action
  | "session-error", "inspect" => some inspectSessionError
  | "session-error", "normalize" => some normalize
  | "api-error", "inspect" => some inspectResponse
  | _, _ => none

structure Options where
  includeExtra : Bool := false
  pretty : Bool := false
  status : Option UInt16 := none
  file : Option String := none
deriving DecidableEq

namespace Options

/-- The status that a text writes: a decimal number with or without a sign, in range. -/
def status? (text : String) : Option UInt16 :=
  let (negative, digits) := match text.toList with
    | '+' :: rest => (false, rest)
    | '-' :: rest => (true, rest)
    | rest => (false, rest)
  if digits.isEmpty || !digits.all Char.isDigit then none
  else
    let n := digits.foldl (fun n c => 10 * n + (c.toNat - '0'.toNat)) 0
    if n < UInt16.size ∧ (negative → n = 0) then some n.toUInt16 else none

def addStatus? (o : Options) (text : String) : Option Options :=
  if o.status.isSome then none
  else (status? text).map fun n => { o with status := some n }

/-- The options with a file. There is at most one, and its name is not empty. -/
def addFile? (o : Options) (name : String) : Option Options :=
  if name.isEmpty || o.file.isSome then none else some { o with file := some name }

def addFiles? (o : Options) (names : List String) : Option Options := names.foldlM addFile? o

def addFlag? (o : Options) : String → Option Options
  | "--include-extra" => if o.includeExtra then none else some { o with includeExtra := true }
  | "--pretty" => if o.pretty then none else some { o with pretty := true }
  | _ => none

/-- The text behind the name of an option and an equals sign. -/
def after? (name arg : String) : Option String :=
  let start := name.toList ++ ['=']
  if start.isPrefixOf arg.toList then some (String.ofList (arg.toList.drop start.length)) else none

def read? (action : Action) (flags : LogFlags) (o : Options) :
    List String → Option (LogFlags × Options)
  | [] => some (flags, o)
  | "--" :: names => do return (flags, ← o.addFiles? names)
  | arg :: rest =>
    if LogFlags.isLogFlag arg then do read? action (← flags.add? arg) o rest
    else if isOption arg then
      match action with
      | .inspectSessionError => none
      | .normalize => do read? action flags (← o.addFlag? arg) rest
      | .inspectResponse =>
        if arg = "--status" then
          match rest with
          | [] => none
          | text :: rest =>
            if isOption text then none else do read? action flags (← o.addStatus? text) rest
        else do
          let text ← after? "--status" arg
          read? action flags (← o.addStatus? text) rest
    else do read? action flags (← o.addFile? arg) rest

def command? (o : Options) : Action → Option Command
  | .inspectSessionError => some .inspectSessionError
  | .normalize => some (.normalize o.includeExtra o.pretty)
  | .inspectResponse => o.status.map .inspectResponse

end Options

structure Invocation where
  command : Command
  file : Option String
  logging : LogFlags
deriving DecidableEq

/-- Reads the arguments; none if they are no proper use of the program. -/
def Invocation.parse? (args : List String) : Option Invocation := do
  let (outer, group, args) ← beforeWord {} args
  let (middle, word, args) ← beforeWord {} args
  let action ← Action.ofWords? group word
  let (inner, o) ← Options.read? action {} {} args
  let command ← o.command? action
  return ⟨command, o.file, (outer.within middle).within inner⟩

end StepUp.CommandLine
