/-!
Reading command lines. An option is written `--name value`, `--name=value`, `-n value` or `-nvalue`;
flags may share one dash. Two dashes end the options.
-/
namespace GroupLint.CommandLine

inductive UsageFault where
  | unknownOption (text : String)
  | missingValue (name : String)
  | unexpectedValue (name : String)
  | missingCommand
  | unknownCommand (name : String)
  | missingPath
  | extraArgument (text : String)
  | noSuchPath (path : String)
  | settingsIsDirectory (path : String)
  | unreadablePath (path : String)
  | unknownFormat (name : String)
deriving DecidableEq, Repr

structure OptionSpec where
  name : String
  short : Option Char
  takesValue : Bool
deriving DecidableEq, Repr

structure Given where
  name : String
  value : Option String
deriving DecidableEq, Repr

structure Arguments where
  options : List Given
  positionals : List String
deriving DecidableEq, Repr

def readShort (specs : List OptionSpec) : List Char → Except UsageFault (List Given × Option String)
  | [] => .ok ([], none)
  | c :: r =>
    match specs.find? (·.short == some c) with
    | none => .error (.unknownOption (String.ofList ['-', c]))
    | some spec =>
      if spec.takesValue then
        if r.isEmpty then .ok ([], some spec.name) else .ok ([⟨spec.name, some (String.ofList r)⟩], none)
      else
        match readShort specs r with
        | .ok (gs, waiting) => .ok (⟨spec.name, none⟩ :: gs, waiting)
        | .error e => .error e

def readOption (specs : List OptionSpec) (text : List Char) :
    Except UsageFault (List Given × Option String) :=
  let written := text.takeWhile (· != '=')
  let value := if text.contains '=' then some (String.ofList (text.drop (written.length + 1))) else none
  match specs.find? (fun spec => written == '-' :: '-' :: spec.name.toList) with
  | some spec =>
    match spec.takesValue, value with
    | true, some v => .ok ([⟨spec.name, some v⟩], none)
    | true, none => .ok ([], some spec.name)
    | false, some _ => .error (.unexpectedValue spec.name)
    | false, none => .ok ([⟨spec.name, none⟩], none)
  | none =>
    match text with
    | '-' :: '-' :: _ => .error (.unknownOption (String.ofList text))
    | _ => readShort specs (text.drop 1)

/-- Reads arguments while an option may be waiting for its value. Where positionals are not mixed
with options, the first of them ends the options. -/
def readArguments (specs : List OptionSpec) (mixed : Bool) (waiting : Option String) :
    List String → Except UsageFault Arguments
  | [] =>
    match waiting with
    | some name => .error (.missingValue name)
    | none => .ok ⟨[], []⟩
  | a :: r =>
    match waiting with
    | some name => (readArguments specs mixed none r).map fun x => ⟨⟨name, some a⟩ :: x.options, x.positionals⟩
    | none =>
      if a == "--" then .ok ⟨[], r⟩
      else if a.startsWith "-" && a != "-" then
        match readOption specs a.toList with
        | .error e => .error e
        | .ok (gs, next) =>
          (readArguments specs mixed next r).map fun x => ⟨gs ++ x.options, x.positionals⟩
      else if mixed then
        (readArguments specs mixed none r).map fun x => ⟨x.options, a :: x.positionals⟩
      else .ok ⟨[], a :: r⟩

def Arguments.has (x : Arguments) (name : String) : Bool := x.options.any (·.name == name)

def Arguments.value? (x : Arguments) (name : String) : Option String :=
  ((x.options.filter (·.name == name)).getLast?).bind (·.value)

inductive Command where
  | version
  | help
  | check (paths : List String) (settings : Option String) (format : String)
  | showSettings (settings : Option String)
deriving DecidableEq, Repr

structure Invocation where
  verbose : Bool
  command : Command
deriving DecidableEq, Repr

def help : OptionSpec := ⟨"help", none, false⟩
def settingsOption : OptionSpec := ⟨"config", some 'c', true⟩
def formatOption : OptionSpec := ⟨"format", some 'f', true⟩

def mainOptions : List OptionSpec :=
  [⟨"version", some 'V', false⟩, ⟨"verbose", some 'v', false⟩, help]

def checkCommand (args : List String) : Except UsageFault Command := do
  let x ← readArguments [settingsOption, formatOption, help] true none args
  if x.has "help" then return .help
  if x.positionals.isEmpty then throw .missingPath
  return .check x.positionals (x.value? "config") ((x.value? "format").getD "text")

def showCommand (args : List String) : Except UsageFault Command := do
  let x ← readArguments [settingsOption, help] true none args
  if x.has "help" then return .help
  match x.positionals with
  | [] => return .showSettings (x.value? "config")
  | a :: _ => throw (.extraArgument a)

/-- The version and the help win over the rest of the line, whichever comes first. -/
def eager? (x : Arguments) : Option Command :=
  x.options.findSome? fun g =>
    if g.name == "version" then some .version else if g.name == "help" then some .help else none

/-- What stands where a command should, being none, is read for options once more: two dashes do
not hide the version or the help there. -/
def parse (args : List String) : Except UsageFault Invocation := do
  let x ← readArguments mainOptions false none args
  let verbose := x.has "verbose"
  match eager? x with
  | some c => return ⟨verbose, c⟩
  | none =>
    match x.positionals with
    | [] => throw .missingCommand
    | "check" :: r => return ⟨verbose, ← checkCommand r⟩
    | "show-config" :: r => return ⟨verbose, ← showCommand r⟩
    | name :: r =>
      match readArguments mainOptions false none (name :: r) with
      | .error e => throw e
      | .ok y =>
        match eager? y with
        | some c => return ⟨verbose, c⟩
        | none => throw (.unknownCommand name)

end GroupLint.CommandLine
