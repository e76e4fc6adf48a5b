import Localization.Text.Quoted

/-!
# Reading the command line

Arguments that start with a dash are options. A long option takes its value after an equals sign or
from the next argument. Letters behind one dash stand together: the first of them that takes a value
takes what is left of the argument, or the next argument. Two dashes end the options. Where options
may not be mixed with other arguments, the first of those ends them too.
-/

namespace Localization.Command

/-- An option: its name with the dashes, its letter if it has one, and whether it takes a value. -/
structure Switch where
  name : Text
  letter : Option Char
  takesValue : Bool

/-- Why a command line cannot be used. -/
inductive UsageFault where
  | noCommand
  | unknownCommand (given : Text)
  | unknownOption (given : Text)
  | valueMissing (name : Text)
  | valueNotTaken (name : Text)
  | extraArgument (given : Text)
  | pathMissing (path : Text)
  | pathIsFile (path : Text)
  | pathIsFolder (path : Text)

/-- The wording of a fault. -/
def UsageFault.message : UsageFault → Text
  | .noCommand => "Missing command."
  | .unknownCommand given => "No such command " ++ given.quoted ++ "."
  | .unknownOption given => "No such option: " ++ given
  | .valueMissing name => "Option " ++ name.quoted ++ " requires an argument."
  | .valueNotTaken name => "Option " ++ name.quoted ++ " does not take a value."
  | .extraArgument given => "Got unexpected extra argument (" ++ given ++ ")"
  | .pathMissing path => "Path " ++ path.quoted ++ " does not exist."
  | .pathIsFile path => "Path " ++ path.quoted ++ " is a file."
  | .pathIsFolder path => "Path " ++ path.quoted ++ " is a directory."

/-- What one argument gives: the options that are complete with their values, and the one that still
waits for its value. -/
structure Piece where
  given : List (Text × Text)
  waiting : Option Switch

/-- What a command line gives: the options in their order, and all other arguments. -/
structure Parsed where
  given : List (Text × Text)
  others : List Text

/-- Reads letters behind one dash. -/
def readLetters (switches : List Switch) : Text → Except UsageFault Piece
  | [] => .ok ⟨[], none⟩
  | c :: rest =>
    match switches.find? fun s => s.letter.any fun l => c = .scalar l with
    | none => .error (.unknownOption [.scalar '-', c])
    | some s =>
      if s.takesValue then
        .ok (if rest.isEmpty then ⟨[], some s⟩ else ⟨[(s.name, rest)], none⟩)
      else (readLetters switches rest).map fun p => ⟨(s.name, []) :: p.given, p.waiting⟩

/-- The value after the first equals sign of an argument. -/
def attached? (arg : Text) : Option Text :=
  match arg.dropWhile (· ≠ .scalar '=') with
  | [] => none
  | _ :: value => some value

/-- Reads an argument that starts with a dash. -/
def readOption (switches : List Switch) (arg : Text) : Except UsageFault Piece :=
  match switches.find? fun s => s.name = arg.takeWhile (· ≠ .scalar '=') with
  | some s =>
    match s.takesValue, attached? arg with
    | true, some value => .ok ⟨[(s.name, value)], none⟩
    | true, none => .ok ⟨[], some s⟩
    | false, none => .ok ⟨[(s.name, [])], none⟩
    | false, some _ => .error (.valueNotTaken s.name)
  | none =>
    if arg.startsWith "--" then .error (.unknownOption arg) else readLetters switches arg.tail

/-- Whether an argument is read as an option. -/
def isOption (arg : Text) : Bool := arg.startsWith "-" && 1 < arg.length

/-- Reads a command line; `mixed` says whether options may follow other arguments. -/
def parse (switches : List Switch) (mixed : Bool) : List Text → Except UsageFault Parsed
  | [] => .ok ⟨[], []⟩
  | arg :: rest =>
    if arg = Text.ofString "--" then .ok ⟨[], rest⟩
    else if isOption arg then
      match readOption switches arg with
      | .error f => .error f
      | .ok ⟨given, none⟩ =>
        (parse switches mixed rest).map fun p => ⟨given ++ p.given, p.others⟩
      | .ok ⟨given, some s⟩ =>
        match rest with
        | [] => .error (.valueMissing s.name)
        | value :: rest =>
          (parse switches mixed rest).map fun p => ⟨given ++ (s.name, value) :: p.given, p.others⟩
    else if mixed then (parse switches mixed rest).map fun p => ⟨p.given, arg :: p.others⟩
    else .ok ⟨[], arg :: rest⟩

namespace Parsed

/-- Whether an option was given. -/
def has (p : Parsed) (name : Text) : Bool := p.given.any fun g => g.1 = name

/-- All values of an option, in their order. -/
def values (p : Parsed) (name : Text) : List Text :=
  (p.given.filter fun g => g.1 = name).map Prod.snd

/-- The value of an option; of several the last counts. -/
def value? (p : Parsed) (name : Text) : Option Text := (p.values name).getLast?

end Parsed

end Localization.Command
