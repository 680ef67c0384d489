/-!
# Command lines

A command line names a command and its options. Two switches for the log stand in front of the
command; everything else follows it.
-/

namespace Companion

inductive Command where
  /-- Tell whether the type gets a companion. -/
  | check (input : String)
  /-- Tell the name of the companion. -/
  | unitName (input : String)
  /-- Render the companion, into a directory if one is given. -/
  | generate (input : String) (output settings : Option String)
deriving DecidableEq, Repr

structure Invocation where
  verbose : Bool := false
  debug : Bool := false
  command : Command
deriving DecidableEq, Repr

namespace Arguments

inductive OptionName where
  | input
  | output
  | config
deriving DecidableEq, Repr

namespace OptionName

def long : OptionName → List Char
  | .input => "input".toList
  | .output => "output".toList
  | .config => "config".toList

def short : OptionName → Char
  | .input => 'i'
  | .output => 'o'
  | .config => 'c'

end OptionName

/-- The value that follows an option as an argument of its own: it may not look like an option. -/
def separateValue? (value : String) : Option String :=
  if value = "" ∨ (value ≠ "-" ∧ value.toList.head? = some '-') then none else some value

/-- The value that is attached to an option: it may not be empty. -/
def attachedValue? (value : List Char) : Option String :=
  if value = [] then none else some (String.ofList value)

def splitOption? (known : List OptionName) (argument : List Char) :
    Option (OptionName × Option (List Char)) :=
  match argument with
  | '-' :: '-' :: name =>
      let word := name.takeWhile (· ≠ '=')
      let attached :=
        match name.drop word.length with
        | _ :: value => some value
        | [] => none
      (known.find? fun option => option.long = word).map fun option => (option, attached)
  | '-' :: letter :: value =>
      let attached :=
        match value with
        | [] => none
        | '=' :: value => some value
        | _ => some value
      (known.find? fun option => option.short = letter).map fun option => (option, attached)
  | _ => none

/-- Reads the options of a command. No option may come twice; a double dash may end them. -/
def readOptions (known : List OptionName) (found : List (OptionName × String)) :
    List String → Option (List (OptionName × String))
  | [] => some found
  | argument :: rest =>
      if argument = "--" then
        if rest = [] then some found else none
      else
        match splitOption? known argument.toList with
        | none => none
        | some (option, attached) =>
            if (found.lookup option).isSome then none
            else
              match attached, rest with
              | some value, rest =>
                  match attachedValue? value with
                  | some value => readOptions known ((option, value) :: found) rest
                  | none => none
              | none, value :: rest =>
                  match separateValue? value with
                  | some value => readOptions known ((option, value) :: found) rest
                  | none => none
              | none, [] => none

/-- The settings file that holds where none is given. An empty name is refused. -/
def settingsFile? (given environment : Option String) : Option (Option String) :=
  match given, environment with
  | some path, _ => some (some path)
  | none, some "" => none
  | none, some path => some (some path)
  | none, none => some none

def readCommand (environment : Option String) (name : String) (arguments : List String) :
    Option Command :=
  match name with
  | "check" => do
      let found ← readOptions [.input] [] arguments
      let input ← found.lookup .input
      some (.check input)
  | "unit-name" => do
      let found ← readOptions [.input] [] arguments
      let input ← found.lookup .input
      some (.unitName input)
  | "generate" => do
      let found ← readOptions [.input, .output, .config] [] arguments
      let input ← found.lookup .input
      let settings ← settingsFile? (found.lookup .config) environment
      some (.generate input (found.lookup .output) settings)
  | _ => none

structure Switches where
  verbose : Bool := false
  debug : Bool := false

/-- Turns a switch on; none may be turned on twice. -/
def Switches.turnOn? (switches : Switches) (letter : Char) : Option Switches :=
  match letter with
  | 'v' => if switches.verbose then none else some { switches with verbose := true }
  | 'd' => if switches.debug then none else some { switches with debug := true }
  | _ => none

def Switches.read? (switches : Switches) (argument : String) : Option Switches :=
  if argument = "--verbose" then switches.turnOn? 'v'
  else if argument = "--debug" then switches.turnOn? 'd'
  else argument.toList.tail.foldlM Switches.turnOn? switches

def readInvocation (environment : Option String) (switches : Switches) :
    List String → Option Invocation
  | [] => none
  | argument :: rest =>
      if argument.toList.head? = some '-' ∧ argument ≠ "-" then
        match switches.read? argument with
        | some switches => readInvocation environment switches rest
        | none => none
      else do
        let command ← readCommand environment argument rest
        some { verbose := switches.verbose, debug := switches.debug, command }

end Arguments

/-- Reads the arguments of the program. The environment may name a settings file. -/
def Invocation.parse (environment : Option String) (arguments : List String) :
    Option Invocation :=
  Arguments.readInvocation environment {} arguments

end Companion
