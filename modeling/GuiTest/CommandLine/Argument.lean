import GuiTest.Text.Blank

/-!
# Arguments

Arguments are read from left to right. One that begins with `-` names an option, whose value follows
it, after `=` or in the next argument; `--` makes all that follows positional, and `-` alone is
positional. A command says which options it takes; each may be given once.
-/

namespace GuiTest.CommandLine

/-- What an argument is by its looks. The letter of a short option is followed by the rest of the
argument, of a long option by what comes after the first `=`. -/
inductive Argument where
  | separator
  | long (name : String) (attached : Option String)
  | short (letter : Char) (rest : List Char)
  | plain (text : String)
  deriving DecidableEq, Repr

/-- Parts a long option from the value that is attached to it. -/
def Argument.ofLong (cs : List Char) : Argument :=
  match Text.splitAtFirst? '=' cs with
  | some (name, value) => .long (String.ofList name) (some (String.ofList value))
  | none => .long (String.ofList cs) none

/-- Looks at an argument. -/
def Argument.ofText (text : String) : Argument :=
  match text.toList with
  | ['-', '-'] => .separator
  | '-' :: '-' :: cs => .ofLong cs
  | '-' :: c :: cs => .short c cs
  | _ => .plain text

/-- The options there are. -/
inductive OptionName where
  | version
  | format
  | context
  | timeout
  | workdir
  | project
  | cmake
  | noX64
  | check
  | ideVersion
  deriving DecidableEq, Repr

namespace OptionName

/-- The name after two dashes. -/
def long : OptionName → String
  | version => "version"
  | format => "format"
  | context => "context"
  | timeout => "timeout"
  | workdir => "workdir"
  | project => "project"
  | cmake => "cmake"
  | noX64 => "no-x64"
  | check => "check"
  | ideVersion => "ide-version"

/-- The letter after one dash, if there is one. -/
def letter? : OptionName → Option Char
  | version => some 'V'
  | format => some 'f'
  | context => some 'c'
  | timeout => some 'o'
  | workdir => some 'w'
  | project => some 'p'
  | _ => none

/-- Whether a value follows. -/
def takesValue : OptionName → Bool
  | version => false
  | cmake => false
  | noX64 => false
  | check => false
  | _ => true

end OptionName

/-- How an option was given. -/
inductive Given where
  | flag (name : OptionName)
  | attached (name : OptionName) (value : String)
  | awaiting (name : OptionName)
  deriving DecidableEq, Repr

/-- The value that is attached to a short option, with or without `=`. -/
def attachedValue? : List Char → Option String
  | [] => none
  | '=' :: cs => some (String.ofList cs)
  | cs => some (String.ofList cs)

/-- Recognises an argument as one of some options. A flag takes no value. -/
def Given.of? (accepted : List OptionName) : Argument → Option Given
  | .long name value =>
    match accepted.find? fun o => o.long == name, value with
    | some o, some v => if o.takesValue then some (.attached o v) else none
    | some o, none => some (if o.takesValue then .awaiting o else .flag o)
    | none, _ => none
  | .short c rest =>
    match accepted.find? fun o => o.letter? == some c with
    | some o =>
      if o.takesValue then
        match attachedValue? rest with
        | some v => some (.attached o v)
        | none => some (.awaiting o)
      else some (.flag o)
    | none => none
  | _ => none

/-- What the arguments of a command say: options with their values, of which a flag's is empty, and
positional arguments. -/
structure Gathered where
  options : List (OptionName × String) := []
  positionals : List String := []
  deriving DecidableEq, Repr

namespace Gathered

/-- Adds an option, unless it is there already. -/
def addOption? (g : Gathered) (name : OptionName) (value : String) : Option Gathered :=
  if (g.options.lookup name).isSome then none
  else some { g with options := g.options ++ [(name, value)] }

/-- Adds positional arguments. -/
def addPositionals (g : Gathered) (texts : List String) : Gathered :=
  { g with positionals := g.positionals ++ texts }

/-- Reads arguments after those that are gathered. There is nothing if one of them cannot stand
where it does. -/
def gather? (accepted : List OptionName) (g : Gathered) : List String → Option Gathered
  | [] => some g
  | argument :: rest =>
    match Argument.ofText argument with
    | .separator => some (g.addPositionals rest)
    | .plain text => gather? accepted (g.addPositionals [text]) rest
    | other =>
      match Given.of? accepted other with
      | none => none
      | some (.flag name) => (g.addOption? name "").bind fun g => gather? accepted g rest
      | some (.attached name value) =>
        (g.addOption? name value).bind fun g => gather? accepted g rest
      | some (.awaiting name) =>
        match rest with
        | value :: rest =>
          match Argument.ofText value with
          | .plain value => (g.addOption? name value).bind fun g => gather? accepted g rest
          | _ => none
        | [] => none

/-- The value of an option. -/
def value? (g : Gathered) (name : OptionName) : Option String := g.options.lookup name

/-- Whether an option is given. -/
def has (g : Gathered) (name : OptionName) : Bool := (g.value? name).isSome

end Gathered

end GuiTest.CommandLine
