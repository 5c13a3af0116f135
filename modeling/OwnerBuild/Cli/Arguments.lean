/-
# OwnerBuild.Cli.Arguments -- options and arguments of a command line

An option is a word of two dashes and a name, with an optional value behind an
equals sign, or a cluster of one dash and letters. An option that takes a value
takes the next word if it has none of its own, whatever that word looks like; one
that takes none must not be given one. Two dashes alone end the options. Where
options may not be mixed with arguments they also end at the first argument. A
single dash and the empty word are arguments.
-/

import OwnerBuild.Failure

namespace OwnerBuild.Cli

/-- An option: its names, and whether it takes a value. Names of one dash take
none. -/
structure OptionSpec where
  names : List String
  takesValue : Bool

/-- An option that was given, by the first name it has, with its value. -/
structure Given where
  name : String
  value : String
  deriving DecidableEq, Repr

/-- A command line taken apart: the options in order, and the arguments. -/
structure Parsed where
  options : List Given
  arguments : List String
  deriving DecidableEq, Repr

namespace Parsed

/-- An option in front of the others. -/
def withOption (name value : String) (p : Parsed) : Parsed :=
  { p with options := ⟨name, value⟩ :: p.options }

/-- An argument in front of the others. -/
def withArgument (a : String) (p : Parsed) : Parsed := { p with arguments := a :: p.arguments }

/-- Whether an option was given. -/
def has (p : Parsed) (name : String) : Bool := p.options.any (·.name = name)

/-- The values that an option was given, in order. -/
def values (p : Parsed) (name : String) : List String :=
  (p.options.filter (·.name = name)).map (·.value)

/-- The value that an option was given last. -/
def value? (p : Parsed) (name : String) : Option String := (p.values name).getLast?

end Parsed

/-- What a word of a command line is. -/
inductive Word where
  | argument
  | endOfOptions
  | flags (names : List String)
  | named (name : String) (value : Option String)
  deriving DecidableEq, Repr

/-- What a word is: two dashes make a name, one dash a cluster of letters. -/
def wordKind (word : String) : Word :=
  match word.toList with
  | ['-', '-'] => .endOfOptions
  | '-' :: '-' :: name =>
    let value := match name.dropWhile (· != '=') with
      | [] => none
      | _ :: value => some (String.ofList value)
    .named ("--" ++ String.ofList (name.takeWhile (· != '='))) value
  | '-' :: c :: letters => .flags ((c :: letters).map fun letter => String.ofList ['-', letter])
  | _ => .argument

/-- The option of a name. -/
def findOption (specs : List OptionSpec) (name : String) : Except Misuse OptionSpec :=
  match specs.find? (·.names.contains name) with
  | some spec => .ok spec
  | none => .error (.unknownOption name)

/-- The first name of an option. -/
def OptionSpec.mainName (spec : OptionSpec) : String := spec.names.headD ""

/-- The options of a cluster of letters. -/
def flagOptions (specs : List OptionSpec) (names : List String) : Except Misuse (List Given) :=
  names.mapM fun name => (findOption specs name).map fun spec => ⟨spec.mainName, ""⟩

/-- Takes a command line apart; `mixed` tells whether options may follow
arguments. -/
def parse (specs : List OptionSpec) (mixed : Bool) : List String → Except Misuse Parsed
  | [] => .ok ⟨[], []⟩
  | word :: rest =>
    match wordKind word with
    | .endOfOptions => .ok ⟨[], rest⟩
    | .argument =>
      if mixed then (parse specs mixed rest).map (·.withArgument word) else .ok ⟨[], word :: rest⟩
    | .flags names => do
      let given ← flagOptions specs names
      let parsed ← parse specs mixed rest
      return { parsed with options := given ++ parsed.options }
    | .named name value => do
      let spec ← findOption specs name
      match spec.takesValue, value with
      | true, some value => return (← parse specs mixed rest).withOption spec.mainName value
      | true, none =>
        match rest with
        | [] => .error (.optionValue name)
        | value :: rest => return (← parse specs mixed rest).withOption spec.mainName value
      | false, some _ => .error (.optionValue name)
      | false, none => return (← parse specs mixed rest).withOption spec.mainName ""

end OwnerBuild.Cli
