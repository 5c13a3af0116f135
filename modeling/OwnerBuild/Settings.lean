/-
# OwnerBuild.Settings -- which build tool is run, and with which flags

Settings name the executable of the build tool and the flags that every build is
given. Either can come from an explicit argument or from the environment; an
empty argument counts as none. The flags of the environment are one text that is
split into words, and it is split before anything else is looked at: a text that
cannot be split is an error whatever the arguments are.
-/

import OwnerBuild.Json.Fields
import OwnerBuild.Shell.Words

namespace OwnerBuild

/-- The executable that is run when nothing else is said. -/
def Settings.defaultExecutable : String := "bazel"

/-- What is run, and with which extra flags. -/
structure Settings where
  executable : String := Settings.defaultExecutable
  buildFlags : List String := []
  deriving DecidableEq, Repr

/-- The variables that settings are read from. -/
structure Environment where
  executable : Option String := none
  buildFlags : Option String := none
  deriving DecidableEq, Repr

/-- The names of the two variables. -/
def Environment.executableName : String := "BAZEL_CHECK_EXECUTABLE"

@[inherit_doc Environment.executableName]
def Environment.buildFlagsName : String := "BAZEL_CHECK_BUILD_FLAGS"

namespace Settings

open Json in
/-- The settings that the members of an object describe; what is absent is as if
nothing were said. -/
def ofMembers? (members : List (String × Value)) : Option Settings := do
  let executable ← defaulted? Value.text? defaultExecutable "executable" members
  let buildFlags ← defaulted? (fun v => v.items?.bind (·.mapM Value.text?)) [] "build_flags" members
  return { executable, buildFlags }

/-- The settings of an environment and the arguments that override it. -/
def read (env : Environment) (executable : Option String) (buildFlags : Option (List String)) :
    Except Shell.WordsError Settings :=
  (Shell.words (env.buildFlags.getD "")).map fun flags =>
    { executable :=
        match executable with
        | none | some "" => env.executable.getD defaultExecutable
        | some chosen => chosen
      buildFlags :=
        match buildFlags with
        | none | some [] => flags
        | some chosen => chosen }

end Settings

end OwnerBuild
