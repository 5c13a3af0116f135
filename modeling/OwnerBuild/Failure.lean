/-
# OwnerBuild.Failure -- why an action stops

Each failure is a cause with the facts that belong to it, and its wording is a
function of them. Misuse of the command line is one failure among the others,
told apart by what was wrong with it.
-/

import OwnerBuild.Format
import OwnerBuild.Query
import OwnerBuild.Workspace

namespace OwnerBuild

/-- What is wrong with a command line. -/
inductive Misuse where
  | noArguments
  | unknownOption (name : String)
  | optionValue (name : String)
  | missingArgument
  | nulInPath
  | badFormat (e : Format.Unsupported)
  | other
  deriving DecidableEq, Repr

/-- Why an action stops. -/
inductive Failure where
  | lookup (e : LookupError)
  | outside
  | unquotable (e : Unquotable)
  | noTargets
  | launch (executable reason : String)
  | nulInCommand
  | unknownChecker (name : String)
  | alreadyRegistered (name : String)
  | words (e : Shell.WordsError)
  | misuse (m : Misuse)
  | changeStream
  deriving DecidableEq, Repr

namespace Failure

/-- The wording of a failure, as far as it has one of its own. -/
def message : Failure → String
  | .lookup .embeddedNul | .nulInCommand => "embedded null byte"
  | .lookup .linkLoop | .lookup .linksTooDeep | .lookup (.refused _) => ""
  | .outside => ""
  | .unquotable e => e.message
  | .noTargets => "Refusing to build without targets."
  | .launch executable reason => "Could not run '" ++ executable ++ "': " ++ reason
  | .unknownChecker name => name
  | .alreadyRegistered name => "Checker '" ++ name ++ "' is already registered."
  | .words e => e.message
  | .misuse (.badFormat e) => e.message
  | .misuse .nulInPath => "Value error, embedded null byte"
  | .misuse _ => ""
  | .changeStream => ""

end Failure

/-- The failure to name a path inside a workspace. -/
def RelativeError.toFailure : RelativeError → Failure
  | .lookup e => .lookup e
  | .outside => .outside

end OwnerBuild
