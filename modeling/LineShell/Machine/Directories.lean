import LineShell.Machine.Environment
import LineShell.Machine.Path
/-!
# Directories of a user

Where a user has the home directory, and the directories in which all programs keep their
configuration and their data. `Directories` is any way to look them up from the variables of a
process. `Directories.standard` is the usual one: two variables name the directories for
configuration and data, if they hold absolute paths; otherwise these lie in the home directory.
-/

namespace LineShell

/-- Where the directories of a user are, given the variables of a process. Any of them may be
unknown. -/
structure Directories where
  home : Environment → Option Bytes
  configuration : Environment → Option Bytes
  data : Environment → Option Bytes

namespace Directories

/-- The home directory: the variable `HOME`, or what the user database says when it is missing or
empty. -/
def homeOf (account : Option Bytes) (env : Environment) : Option Bytes :=
  match env.lookup? (Text.lit "HOME") with
  | some value => if value.isEmpty then account else some value
  | none => account

/-- The directory that a variable names, or else a directory in the home directory. -/
def baseOf (account : Option Bytes) (variableName : Text) (inHome : Bytes) (env : Environment) :
    Option Bytes :=
  let fallback := (homeOf account env).map (Path.join · inHome)
  match env.lookup? variableName with
  | some directory => if Path.isAbsolute directory then some directory else fallback
  | none => fallback

/-- The usual lookup, given the home directory in the user database. -/
def standard (account : Option Bytes) : Directories :=
  { home := homeOf account
    configuration := baseOf account (Text.lit "XDG_CONFIG_HOME") (bytesOf ".config")
    data := baseOf account (Text.lit "XDG_DATA_HOME") (bytesOf ".local/share") }

end Directories

end LineShell
