import LineShell.Machine.Directories
/-!
# Where configuration and data lie

Both lie in directories of the user that they share with other programs, or below the working
directory when the user has none.
-/

namespace LineShell.Configuration

/-- The file read when no other is named. -/
def defaultFile (directories : Directories) (env : Environment) : Bytes :=
  Path.join ((directories.configuration env).getD (bytesOf ".")) (bytesOf "bosh/bosh.toml")

/-- The directory for history and log. -/
def dataDirectory (directories : Directories) (env : Environment) : Bytes :=
  Path.join ((directories.data env).getD (bytesOf ".")) (bytesOf "bosh")

end LineShell.Configuration
