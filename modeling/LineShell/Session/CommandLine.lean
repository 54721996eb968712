import LineShell.Text.Basic
/-!
# The command line

The shell takes a configuration file (`--config`), a single line to run (`-c`, `--command`) and a
script. `--help` and `help` ask for the help text, `--` ends the options. Options are recognised
only as whole words, and their value is the next word.

`CommandLine.parse` gives the arguments, or the reason why there will be no session.
-/

namespace LineShell

/-- What the command line asks for. -/
structure CommandLine where
  config : Option Text
  command : Option Text
  script : Option Text
  deriving DecidableEq, Repr

namespace CommandLine

/-- Why there is no session. -/
inductive Refusal where
  | help
  | unrecognized (word : Text)
  | noValue (option : Text)
  | duplicate (option value : Text)
  /-- An option stands behind a request for help. -/
  | trailing
  deriving DecidableEq, Repr

/-- The text of `--help`. -/
def helpText : Text := Text.lit "Usage: bosh [--config <config>] [-c <command>] [--] [<script>]

bosh, the barebones operating-system shell.

Positional Arguments:
  script            script to run one line at a time instead of reading the
                    terminal

Options:
  --config          config file (default: ~/.config/bosh/bosh.toml)
  -c, --command     run a single command line and exit
  --help, help      display usage information

"

/-- The line behind every complaint. -/
def hint : Text := Text.lit "\nRun bosh --help for more information.\n"

/-- The complaint about a wrong command line. -/
def Refusal.message : Refusal → Text
  | help => helpText
  | unrecognized word => Text.lit "Unrecognized argument: " ++ word ++ ['\n'] ++ hint
  | noValue option =>
    Text.lit "No value provided for option '" ++ option ++ Text.lit "'.\n" ++ hint
  | duplicate option value =>
    Text.lit "Error parsing option '" ++ option ++ Text.lit "' with value '" ++ value ++
      Text.lit "': duplicate values provided\n" ++ hint
  | trailing => Text.lit "Trailing arguments are not allowed after `help`." ++ hint

/-- What has been read so far. -/
structure Reading where
  line : CommandLine
  help : Bool
  optionsEnded : Bool

/-- Which option a word names. -/
inductive Named where
  | config
  | command
  deriving DecidableEq, Repr

/-- The option of a word. -/
def named? (word : Text) : Option Named :=
  if word = Text.lit "--config" then some .config
  else if word = Text.lit "-c" || word = Text.lit "--command" then some .command
  else none

/-- Gives an option its value; it must not have one yet. -/
def setOption (line : CommandLine) (name : Named) (option value : Text) :
    Except Refusal CommandLine :=
  match name with
  | .config =>
    if line.config.isSome then .error (.duplicate option value)
    else .ok { line with config := some value }
  | .command =>
    if line.command.isSome then .error (.duplicate option value)
    else .ok { line with command := some value }

/-- Takes a word that is no option. -/
def setScript (line : CommandLine) (word : Text) : Except Refusal CommandLine :=
  if line.script.isSome then .error (.unrecognized word)
  else .ok { line with script := some word }

/-- Reads the words from a state on. -/
def parseFrom (r : Reading) : List Text → Except Refusal Reading
  | [] => .ok r
  | word :: rest =>
    if !r.optionsEnded && (word = Text.lit "--help" || word = Text.lit "help") then
      parseFrom { r with help := true } rest
    else if !r.optionsEnded && word.head? == some '-' then
      if word = Text.lit "--" then parseFrom { r with optionsEnded := true } rest
      -- Behind a request for help only plain words may stand.
      else if r.help then .error .trailing
      else match named? word, rest with
        | none, _ => .error (.unrecognized word)
        | some _, [] => .error (.noValue word)
        | some name, value :: rest =>
          match setOption r.line name word value with
          | .error e => .error e
          | .ok line => parseFrom { r with line := line } rest
    else match setScript r.line word with
      | .error e => .error e
      | .ok line => parseFrom { r with line := line } rest

/-- Reads a command line. -/
def parse (words : List Text) : Except Refusal CommandLine :=
  match parseFrom ⟨⟨none, none, none⟩, false, false⟩ words with
  | .error e => .error e
  | .ok r => if r.help then .error .help else .ok r.line

end CommandLine

end LineShell
