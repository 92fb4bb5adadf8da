import Readership.Command.Answering

/-!
# The program as a whole

From the arguments to what is printed and the exit code: zero for an answer,
for help and for the version, one for a failed request, two for arguments that
make no call, a hundred and one for an answer that breaks off.
-/

namespace Readership.Command

/-- **How the program ends.** -/
structure Exit where
  code : Nat
  /-- What goes to the standard output. -/
  out : String
  /-- What goes to the standard error. -/
  err : String
deriving DecidableEq, Repr

/-- The name and the version of the program. -/
def versionText : String := "blogstat 0.1.0\n"

/-- How the program is called, line by line. -/
def usageLines : List String :=
  ["blogstat - Blog view metrics",
    "",
    "Usage: blogstat [OPTIONS] <COMMAND>",
    "",
    "Commands:",
    "  grouped  Blog and view counts per time bucket and viewer country or user",
    "  top      Top 10 users, countries or blogs by views",
    "  growth   Views per bucket with growth from the previous bucket",
    "  inspect  Compile a filter document and print the predicate and SQL",
    "  help     Print this message",
    "",
    "Options:",
    "  -c, --config <CONFIG>        Path to configuration file",
    "  -l, --log-level <LOG_LEVEL>  Log level, overrides the configuration file",
    "  -h, --help                   Print help",
    "  -V, --version                Print version",
    ""]

/-- How the program is called. -/
def usageText : String :=
  Text.joinWith "\n" usageLines

/-- The end that a lack of a call comes to. -/
def Stop.exit : Stop → Exit
  | .help => ⟨0, usageText, ""⟩
  | .version => ⟨0, versionText, ""⟩
  | .misuse => ⟨2, "", "error: the arguments make no command\n\n" ++ usageText⟩

/-- The causes in the message of a failure, each on a line of its own. -/
def causesText (causes : List String) : String :=
  if causes.isEmpty then ""
  else "\n\nCaused by:\n" ++ Text.joinWith "\n" (causes.map ("    " ++ ·))

/-- The message of a failure as it is printed. -/
def Failure.text (failure : Failure) : String :=
  match failure.messages with
  | [] => "Error\n"
  | outermost :: causes => "Error: " ++ outermost ++ causesText causes ++ "\n"

/-- The end that the answer to a call comes to, if there is one. -/
def exitOf : Option (Except Failure Reply) → Exit
  | some (.ok reply) =>
    ⟨0, reply.text, match reply.store with
      | some name => "\n[" ++ name ++ "]\n"
      | none => ""⟩
  | some (.error failure) => ⟨1, "", failure.text⟩
  | none => ⟨101, "", "a week begins before the calendar\n"⟩

/-- **The program.** -/
def run {m : Type → Type} [Monad m] (host : Host m) (arguments : List String) : m Exit :=
  match Call.ofArguments arguments with
  | .error stop => pure stop.exit
  | .ok call => do
    let answer ← (call.answer host).run.run
    pure (exitOf answer)

end Readership.Command
