import CardToolkit.CommandLine.Run

/-!
# The command line

Takes the words of the command line apart, runs what they ask and prints the
lines of the answer, or the fault on the standard error.
-/

namespace CardToolkit.CommandLine

/-- What is printed instead of an answer. -/
def UsageFault.line : UsageFault → String
  | .help | .noArguments => "usage: COMMAND [ARGUMENTS], with one of the commands " ++
      String.intercalate ", " (commands.map CommandForm.name)
  | .version => "0.1.0"
  | .unknownCommand => "error: unrecognized subcommand"
  | .noCommand => "error: a subcommand is required"
  | .unknownArgument => "error: unexpected argument"
  | .missingArgument => "error: a required argument is missing"
  | .conflict => "error: arguments cannot be used together"
  | .invalidValue => "error: a value is missing or not among the possible ones"
  | .notANumber => "error: a value is not a number in range"
  | .unexpectedValue => "error: a value is given where none is expected"

/-- The exit code of words that are no command. -/
def UsageFault.exitCode : UsageFault → UInt32
  | .help | .version => 0
  | _ => 2

/-- What a command line prints, on the standard output or the standard error, and
    its exit code. -/
structure Printed where
  output : List String := []
  errors : List String := []
  exitCode : UInt32 := 0
  deriving DecidableEq

/-- What the words of a command line print. -/
def printed (words : List String) : Printed :=
  match parse words with
  | .error fault =>
    if fault.exitCode = 0 then { output := [fault.line] }
    else { errors := [fault.line], exitCode := fault.exitCode }
  | .ok asked =>
    match asked.invocation.run with
    | .ok lines => { output := lines }
    | .error fault => { errors := ["Error: " ++ fault.message], exitCode := 1 }

end CardToolkit.CommandLine

def main (words : List String) : IO UInt32 := do
  let p := CardToolkit.CommandLine.printed words
  p.output.forM IO.println
  p.errors.forM IO.eprintln
  return p.exitCode
