import CardToolkit.CommandLine.Encoding
import CardToolkit.CommandLine.Listing
import CardToolkit.CommandLine.Session

/-!
# Running a command line

From what is asked to the lines of the answer.
-/

namespace CardToolkit.CommandLine

/-- The lines of what is asked, or why there are none. -/
def Invocation.run : Invocation → Except CommandFault (List String)
  | terminalResponse options => (CommandLine.terminalResponse options).map ([·])
  | menuSelection item help => (CommandLine.menuSelection item help).map ([·])
  | eventDownload event source info => (CommandLine.eventDownload event source info).map ([·])
  | list table => .ok (listing table)
  | demo language => (session language).mapError .toolkit

end CardToolkit.CommandLine
