import Clearance.CommandLine.Arguments
/-!
# Usage — help on the command line
-/
namespace Clearance
namespace CommandLine

def versionText : String := "edst-cli 0.3.0"

namespace Verb

def about : Verb → String
  | .interpret => "Interpret one message compose area command, e.g. `QU ABCFX N123`"
  | .repl => "Read commands from stdin, one per line. An empty line blanks the response"
  | .direct => "Clear a flight direct to a fix on its route"
  | .pending => "Show preferential routes and which one is pending"
  | .reroute => "Apply the n-th preferential route of a flight (arrival unless --departure)"
  | .previousRoute => "Put a flight back on its previous route"

def usage : Verb → String
  | .interpret => "interpret [TEXT]..."
  | .repl => "repl"
  | .direct => "direct [OPTIONS] <FID> <FIX>"
  | .pending => "pending <FID>"
  | .reroute => "reroute [OPTIONS] <FID> <INDEX>"
  | .previousRoute => "previous-route <FID>"

/-- The names of the words that the subcommand takes. -/
def arguments : Verb → List String
  | .interpret => ["[TEXT]..."]
  | .repl => []
  | .direct => ["<FID>", "<FIX>"]
  | .pending => ["<FID>"]
  | .reroute => ["<FID>", "<INDEX>"]
  | .previousRoute => ["<FID>"]

/-- The switches with what they do. -/
def options : Verb → List (String × String)
  | .direct => [("    --amend", "Amend instead of staging a trial plan")]
  | .reroute => [("    --departure", ""), ("    --amend", "")]
  | _ => []

end Verb

/-- Rows of two columns, the second one aligned. -/
def columns (rows : List (String × String)) : String :=
  let width := (rows.map (·.1.length)).foldl max 0
  String.join (rows.map fun r =>
    "  " ++ r.1 ++ String.ofList (List.replicate (width - r.1.length + 2) ' ') ++ r.2 ++ "\n")

def verbHelp (v : Verb) : String :=
  v.about ++ "\n\nUsage: edst --snapshot <SNAPSHOT> " ++ v.usage ++ "\n\n"
    ++ (if v.arguments.isEmpty then "" else "Arguments:\n" ++ columns (v.arguments.map fun a => (a, "")) ++ "\n")
    ++ "Options:\n" ++ columns (v.options ++ [("-h, --help", "Print help")])

def helpAbout : String := "Print this message or the help of the given subcommand(s)"

def mainHelp : String :=
  "Clearance command interpreter and route-amendment engine for an EDST flight-data client\n\n"
    ++ "Usage: edst [OPTIONS] --snapshot <SNAPSHOT> <COMMAND>\n\n"
    ++ "Commands:\n"
    ++ columns (Verb.all.map (fun v => (v.name, v.about))
      ++ [("help", helpAbout)])
    ++ "\nOptions:\n"
    ++ columns
      [("-s, --snapshot <SNAPSHOT>", "JSON array of flight entries [env: EDST_SNAPSHOT=]"),
       ("-c, --config <CONFIG>", "Config file (defaults to the user config directory)"),
       ("    --artcc <ARTCC>", "ARTCC the client is signed into [env: EDST_ARTCC=]"),
       ("    --frd-url <FRD_URL>", "Flight-data server used for FRD lookups [env: EDST_FRD_URL=]"),
       ("-v, --verbose", ""),
       ("-h, --help", "Print help"),
       ("-V, --version", "Print version")]

def helpHelp : String :=
  helpAbout ++ "\n\nUsage: edst --snapshot <SNAPSHOT> help [COMMAND]...\n\nArguments:\n"
    ++ columns [("[COMMAND]...", "Print help for the subcommand(s)")]

def helpText : Topic → String
  | .program => mainHelp
  | .verb v => verbHelp v
  | .help => helpHelp

end CommandLine
end Clearance
