import HeaderCatalog.CommandLine.Run
import HeaderCatalog.Json.Printer

/-!
# Reports

What a run tells its user beside its output: the events that are important enough (`Event.isShown`), an error with all
its causes (`RunError.report`), and what is wrong with a command line (`Refusal.message`).
-/

namespace HeaderCatalog

/-- How verbose a run has to be to show a level. -/
def Level.verbosity : Level → Nat
  | warn => 0
  | info => 1
  | debug => 2
  | trace => 3

/-- Whether a run shows an event. -/
def Event.isShown (verbosity : Nat) (e : Event) : Bool := e.level.verbosity ≤ verbosity

/-- An event on one line. -/
def Event.line (e : Event) : String :=
  e.level.name ++ " " ++ e.message ++
    String.join (e.fields.map fun (name, value) => " " ++ name ++ "=" ++ value.compactText)

namespace CommandLine

/-- The causes of an error, numbered if there are several. -/
def causeLines : List String → List String
  | [] => []
  | [cause] => ["", "Caused by:", "    " ++ cause]
  | causes => "" :: "Caused by:" :: causes.zipIdx.map fun (cause, i) => "    " ++ toString i ++ ": " ++ cause

/-- An error and its causes. -/
def RunError.report (e : RunError) : String :=
  match e.chain with
  | [] => ""
  | first :: causes => "\n".intercalate (("Error: " ++ first) :: causeLines causes)

/-- How the program is called. -/
def usage : String := "\n".intercalate [
  "Usage: header-catalog [-v...] extract -i <INPUT>... [OPTIONS] [-o <FILE>] [--compact] [--no-op]",
  "       header-catalog [-v...] list -i <INPUT>... [OPTIONS]",
  "",
  "Options:",
  "  -i, --input <INPUT>...           snapshot files, as paths or patterns",
  "      --platform <PLATFORM>        the platform to be available on [default: macos]",
  "      --deployment-target <V>      the oldest version of the platform to be available on",
  "      --framework <NAME>           only classes declared inside <NAME>.framework",
  "      --include-deprecated         keep deprecated declarations",
  "  -o, --out <FILE>                 the file to write, instead of the standard output",
  "      --compact                    a document on one line",
  "      --no-op                      do nothing",
  "  -v, --verbose                    more events",
  "  -h, --help                       this text"]

/-- A refusal in words. -/
def Refusal.message : Refusal → String
  | help | nothing => usage
  | version => "header-catalog 0.1.0"
  | noAction => "error: an action is missing: extract or list"
  | unknownAction => "error: there is no such action"
  | unknownWord => "error: unexpected argument"
  | noInput => "error: no input is given"
  | noValue => "error: a value is missing"
  | badVersion => "error: the version is malformed"
  | again => "error: an option is given twice"
  | surplusValue => "error: an option takes no value"

end CommandLine

end HeaderCatalog
