import BuildManifest.Invocation
import BuildManifest.Terminal

/-!
What the program says about its command line: the help text, and the reports
about arguments that cannot be used. A report shows how the program would have
to be called, given what has been understood of the arguments.
-/

namespace BuildManifest

namespace Invocation

def Opt.usage (o : Opt) : Text :=
  ("--" : Text) ++ o.name ++
    match o with
    | .maxPasses => (" <N>" : Text)
    | .timeout => (" <SECS>" : Text)
    | .shell => (" <SHELL>" : Text)

def Parameter.usage : Parameter → Text
  | .manifest => "<MANIFEST>"
  | .flags => "<VARS>..."
  | .opt o => o.usage
  | .switch s => ("--" : Text) ++ s.name

def usageLine : Text := "Usage: yang [OPTIONS] <MANIFEST> [VARS]...\n"

/-- How to call the program with the named parameters that have been given. -/
def usageWith (given : List Parameter) : Text :=
  if given.isEmpty then usageLine
  else
    let named := given.filter fun p => p.name?.isSome
    ("Usage: yang " : Text) ++ (named.flatMap fun p => p.usage ++ [' ']) ++
      ("<MANIFEST> " : Text) ++
      (if given.contains .flags then ("<VARS>...\n" : Text) else ("[VARS]...\n" : Text))

/-- Everything that may be given, as alternatives. Help and version are none. -/
def alternatives : Text :=
  ("<MANIFEST|VARS|--verbose|" : Text) ++ Opt.maxPasses.usage ++ ['|'] ++ Opt.timeout.usage ++
    ['|'] ++ Opt.shell.usage ++ ['>']

/-- How to call the program with a switch that was given a value. Whatever had
been given before makes all parameters alternatives. -/
def usageOfSwitch (s : Switch) (given : List Parameter) : Text :=
  if given.isEmpty then usageWith [.switch s]
  else
    ("Usage: yang " : Text) ++
      (if s = .verbose then [] else (Parameter.switch s).usage ++ [' ']) ++
      alternatives ++ ['\n']

def helpText : Text :=
  ("yang: declarative build pipeline interpreter\n\n" : Text) ++ usageLine ++
  ("\nArguments:\n" : Text) ++
  ("  <MANIFEST>  Path to the build manifest\n" : Text) ++
  ("  [VARS]...   Variables seeded before the manifest runs, as `key:value` or a bare `key`\n"
    : Text) ++
  ("\nOptions:\n" : Text) ++
  ("  -v, --verbose         Enable verbose logging output\n" : Text) ++
  ("      --max-passes <N>  Maximum expansion passes before a variable is reported as cyclic "
    : Text) ++ ("[default: 64]\n" : Text) ++
  ("      --timeout <SECS>  Kill any command or download running longer than this many seconds\n"
    : Text) ++
  ("      --shell <SHELL>   Shell used to run commands " : Text) ++
  ("(defaults to /bin/sh, or cmd.exe on Windows)\n" : Text) ++
  ("  -h, --help            Print help\n" : Text) ++
  ("  -V, --version         Print version\n" : Text)

def versionText : Text := "yang 0.3.1\n"

def numberFault (value : Text) : Text :=
  if value.isEmpty then "cannot parse integer from empty string"
  else
    let digits := match value with
      | '+' :: rest => rest
      | t => t
    if digits.all Char.isDigit && value ≠ ['+'] then "number too large to fit in target type"
    else "invalid digit found in string"

def Fault.message : Fault → Text
  | .noManifest =>
      "the following required arguments were not provided:\n  <MANIFEST>"
  | .unknownLetter c =>
      ("unexpected argument '" : Text) ++ Terminal.shown ['-', c] ++ ("' found" : Text)
  | .unknownName name _ _ =>
      ("unexpected argument '--" : Text) ++ Terminal.shown name ++ ("' found" : Text)
  | .noValue p =>
      ("a value is required for '" : Text) ++ p.usage ++ ("' but none was supplied" : Text)
  | .badValue p value =>
      ("invalid value '" : Text) ++ Terminal.shown value ++ ("' for '" : Text) ++ p.usage ++
        ("': " : Text) ++ numberFault value
  | .repeated p =>
      ("the argument '" : Text) ++ p.usage ++ ("' cannot be used multiple times" : Text)
  | .needlessValue s value _ =>
      ("unexpected value '" : Text) ++ Terminal.shown value ++ ("' for '--" : Text) ++ s.name ++
        ("' found; no more were expected" : Text)
  | .help | .version => []

/-- An unknown argument may have been meant as a flag. -/
def flagTip (argument : Text) : Text :=
  let t := Terminal.shown argument
  ("  tip: to pass '" : Text) ++ t ++ ("' as a value, use '-- " : Text) ++ t ++ ("'\n\n" : Text)

/-- An unknown name may have been meant as a similar one. -/
def Fault.tip : Fault → Text
  | .unknownLetter c => flagTip ['-', c]
  | .unknownName name none _ => flagTip (("--" : Text) ++ name)
  | .unknownName _ (some p) _ =>
    ("  tip: a similar argument exists: '--" : Text) ++ p.name?.getD [] ++ ("'\n\n" : Text)
  | _ => []

def Fault.usage : Fault → Text
  | .unknownLetter _ | .repeated _ => usageLine ++ ['\n']
  | .unknownName _ similar given =>
    usageWith (given ++ similar.toList.filter fun p => !given.contains p) ++ ['\n']
  | .needlessValue s _ given => usageOfSwitch s given ++ ['\n']
  | _ => []

def Fault.report (f : Fault) : Text :=
  ("error: " : Text) ++ f.message ++ ("\n\n" : Text) ++ f.tip ++ f.usage ++
    ("For more information, try '--help'.\n" : Text)

end Invocation

end BuildManifest
