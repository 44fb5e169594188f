import LineTemplate.CommandLine.Arguments

/-!
What the command says when its arguments do not lead to a run.
-/

namespace LineTemplate.CommandLine

def usage : String :=
  String.intercalate "\n"
    ["Line-oriented text macro preprocessor",
      "",
      "Usage: mpp [OPTIONS] <INPUT>",
      "",
      "  <INPUT>                          File to preprocess (- for standard input)",
      "  -D, --define <NAME=VALUE>        Define a variable (repeatable)",
      "  -d, --defines <FILE>             Load variables from a defines file first",
      "  -I, --include-dir <DIR>          Folder of included files",
      "  -l, --line-ending <STYLE>        windows, unix or a literal delimiter",
      "  -w, --wrappers <PREFIX[,SUFFIX]> Substitution markers",
      "      --no-subst                   Emit lines without substitution",
      "      --trim                       Strip trailing whitespace from lines",
      "  -o, --output <FILE>              Write the result to a file",
      "      --strict                     Exit with status 2 after a diagnostic",
      "  -v, --verbose                    Debug logging on standard error",
      "  -h, --help                       Print help",
      "  -V, --version                    Print version"]

def Stop.message : Stop → String
  | help => usage
  | version => "mpp 0.1.0"
  | missingInput => "mpp: the input is missing"
  | missingValue parameter => s!"mpp: --{(Item.parameter parameter).name} needs a value"
  | emptyPath parameter => s!"mpp: --{(Item.parameter parameter).name} needs a path"
  | badDefinition error => s!"mpp: {error.message}"
  | repeated item => s!"mpp: --{item.name} is given twice"
  | unexpectedValue flag => s!"mpp: --{(Item.flag flag).name} takes no value"
  | unknown argument => s!"mpp: unexpected argument '{argument}'"

end LineTemplate.CommandLine
