import NotifyScope.Options.Basic

/-
  This file defines the help and what is said about a command
  line that cannot be read.

  Key definitions include:
    * `UsageError.help`
    * `UsageError.text`
-/

namespace NotifyScope

namespace UsageError

------------------------------------------------------------
-- Help
------------------------------------------------------------

/- The name and the version of the program. -/
def version : String :=
  "scopewrap 0.1.0"

/- How the program is called. -/
def usage : String :=
  "Usage: scopewrap [OPTIONS] [FILE]... [COMMAND]"

/- The commands of the program. -/
def commands : List String :=
  ["Commands:",
    "  config init [--global]  Initialize a new " ++
      ".scopewraprc config file",
    "  config show             Show effective " ++
      "configuration (merged file + CLI)",
    "  config path             Show path to active config " ++
      "file"]

/- The arguments of the program. -/
def arguments : List String :=
  ["Arguments:",
    "  [FILE]...  Source file(s) to rewrite in place, " ++
      "relative to --base-dir when given.",
    "             Reads from stdin and writes to stdout if " ++
      "no file is provided"]

/- An option with what it does. -/
def option
    (form text : String) : List String :=
  ["  " ++ form, "          " ++ text]

/- The options that choose files. -/
def fileOptions : List String :=
  option "-C, --base-dir <DIR>"
    "Directory that relative file names are resolved against" ++
  option "    --files-from <FILE>"
    ("Read more file names from a list (one per line, " ++
      "'#' starts a comment)") ++
  option "    --config <FILE>"
    ("Path to config file (default: search for " ++
      ".scopewraprc)") ++
  option "    --no-config"
    "Ignore config files" ++
  option "-r, --recursive"
    "Process files recursively in directories" ++
  option "    --glob <GLOB>"
    ("Glob pattern to match files when recursing " ++
      "(comma-separated) [default: *.dart]") ++
  option "    --no-gitignore"
    "Do not respect .gitignore when recursing" ++
  option "    --max-depth <MAX_DEPTH>"
    ("Maximum directory depth (0 = unlimited) " ++
      "[default: 0]")

/- The options that make up a rule. -/
def ruleOptions : List String :=
  option "    --from <NAME>"
    ("Method name to rename (replaces the rules from the " ++
      "config file)") ++
  option "    --to <NAME>"
    "New method name" ++
  option "    --declaration <TEMPLATE>"
    ("Declaration template; `\x7bname\x7d` stands for the " ++
      "method name") ++
  option "    --marker <LINE>"
    ("Marker line kept directly above every rewritten " ++
      "declaration") ++
  option "    --no-marker"
    "Do not insert a marker line" ++
  option "    --wrap-open <LINE>"
    "Line that opens the notify-of-change scope" ++
  option "    --wrap-close <LINE>"
    "Line that closes the notify-of-change scope" ++
  option "    --legacy-close <LINE>"
    ("Annotated closing line left by older rewrites " ++
      "(normalized on repair)") ++
  option "    --indent-unit <INDENT_UNIT>"
    ("Spaces per indentation level when it cannot be " ++
      "inferred from the body [default: 2]") ++
  option "    --no-reindent"
    ("Keep body lines at their present indentation when " ++
      "wrapping")

/- The options that choose what is shown and saved. -/
def outputOptions : List String :=
  option "-v, --verbose"
    "Verbose output showing every located method" ++
  option "    --color <COLOR>"
    ("Color output: auto, always, or never " ++
      "[default: auto]") ++
  option "-d, --diff"
    ("Show unified diff of changes instead of writing " ++
      "files") ++
  option "-n, --dry-run"
    ("Preview changes without modifying files (exit 0=no " ++
      "changes, 3=would change)") ++
  option "-w, --watch"
    ("Watch the input files and rewrite them whenever they " ++
      "change") ++
  option "    --debounce-ms <DEBOUNCE_MS>"
    ("Debounce interval in milliseconds (for --watch mode) " ++
      "[default: 500]") ++
  option "    --backup"
    "Create a backup of each file before rewriting it" ++
  option "    --backup-ext <BACKUP_EXT>"
    "Extension for backup files [default: .bak]" ++
  option "    --json"
    "Output results as JSON for programmatic processing" ++
  option "-h, --help"
    "Print help" ++
  option "-V, --version"
    "Print version"

/- The exit codes of the program. -/
def exitCodes : List String :=
  ["EXIT CODES:",
    "  0  Success",
    "  1  General error (permission denied, I/O error)",
    "  2  Invalid command-line arguments or rule definition",
    "  3  Dry-run mode: changes would be made",
    "  4  Parse error (invalid UTF-8 or binary input)",
    "  5  Incomplete: a file had an unbalanced method or a " ++
      "nested declaration"]

/- The whole help. -/
def help : String :=
  "\n".intercalate
    (["Structural method rewriter: renames a method and " ++
        "wraps its body in a notify-of-change scope",
      "", usage, ""] ++
      commands ++ [""] ++ arguments ++ ["", "Options:"] ++
      fileOptions ++ ruleOptions ++ outputOptions ++ [""] ++
      exitCodes)

------------------------------------------------------------
-- Mistakes
------------------------------------------------------------

/- What is wrong with a command line, if anything is. -/
def mistake? : UsageError → Option String
  | unknownArgument => some "unexpected argument found"
  | missingRequiredArgument =>
      some "a required argument was not provided"
  | argumentConflict =>
      some "an argument cannot be used with another one"
  | invalidValue =>
      some "a value is missing or is not a possible one"
  | valueValidation => some "invalid value"
  | tooManyValues =>
      some "unexpected value for an argument without one"
  | invalidSubcommand => some "unrecognized subcommand"
  | displayHelp | displayHelpOnMissing | displayVersion =>
      none

/- All that is said about a command line. -/
def text
    (error : UsageError) : String :=
  match error.mistake? with
  | some mistake =>
      "error: " ++ mistake ++ "\n\n" ++ usage ++
        "\n\nFor more information, try '--help'."
  | none =>
      if error = displayVersion then version else help

end UsageError

end NotifyScope
