/-
This file reads the command line of the server.
-/

namespace DocBlocks

/-- The server is started, or tells something about itself. -/
inductive CommandLine where
  | serve
  | help
  | version
deriving DecidableEq, Repr

/-- Why a command line is refused. -/
inductive CommandLineError where
  | unexpectedArgument (argument : String)
  | missingValue (option : String)
deriving DecidableEq, Repr

def CommandLineError.message : CommandLineError → String
  | unexpectedArgument argument => "error: unexpected argument '" ++ argument ++ "' found"
  | missingValue option => "error: a value is required for '" ++ option ++ "' but none was supplied"

namespace CommandLine

def versionText : String :=
  "docstring-language-server 0.1.0"

def helpText : String :=
  "Language server exposing documentation comments as folding ranges and hovers\n\n" ++
  "Usage: docstring-language-server [OPTIONS]\n\n" ++
  "Options:\n" ++
  "      --log-level <LOG_LEVEL>  Log level for stderr output (overrides RUST_LOG)\n" ++
  "      --no-color               Disable ANSI colors in stderr output\n" ++
  "      --no-file-logging        Do not write a session log to the cache directory\n" ++
  "      --stdio                  Communicate over stdio (the only transport; accepted for client compatibility)\n" ++
  "  -h, --help                   Print help\n" ++
  "  -V, --version                Print version"

/-- Reads the arguments. No log is written, so the options for it change nothing. -/
def parse : List String → Except CommandLineError CommandLine
  | [] => .ok .serve
  | "--help" :: _ | "-h" :: _ => .ok .help
  | "--version" :: _ | "-V" :: _ => .ok .version
  | "--no-color" :: arguments | "--no-file-logging" :: arguments | "--stdio" :: arguments =>
    parse arguments
  | "--log-level" :: _ :: arguments => parse arguments
  | ["--log-level"] => .error (.missingValue "--log-level <LOG_LEVEL>")
  | argument :: arguments =>
    if "--log-level=".toList.isPrefixOf argument.toList then parse arguments
    else .error (.unexpectedArgument argument)

end CommandLine

end DocBlocks
