/-!
# Usage texts

What the command line says about itself.
-/

namespace HdlLint.CommandLine

def versionText : String := "verilint, version 0.1.0\n"

def mainUsage : String := "Usage: cli [OPTIONS] COMMAND [ARGS]...\n"

/-- How the lint command is used. -/
def lintUsage : String := "Usage: cli lint [OPTIONS] FILE\n"

def mainHelp : String :=
  mainUsage ++
    "\n" ++
    "  Verilint - Verilator lint diagnostics, grouped by file.\n" ++
    "\n" ++
    "Options:\n" ++
    "  --version      Show the version and exit.\n" ++
    "  -v, --verbose  Enable debug logging\n" ++
    "  --help         Show this message and exit.\n" ++
    "\n" ++
    "Commands:\n" ++
    "  lint  Lint FILE with verilator and print its diagnostics.\n"

/-- The help on the lint command. -/
def lintHelp : String :=
  lintUsage ++
    "\n" ++
    "  Lint FILE with verilator and print its diagnostics.\n" ++
    "\n" ++
    "  Exits 1 when verilator reports errors, 2 when it could not be run.\n" ++
    "\n" ++
    "Options:\n" ++
    "  -w, --workspace DIRECTORY       Workspace root (default: current directory)\n" ++
    "  --language [verilog|systemverilog]\n" ++
    "                                  Source language (default: from the file\n" ++
    "                                  extension)\n" ++
    "  --verilator-path TEXT           Directory containing the verilator binary\n" ++
    "  --args TEXT                     Extra arguments passed to verilator\n" ++
    "  --run-at-file-location / --run-at-workspace\n" ++
    "                                  Run verilator from the file's folder or from\n" ++
    "                                  the workspace root\n" ++
    "  --wsl / --no-wsl                Run verilator inside WSL\n" ++
    "  --config FILE                   Extra config file layered over the workspace\n" ++
    "                                  config\n" ++
    "  --json                          Output as JSON\n" ++
    "  --help                          Show this message and exit.\n"

/-- A wrong use: how the command is used, where there is help, and what is wrong. -/
def misuse (usage command message : String) : String :=
  usage ++ "Try '" ++ command ++ " --help' for help.\n\n" ++ "Error: " ++ message ++ "\n"

def mainCommand : String := "cli"

/-- The name of the lint command behind that of the program. -/
def lintCommand : String := "cli lint"

end HdlLint.CommandLine
