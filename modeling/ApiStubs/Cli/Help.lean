import ApiStubs.Settings.Environment

/-!
# Help texts

What the command line says about itself.
-/

namespace ApiStubs
namespace Cli

def defaultConfigFile : String := "annotations.toml"

def programVersion : String := "0.1.0"

def versionLine : String := "annotate v" ++ programVersion

/-- Lines with an empty line before and after them. -/
def framed (lines : List String) : String :=
  Text.joinWith "\n" ([""] ++ lines ++ [""])

def generalHelp : String :=
  framed [
    "API annotation generator v" ++ programVersion,
    "",
    "USAGE:",
    "  annotate <command> [options]",
    "",
    "COMMANDS:",
    "  generate    Generate annotation files from module descriptors",
    "  help        Show this help message",
    "  version     Show version information",
    "",
    "OPTIONS:",
    "  --help, -h     Show help for a command",
    "  --version, -v  Show version information",
    "",
    "EXAMPLES:",
    "  annotate generate modules/*.toml",
    "  annotate generate gui.json go.json --out build/api --version 1.9.0",
    "  annotate help generate"]

def generateHelp : String :=
  framed ([
    "USAGE: annotate generate <module files...> [options]",
    "",
    "Reads module descriptors (.toml or .json) and writes one annotation file",
    "per namespace. Settings are read from " ++ defaultConfigFile ++ " when present.",
    "",
    "OPTIONS:",
    "  --config, -c <file>   Configuration file (default: " ++ defaultConfigFile ++ ")",
    "  --out, -o <dir>       Output folder, overrides output.folder",
    "  --version <x.y.z>     Version printed in every file header",
    "  --strict              Fail on the first unknown type",
    "  --dry-run             Generate without writing, list the files",
    "",
    "ENVIRONMENT:"] ++
    Settings.Variable.all.map (fun v => "  " ++ v.documentation) ++ [
    "",
    "EXAMPLES:",
    "  annotate generate modules/gui.toml modules/go.toml",
    "  annotate generate api.json --strict --dry-run"])

end Cli
end ApiStubs
