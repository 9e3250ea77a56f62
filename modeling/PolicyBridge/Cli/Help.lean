import PolicyBridge.Config.Environment
import PolicyBridge.Text.Terminal

namespace PolicyBridge.Cli

open Config (Environment)
open Text.Terminal (bold underlined unstyled plainText)

def heading (s : String) : String := bold ++ underlined ++ s ++ unstyled

def literal (s : String) : String := bold ++ s ++ unstyled

def descriptionColumn : Nat := 31

def indented (s : String) : String :=
  String.intercalate ("\n" ++ String.ofList (List.replicate descriptionColumn ' '))
    (Text.split '\n' s)

def variableNote (env : Environment) (name : String) : String :=
  " [env: " ++ name ++ "=" ++ indented ((env.lookup name).getD "") ++ "]"

def styledHelp (env : Environment) : String :=
  "Evaluate Polar queries against policy files\n\n" ++
  heading "Usage:" ++ " " ++ literal "polar-host" ++ " [OPTIONS] " ++ literal "--query" ++
    " <QUERY>\n\n" ++
  heading "Options:" ++ "\n" ++
  "  " ++ literal "-q" ++ ", " ++ literal "--query" ++
    " <QUERY>          Query to run, in policy syntax\n" ++
  "  " ++ literal "-f" ++ ", " ++ literal "--policy" ++
    " <POLICY_FILES>  Policy files to load (\x60.polar\x60)" ++
    variableNote env "POLAR_HOST_POLICY_FILES" ++ "\n" ++
  "  " ++ literal "-c" ++ ", " ++ literal "--config" ++
    " <CONFIG>        Configuration file path (YAML or JSON)" ++
    variableNote env "CONFIG_FILE" ++ "\n" ++
  "  " ++ literal "-b" ++ ", " ++ literal "--bind" ++
    " <BINDINGS>        Bind a variable before running the query, as \x60name=json\x60\n" ++
  "  " ++ literal "-l" ++ ", " ++ literal "--limit" ++
    " <LIMIT>          Stop after this many solutions\n" ++
  "      " ++ literal "--log-level" ++ " <LOG_LEVEL>  Log level" ++
    variableNote env "LOG_LEVEL" ++ "\n" ++
  "      " ++ literal "--json-logs" ++ "              Enable JSON log format" ++
    variableNote env "JSON_LOGS" ++ "\n" ++
  "      " ++ literal "--no-cache" ++
    "               Disable the method-resolution cache\n" ++
  "  " ++ literal "-h" ++ ", " ++ literal "--help" ++ "                   Print help\n" ++
  "  " ++ literal "-V" ++ ", " ++ literal "--version" ++ "                Print version\n"

def hasColours (env : Environment) : Bool :=
  (env.lookup "NO_COLOR").all (· = "") && (env.lookup "CLICOLOR_FORCE").any (· ≠ "0")

def helpText (env : Environment) : String :=
  if hasColours env then styledHelp env else plainText (styledHelp env)

def versionText : String := "polar-host 0.1.0\n"

end PolicyBridge.Cli
