-- Help pages and completion scripts. A program takes them as it is given
-- them. Those that it has where none are given are plain: they are made
-- from the grammars of the commands.
import ResultGateway.CommandLine.Command

namespace ResultGateway.CommandLine

/-! ## Help pages -/

/-- Rows of two columns, of which the first is as wide as its widest text. -/
def table (rows : List (String × String)) : List String :=
  let width := (rows.map fun row => row.1.length).foldl max 0
  rows.map fun row =>
    "  " ++ row.1 ++ String.ofList (List.replicate (width - row.1.length + 2) ' ') ++ row.2

def titled (title : String) (rows : List (String × String)) : List String :=
  if rows.isEmpty then [] else ["", title ++ ":"] ++ table rows

def parameterRow (p : Parameter) : String × String := (p.shown, p.about)

/-- The flags that a grammar has beside its parameters. -/
def flagRows (g : Grammar) : List (String × String) :=
  [("-h, --help", "Print help")]
    ++ if g.hasVersion then [("-V, --version", "Print version")] else []

def usageLine (name : String) (g : Grammar) : String :=
  "Usage: " ++ name ++ " [OPTIONS]"
    ++ (match g.unnamed with
      | some p => " " ++ p.shown
      | none => "")
    ++ (if g.commands.isEmpty then "" else " <COMMAND>")

def page (name about : String) (g : Grammar) (commands : List (String × String)) : String :=
  String.intercalate "\n" ([about, "", usageLine name g]
    ++ titled "Commands" commands
    ++ titled "Arguments" (g.unnamed.toList.map parameterRow)
    ++ titled "Options" (g.named.map parameterRow ++ flagRows g))

def mainPage : String :=
  page programName "Query the Graphery API and inspect result JSON" mainGrammar
    ((Verb.all.map fun verb => (verb.name, verb.about)) ++ [(helpName, "Print a help page")])

def Verb.page (verb : Verb) : String :=
  CommandLine.page (programName ++ " " ++ verb.name) verb.about verb.grammar []

/-- The help page of a command, or of the program, with a line end. -/
def helpPage (verb : Option Verb) : String :=
  (match verb with
    | some verb => verb.page
    | none => mainPage) ++ "\n"

def versionLine : String := programName ++ " 0.1.0\n"

/-! ## Completion scripts -/

/-- The words that can follow a command, or the name of the program. -/
def wordsOf (g : Grammar) : List String :=
  g.commands ++ (g.named.map fun p => "--" ++ p.name)
    ++ (g.unnamed.toList.flatMap fun p =>
      match p.form with
      | .word allowed => allowed
      | .text | .path | .port => [])
    ++ ["--help"]

def spaced (words : List String) : String := String.intercalate " " words

/-- The texts of a script for each command, and the one for the program. -/
structure ScriptParts where
  opening : String
  branch : String → List String → String
  otherwise : List String → String
  closing : String

def Shell.parts : Shell → ScriptParts
  | .bash => {
      opening := "_graphery() \x7b\n  local words\n  case \"$\x7bCOMP_WORDS[1]\x7d\" in\n"
      branch := fun name words => "    " ++ name ++ ") words=\"" ++ spaced words ++ "\" ;;\n"
      otherwise := fun words => "    *) words=\"" ++ spaced words ++ "\" ;;\n"
      closing := "  esac\n  COMPREPLY=($(compgen -W \"$words\" -- \"$2\"))\n\x7d\n"
        ++ "complete -o default -F _graphery graphery\n" }
  | .zsh => {
      opening := "#compdef graphery\n_graphery() \x7b\n  case \"$words[2]\" in\n"
      branch := fun name words => "    " ++ name ++ ") compadd -- " ++ spaced words ++ " ;;\n"
      otherwise := fun words => "    *) compadd -- " ++ spaced words ++ " ;;\n"
      closing := "  esac\n\x7d\ncompdef _graphery graphery\n" }
  | .fish => {
      opening := ""
      branch := fun name words => "complete -c graphery -n \"__fish_seen_subcommand_from " ++ name
        ++ "\" -a \"" ++ spaced words ++ "\"\n"
      otherwise := fun words => "complete -c graphery -n __fish_use_subcommand -a \""
        ++ spaced words ++ "\"\n"
      closing := "" }
  | .elvish => {
      opening := "set edit:completion:arg-completer[graphery] = \x7b|@words|\n  var table = [&\n"
      branch := fun name words => "    &" ++ name ++ "=[" ++ spaced words ++ "]\n"
      otherwise := fun words => "    &graphery=[" ++ spaced words ++ "]\n"
      closing := "  ]\n  if (has-key $table $words[1]) \x7b all $table[$words[1]] \x7d"
        ++ " else \x7b all $table[graphery] \x7d\n\x7d\n" }
  | .powershell => {
      opening := "Register-ArgumentCompleter -Native -CommandName graphery -ScriptBlock \x7b\n"
        ++ "  param($word, $ast)\n  $words = switch ($ast.CommandElements[1].Value) \x7b\n"
      branch := fun name words => "    '" ++ name ++ "' \x7b '" ++ spaced words ++ "' \x7d\n"
      otherwise := fun words => "    default \x7b '" ++ spaced words ++ "' \x7d\n"
      closing := "  \x7d\n  $words.Split(' ') | Where-Object \x7b $_ -like \"$word*\" \x7d\n"
        ++ "\x7d\n" }

/-- The script that completes the words of the program in a shell. -/
def Shell.script (shell : Shell) : String :=
  let parts := shell.parts
  parts.opening
    ++ String.join (Verb.all.map fun verb => parts.branch verb.name (wordsOf verb.grammar))
    ++ parts.otherwise (wordsOf mainGrammar) ++ parts.closing

/-! ## What a program is given -/

/-- The help pages of a program and of its commands, and its scripts for shells. -/
structure Pages where
  help : Option Verb → String
  script : Shell → String

def Pages.plain : Pages := ⟨helpPage, Shell.script⟩

end ResultGateway.CommandLine
