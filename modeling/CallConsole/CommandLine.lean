/-
**The command line.**

The arguments name a command: to evaluate an expression, to run a script, to hold a session or to
list the functions. Options may stand before and behind the command; behind `--` everything is an
argument of the command.
-/

import CallConsole.Session

namespace CallConsole

/-- What the command line asks for. -/
inductive Command where
  | call (expression : String)
  | run (script : String)
  | session
  | builtins
  | version
  | help
deriving DecidableEq

/-- What a command writes, and its exit code. -/
structure Response where
  code : Nat
  output : List Char
  errors : List Char

namespace CommandLine

/-- What an option means. -/
inductive Switch where
  | verbose | version | help
deriving DecidableEq

/-- The switch of a letter. Only the options before a command know the version. -/
def switchOfLetter? (withVersion : Bool) (letter : Char) : Option Switch :=
  if letter = 'v' then some .verbose
  else if letter = 'h' then some .help
  else if withVersion && letter = 'V' then some .version
  else none

/-- The switch of a word. -/
def switchOfWord? (withVersion : Bool) (word : String) : Option Switch :=
  if word = "--verbose" then some .verbose
  else if word = "--help" then some .help
  else if withVersion && word = "--version" then some .version
  else none

/-- The argument has the form of an option. -/
def isOption (argument : String) : Bool := argument.startsWith "-" && argument ≠ "-"

/-- What a switch leads to: a request for version or help ends the reading of the command line, and
so does a wrong usage, which is a switch that does not exist or a second `verbose`. -/
def applySwitch (verbose : Bool) : Option Switch → Except (Option Command) Bool
  | some .verbose => if verbose then .error none else .ok true
  | some .version => .error (some .version)
  | some .help => .error (some .help)
  | none => .error none

/-- Letters behind one dash, one after another: what the first of them leads to comes before what is
wrong with the others. -/
def applyLetters (withVersion verbose : Bool) : List Char → Except (Option Command) Bool
  | [] => .ok verbose
  | letter :: rest =>
    match applySwitch verbose (switchOfLetter? withVersion letter) with
    | .error result => .error result
    | .ok verbose => applyLetters withVersion verbose rest

/-- **Reads an option**, a word behind two dashes or letters behind one. -/
def applyOption (withVersion verbose : Bool) (argument : String) :
    Except (Option Command) Bool :=
  if argument.startsWith "--" then applySwitch verbose (switchOfWord? withVersion argument)
  else applyLetters withVersion verbose (argument.toList.drop 1)

/-- The arguments of a command: at most `most`, each of them `accepted`. A wrong usage is `none`. -/
def operands (accepted : String → Bool) (most : Nat) (verbose : Bool) :
    List String → Except (Option Command) (List String)
  | [] => .ok []
  | argument :: rest =>
    if argument = "--" then
      if rest.length ≤ most ∧ rest.all accepted then .ok rest else .error none
    else if isOption argument then
      match applyOption false verbose argument with
      | .error result => .error result
      | .ok verbose => operands accepted most verbose rest
    else if most = 0 ∨ !accepted argument then .error none
    else (operands accepted (most - 1) verbose rest).map (argument :: ·)

/-- The one argument of a command. -/
def operand (accepted : String → Bool) (arguments : List String) :
    Except (Option Command) String :=
  match operands accepted 1 false arguments with
  | .ok [argument] => .ok argument
  | .ok _ => .error none
  | .error result => .error result

/-- A command without arguments. -/
def alone (command : Command) (arguments : List String) : Except (Option Command) Command :=
  (operands (fun _ => false) 0 false arguments).map fun _ => command

/-- The topics that there is help on. -/
def topics : List String := ["call", "run", "repl", "builtins", "help"]

/-- The command of a name with the arguments behind it. An expression may be empty, the name of a
script may not. -/
def named (name : String) (arguments : List String) : Except (Option Command) Command :=
  if name = "call" then (operand (fun _ => true) arguments).map .call
  else if name = "run" then (operand (fun script => script ≠ "") arguments).map .run
  else if name = "repl" then alone .session arguments
  else if name = "builtins" then alone .builtins arguments
  else if name = "help" ∧ arguments.length ≤ 1 ∧ arguments.all topics.contains then .ok .help
  else .error none

/-- The options before the command, and the command. -/
def commandFrom (verbose : Bool) : List String → Except (Option Command) Command
  | [] => .ok .session
  | argument :: rest =>
    if argument = "--" then if rest.isEmpty then .ok .session else .error none
    else if isOption argument then
      match applyOption true verbose argument with
      | .error result => .error result
      | .ok verbose => commandFrom verbose rest
    else named argument rest

/-- **The command that the arguments ask for**; a wrong usage is none. -/
def command? (arguments : List String) : Option Command :=
  match commandFrom false arguments with
  | .ok command => some command
  | .error result => result

/-- The name and version of the program. -/
def versionText : String := "hython 0.1.0\n"

/-- How the program is called. -/
def helpText : String :=
  "Usage: hython [-v] [call EXPRESSION | run SCRIPT | repl | builtins]\n"

/-- The line of a function in the list: its name in a column of twelve, and its arguments. -/
def functionLine (function : Builtin) : List Char :=
  let name := function.name.toList
  name ++ List.replicate (12 - name.length) ' ' ++ ' ' :: function.arity.text.toList ++ ['\n']

/-- A failure in words. -/
def failureText : Failure → List Char
  | .diagnostic d => (Report.ofDiagnostic d).text.toList ++ ['\n']
  | .sink reason => (Failure.sinkMessage reason).toList ++ ['\n']

/-- Evaluates one expression. -/
def respondToCall (expression : List Char) : Response :=
  match Console.evalSource expression World.empty with
  | .ok v w => ⟨0, w.sink.stored ++ Session.resultLine w.store v, []⟩
  | .error failure w => ⟨1, w.sink.stored, failureText failure⟩

/-- Runs a script, if it could be read. -/
def respondToRun (script : Option (List Char)) : Response :=
  match script with
  | none => ⟨1, [], "the script cannot be read\n".toList⟩
  | some source =>
    match Console.runSource source World.empty with
    | .ok _ w => ⟨0, w.sink.stored, []⟩
    | .error failure w => ⟨1, w.sink.stored, failureText failure⟩

/-- **Carries out a command**, given the scripts that can be read and the lines of the session. -/
def respond (readScript : String → Option (List Char)) (input : List Char) :
    Option Command → Response
  | none => ⟨2, [], helpText.toList⟩
  | some .version => ⟨0, versionText.toList, []⟩
  | some .help => ⟨0, helpText.toList, []⟩
  | some .builtins => ⟨0, Builtin.table.flatMap functionLine, []⟩
  | some (.call expression) => respondToCall expression.toList
  | some (.run script) => respondToRun (readScript script)
  | some .session =>
    let (code, output, errors) := Session.answerAll World.empty (Console.lines input)
    ⟨code, output, errors⟩

end CommandLine

end CallConsole
