import KeptRegions.CommandLine.Command

namespace KeptRegions

/-!
# Runs

A run of the program takes the words of a command line to what is printed, the status it ends with,
and the files as they are afterwards. Failures that a command expects are printed and end the run with
status one; any other failure ends the run without a status.

What a command has to say is printed when all else is done, and that may fail as well. Of what is printed
beside it, about failures and by the journal, nothing is said to fail.
-/

/-- How a run ends. -/
inductive Ending where
  | status (n : Nat)
  | failed (failure : Failure)

/-- What a run comes to. -/
structure Outcome where
  ending : Ending
  output : String
  errors : String
  tree : FileTree

/-- What is printed in place of help and of a remark about wrong usage. -/
structure UsageTexts where
  help : String
  misuse : String

/-- The lines of the journal that are printed: all of them in a verbose run, and else the warnings,
without their headings. -/
def journalText (verbose : Bool) (journal : List Event) : String :=
  if verbose then String.join (journal.map fun e => e.line ++ "\n")
  else String.join ((journal.filter Event.isWarning).map fun e => e.wording ++ "\n")

/-- How output is printed. If not all of a text is, this says how many characters are, and why not the
others. -/
abbrev Printing := String → Option (Nat × Failure)

/-- The end of a run with a failure, and what is printed about it. -/
def Failure.report (failure : Failure) : Ending × String :=
  if failure.isReported then (.status 1, "Error: " ++ failure.message ++ "\n")
  else (.failed failure, "")

/-- The end of a run that has printed a report. A report of nothing is not printed. -/
def Report.print (printing : Printing) (report : Report) : Ending × String × String :=
  match if report.output = "" then none else printing report.output with
  | none => (.status report.status, report.output, "")
  | some (count, failure) =>
    let (ending, errors) := failure.report
    (ending, String.ofList (report.output.toList.take count), errors)

/-- Runs the program, where output is printed as told. -/
def runPrinting (printing : Printing) (usage : UsageTexts) (env : Environment) (tree : FileTree)
    (arguments : List String) : Outcome :=
  match Invocation.ofArguments arguments with
  | .error .help => { ending := .status 0, output := usage.help, errors := "", tree }
  | .error .misuse => { ending := .status 2, output := "", errors := usage.misuse, tree }
  | .ok invocation =>
    let (result, world) := (invocation.run env).runOn tree
    let (ending, output, errors) :=
      match result with
      | .ok report => report.print printing
      | .error failure => let (ending, errors) := failure.report; (ending, "", errors)
    let journal := journalText invocation.verbose world.journal
    { ending, output, errors := journal ++ errors, tree := world.tree }

/-- Runs the program, where all output is printed. -/
def runCommandLine : UsageTexts → Environment → FileTree → List String → Outcome :=
  runPrinting fun _ => none

end KeptRegions
