import MakeCheck.Command.Basic
import MakeCheck.Duration
import MakeCheck.FileStore.Fault
import MakeCheck.Makefile.Basic

namespace MakeCheck

open Decimal

-- A check that did not hold.
inductive Failure where
  | missingFile (path : Path)
  | missingFiles (expected missing : List Path)
  | notAFile (path : Path)
  | commandFailed (result : CommandResult)
  | unexpectedOutput (result : CommandResult) (expected : String)
  | missingMakefile (path : Path)
  | missingRule (targets : Targets)
  | nonEmptyRecipe (targets : Targets)
  | custom (message : String)
deriving DecidableEq

namespace Failure

def quotePaths (paths : List Path) : String :=
  ", ".intercalate (paths.map fun path => "'" ++ path.text ++ "'")

-- What the student is told.
def message : Failure → String
  | missingFile path => "File '" ++ path.text ++ "' does not exist"
  | missingFiles expected missing =>
      "Expect to see all of these files: " ++ quotePaths expected ++ ".\n\n" ++
        if expected.length = missing.length then "However, none of them can be found."
        else "However, these files cannot be found: " ++ quotePaths missing
  | notAFile path => "Expect a file, but '" ++ path.text ++ "' is not a file."
  | commandFailed result => result.text
  | unexpectedOutput result expected =>
      "\nExpect to see output:\n\n" ++ expected ++ "\n\nHowever, the command '" ++ result.command ++
        "' produces the following output:\n\n" ++ result.output ++ "\n"
  | missingMakefile path => "Expect a file '" ++ path.text ++ "', but it does not exist."
  | missingRule targets =>
      "Rule for a target '" ++ targets.text ++ "' does not exist. Its behavior cannot be verified."
  | nonEmptyRecipe targets =>
      "Recipe of the rule for a target '" ++ targets.text ++ "' is not empty."
  | custom message => message

end Failure

-- An error as it reaches the caller: what was being done, and the fault below it.
inductive Report where
  | failure (cause : Failure)
  | readMakefile (path : Path) (fault : Fault)
  | makeScratch (parent : Path) (fault : Fault)
  | copyMakefile (source target : Path) (fault : Fault)
  | readModified (path : Path) (fault : Fault)
  | createFile (path : Path) (fault : Fault)
  | folderMissing (path : Path)
  | notAFolder (path : Path)
  | invalidTimeout (seconds : Binary64) (fault : DurationFault)

namespace Report

def message : Report → String
  | failure cause => cause.message
  | readMakefile path _ => "Failed to read Makefile: " ++ path.text
  | makeScratch parent _ => "Failed to create temporary directory in " ++ parent.text
  | copyMakefile source target _ => "Failed to copy " ++ source.text ++ " to " ++ target.text
  | readModified path _ => "Failed to read modification time of " ++ path.text
  | createFile path _ => "Failed to create " ++ path.text
  | folderMissing path => "'" ++ path.text ++ "' does not exist"
  | notAFolder path => "'" ++ path.text ++ "' is not a directory"
  | invalidTimeout seconds fault => "Invalid timeout " ++ seconds.text ++ ": " ++ fault.message

def fault? : Report → Option Fault
  | readMakefile _ fault => some fault
  | makeScratch _ fault => some fault
  | copyMakefile _ _ fault => some fault
  | readModified _ fault => some fault
  | createFile _ fault => some fault
  | _ => none

-- The messages from the top down to the root.
def chain (report : Report) : List String :=
  report.message :: (report.fault?.map Fault.message).toList

-- The report with its cause in lines of their own.
def text (report : Report) : String :=
  match report.fault? with
  | none => report.message
  | some fault => report.message ++ "\n\nCaused by:\n    " ++ fault.message

end Report

end MakeCheck
