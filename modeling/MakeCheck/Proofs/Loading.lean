import MakeCheck.Case.Makefile
import MakeCheck.CommandLine.Execution

namespace MakeCheck

namespace Action

variable {ε ε' α β : Type} (host : Host)

theorem run_get : (get : Action ε Host).run.run host = (.ok host, host) :=
  rfl

theorem run_bind (action : Action ε α) (next : α → Action ε β) :
    (action >>= next).run.run host = match action.run.run host with
      | (.ok a, later) => (next a).run.run later
      | (.error report, later) => (.error report, later) := by
  rw [ExceptT.run_bind, StateT.run_bind]
  cases action.run.run host with
  | mk result later => cases result <;> rfl

-- What was done before the error stays done.
theorem run_tryCatch (action : Action ε α) (handler : ε → Action ε α) :
    (tryCatch action handler).run.run host = match action.run.run host with
      | (.ok a, later) => (.ok a, later)
      | (.error report, later) => (handler report).run.run later := by
  rw [ExceptT.run_tryCatch, StateT.run_bind]
  cases action.run.run host with
  | mk result later => cases result <;> rfl

theorem run_adapt (action : Action ε α) (f : ε → ε') :
    (action.adapt f).run.run host =
      ((action.run.run host).1.mapError f, (action.run.run host).2) := by
  rw [ExceptT.run_adapt, StateT.run_map]
  rfl

end Action

theorem FileStore.has_of_readText {files : FileStore} {directory : Location} {path : Path}
    {text : String} (hread : files.readText directory path = .ok text) :
    files.has directory path = true := by
  rw [has]
  cases hfind : files.find directory path with
  | ok found => rfl
  | error fault =>
      rw [readText, read, openOld, hfind] at hread
      cases hread

theorem Makefile.run_load (host : Host) (path : Path) (options : ParseOptions) :
    (load path options).run.run host =
      (ofPath host.files host.directory path options,
        host.say (pathRecords host.files host.directory path options)) :=
  rfl

theorem Makefile.ofPath_of_readText {files : FileStore} {directory : Location} {path : Path}
    {text : String} (hread : files.readText directory path = .ok text) (options : ParseOptions) :
    ofPath files directory path options =
      .ok { parse options text with origin := .path path } := by
  rw [ofPath, hread]

-- A base that gets no case is dropped.
theorem MakefileCase.run_load (host : Host) (base : BaseCase) (path : Path) :
    (load base path).run.run host = match (loadMakefile path).run.run host with
      | (.ok makefile, later) => (.ok ⟨base, path, makefile⟩, later)
      | (.error report, later) => (.error report, (base.drop.run later).2) := by
  unfold load
  simp only [Action.run_bind, Action.run_tryCatch]
  cases (loadMakefile path).run.run host with
  | mk result later => cases result <;> rfl

-- A host with these files, on which no command can be started.
def Host.over (files : FileStore) : Host where
  files := files
  directory := []
  environment := ⟨[]⟩
  now := 0
  uptime := 0
  scratchCount := 0
  log := []
  system launch := (.error .notFound, launch.files)

section Readable

variable {host : Host} {path : Path} {text : String}
  (hread : host.files.readText host.directory path = .ok text)

include hread

theorem MakefileCase.loadMakefile_of_readText :
    ((loadMakefile path).run.run host).1 =
      .ok { Makefile.parse (.ofEnvironment host.environment) text with origin := .path path } := by
  rw [loadMakefile, Action.run_bind, Action.run_get]
  simp only [FileStore.has_of_readText hread, Bool.not_true, Bool.false_eq_true, if_false,
    Action.run_bind, Makefile.run_load, Makefile.ofPath_of_readText hread]
  rfl

-- A file that can be read makes a case.
theorem MakefileCase.load_of_readText (base : BaseCase) :
    ((load base path).run.run host).1 =
      .ok ⟨base, path,
        { Makefile.parse (.ofEnvironment host.environment) text with origin := .path path }⟩ := by
  have hload := loadMakefile_of_readText hread
  rw [run_load]
  generalize (loadMakefile path).run.run host = result at hload
  obtain ⟨result, later⟩ := result
  obtain rfl := hload
  rfl

theorem CommandLine.execute_rules_of_readText (colours definitions : Bool) :
    ((execute colours (.rules path definitions false)).run.run host).1 =
      .ok { success := true
            output := Makefile.listing colours
              { Makefile.parse ⟨definitions, host.environment.debugMode⟩ text with
                origin := .path path } } := by
  rw [execute, Action.run_adapt, listRules, Action.run_bind, Action.run_get]
  simp only [Action.run_bind, Makefile.run_load, Makefile.ofPath_of_readText hread]
  rfl

end Readable

end MakeCheck
