import MakeCheck.Proofs.FileStore
import MakeCheck.Proofs.Loading

namespace MakeCheck

namespace Host

variable (host : Host) (records more : List Record)

@[simp] theorem files_say : (host.say records).files = host.files :=
  rfl

@[simp] theorem directory_say : (host.say records).directory = host.directory :=
  rfl

theorem say_append : host.say (records ++ more) = (host.say records).say more := by
  simp [say]

end Host

namespace BaseCase

variable {host later : Host} {base : BaseCase} {parent path : Path} {place : Location}
  {report : Report}

-- A base that has just got a directory of its own, where there was nothing.
structure Settles (base : BaseCase) (host later : Host) (path : Path) (place : Location) :
    Prop where
  scratch : base.scratch = some path
  free : host.files.content? place = none
  name : host.files.resolveName host.directory path = .ok place
  leads : later.files.resolve later.directory path = .ok place
  files : later.files =
    host.files.add place (host.files.made .directory scratchMode host.now) host.now
  directory : later.directory = host.directory

theorem run_withScratchIn (host : Host) (parent : Path) : (withScratchIn parent).run.run host =
    match host.files.makeDirectory host.directory (freshScratch host parent) scratchMode host.now with
    | .error fault => (.error (.makeScratch parent fault), host)
    | .ok files =>
        let (base, later) := (make (some (freshScratch host parent))).run
          { host with files, scratchCount := host.scratchCount + 1 }
        (.ok base, later) := by
  rw [withScratchIn, Action.run_bind, Action.run_get]
  simp only
  generalize freshScratch host parent = path
  cases host.files.makeDirectory host.directory path scratchMode host.now with
  | error fault => rfl
  | ok files => rfl

theorem withScratchIn_ok (hmake : (withScratchIn parent).run.run host = (.ok base, later)) :
    base.debug = host.environment.debugMode ∧ ∃ path place, base.Settles host later path place := by
  rw [run_withScratchIn] at hmake
  split at hmake
  · cases hmake
  · rename_i files hmade
    obtain ⟨hbase, rfl⟩ := Prod.mk.inj hmake
    obtain rfl := Except.ok.inj hbase
    obtain ⟨place, hfree, hfiles, hname, hleads⟩ := FileStore.makeDirectory_eq_ok hmade
    exact ⟨rfl, _, place, rfl, hfree, hname, hleads, hfiles, rfl⟩

theorem withScratchIn_error
    (hmake : (withScratchIn parent).run.run host = (.error report, later)) : later = host := by
  rw [run_withScratchIn] at hmake
  split at hmake
  · exact (Prod.mk.inj hmake).2.symm
  · cases hmake

section Fresh

variable (parent) {first : Nat}
  (hfirst : (host.now.toNat + host.scratchCount) * 6364136223846793005 / Nat.pow 2 24 = first)
  (hpath : (host.directoryPath.join parent.text).join (scratchName first) = path)

include hfirst hpath

-- The first name that is drawn is taken where it is free.
theorem freshScratch_of_free (hfree : host.files.hasName host.directory path = false) :
    freshScratch host parent = path := by
  obtain ⟨attempts, hattempts⟩ : ∃ attempts, scratchAttempts = attempts + 1 := ⟨65535, rfl⟩
  unfold freshScratch
  rw [hfirst]
  extract_lets first name free
  have hname : name 0 = path := hpath
  have hfound : free 0 = true := by simp only [free, hname, hfree, Bool.not_false]
  rw [hattempts, List.range_succ_eq_map, List.find?_cons_of_pos hfound, Option.getD_some, hname]

theorem withScratchIn_of_free
    (hresolve : host.files.resolveName host.directory path = .ok place)
    (hfree : host.files.content? place = none) (hentry : host.files.entryFault? place = none) :
    ∃ base later, (withScratchIn parent).run.run host = (.ok base, later) ∧
      base.scratch = some path := by
  have hname := FileStore.hasName_eq_false hresolve hfree
  have hmake : host.files.makeDirectory host.directory path scratchMode host.now = .ok _ :=
    FileStore.makeDirectory_of_free hresolve hfree hentry
  rw [run_withScratchIn, freshScratch_of_free parent hfirst hpath hname, hmake]
  exact ⟨_, _, rfl, rfl⟩

end Fresh

theorem run_drop (host : Host) (base : BaseCase) : base.drop.run host = ((),
    match base.scratch with
    | none => host
    | some path =>
        if base.debug then
          host.say [⟨.info, .case, "Keeping temporary directory " ++ path.text⟩]
        else
          match host.files.resolve host.directory path with
          | .ok location => { host with files := host.files.removeTree location host.now }
          | .error _ => host) := by
  rw [drop]
  cases base.scratch with
  | none => rfl
  | some path =>
      by_cases hdebug : base.debug = true
      · simp only [if_pos hdebug]
        rfl
      · simp only [if_neg hdebug]
        rfl

-- A case without a scratch directory takes nothing with it, and neither does one in debug mode.
theorem files_drop_of_keeps (hkeeps : base.scratch = none ∨ base.debug = true) :
    (base.drop.run host).2.files = host.files := by
  rw [run_drop]
  cases hscratch : base.scratch with
  | none => rfl
  | some path =>
      have hdebug : base.debug = true := hkeeps.resolve_left (by simp [hscratch])
      simp only [hdebug, if_true]
      rfl

theorem files_drop_of_resolve (hdebug : base.debug = false) (hscratch : base.scratch = some path)
    (hresolve : host.files.resolve host.directory path = .ok place) :
    (base.drop.run host).2.files = host.files.removeTree place host.now := by
  rw [run_drop]
  simp [hscratch, hdebug, hresolve]

end BaseCase

theorem MakefileCase.loadMakefile_of_missing {host : Host} {path : Path}
    (hmissing : host.files.has host.directory path = false) :
    (loadMakefile path).run.run host = (.error (.failure (.missingMakefile path)), host) := by
  rw [loadMakefile, Action.run_bind, Action.run_get]
  simp only [hmissing, Bool.not_false, if_true]
  rfl

-- Looking for a Makefile does no more than to say what came of it.
theorem MakefileCase.loadMakefile_says (host : Host) (path : Path) :
    ∃ records, ((loadMakefile path).run.run host).2 = host.say records := by
  rw [loadMakefile, Action.run_bind, Action.run_get]
  simp only
  split
  · exact ⟨[], by simp [Host.say]; rfl⟩
  · simp only [Action.run_bind, Makefile.run_load]
    cases Makefile.ofPath host.files host.directory path (.ofEnvironment host.environment) with
    | ok makefile => exact ⟨_ ++ _, by rw [Host.say_append]; rfl⟩
    | error report => exact ⟨_, rfl⟩

namespace Host

-- A host with nothing but a root.
def bare : Host :=
  .over (.ofNodes [([], .ofRoot .directory 0o755 0)])

theorem content?_bare (location : Location) :
    bare.files.content? location = if location = [] then some .directory else none := by
  cases location <;> rfl

theorem rooted_bare : bare.files.Rooted := by
  intro location name hhas
  simp [content?_bare] at hhas

theorem resolveName_bare :
    bare.files.resolveName bare.directory ⟨"/./.tmpAAAAAA"⟩ = .ok [".tmpAAAAAA"] := by
  have hpieces : (⟨"/./.tmpAAAAAA"⟩ : Path).pieces = ["", ".", ".tmpAAAAAA"] := by decide +kernel
  refine FileStore.resolveName_eq_ok_iff.mpr ⟨by decide +kernel, ?_⟩
  rw [hpieces]
  refine .stay rfl (.inl rfl) (.stay rfl (.inr rfl) (.down rfl ?_ ?_ (.arrived _ _)))
  · exact ⟨by decide, by decide⟩
  · simp [content?_bare]

theorem exists_made_bare : ∃ base later,
    (BaseCase.withScratchIn ⟨"."⟩).run.run bare = (.ok base, later) ∧ base.debug = false ∧
      base.Settles bare later ⟨"/./.tmpAAAAAA"⟩ [".tmpAAAAAA"] := by
  have hfirst :
      (bare.now.toNat + bare.scratchCount) * 6364136223846793005 / Nat.pow 2 24 = 0 := by decide
  obtain ⟨base, later, hmake, hscratch⟩ := BaseCase.withScratchIn_of_free ⟨"."⟩ hfirst
    (by decide +kernel) resolveName_bare rfl rfl
  obtain ⟨hdebug, path, place, hsettles⟩ := BaseCase.withScratchIn_ok hmake
  obtain rfl := Option.some.inj (hscratch.symm.trans hsettles.scratch)
  obtain rfl := Except.ok.inj (resolveName_bare.symm.trans hsettles.name)
  exact ⟨base, later, hmake, hdebug, hsettles⟩

-- A scratch directory is no Makefile.
theorem has_makefile_bare {base : BaseCase} {later : Host} {path : Path}
    (hsettles : base.Settles bare later path [".tmpAAAAAA"]) :
    later.files.has later.directory ⟨"Makefile"⟩ = false := by
  have hpieces : (⟨"Makefile"⟩ : Path).pieces = ["Makefile"] := by decide +kernel
  have hcontent (location : Location) : later.files.content? location =
      if location = [".tmpAAAAAA"] then some .directory
      else if location = [] then some .directory else none := by
    rw [hsettles.files, FileStore.content?_add, content?_bare]
    rfl
  have hroot : FileStore.startOf later.directory ⟨"Makefile"⟩ = [] := by
    rw [hsettles.directory]
    rfl
  have hresolve : later.files.resolve later.directory ⟨"Makefile"⟩ = .ok ["Makefile"] := by
    refine FileStore.resolve_eq_ok_iff.mpr ⟨by decide +kernel, ?_⟩
    rw [hpieces, hroot]
    refine .down ?_ ⟨by decide, by decide⟩ (by simp [hcontent]) (.arrived _ _)
    rw [hsettles.files, FileStore.obstacle?_of_timeless FileStore.user_add]
    · rfl
    · rw [FileStore.timeless_add, if_neg (by simp)]
  exact FileStore.has_eq_false hresolve (by simp [hcontent])

end Host

end MakeCheck
