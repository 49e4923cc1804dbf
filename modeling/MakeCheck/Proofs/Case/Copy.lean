import MakeCheck.Proofs.Case.Scratch
import MakeCheck.Proofs.FileStore.Copy
import MakeCheck.Proofs.Listing

namespace MakeCheck

namespace MakefileCase

variable {case : MakefileCase} {destination : Option Path} {name : Option String} {target : Path}
  {host later : Host}

theorem run_copy (case : MakefileCase) (destination : Option Path) (name : Option String)
    (host : Host) : (case.copy destination name).run.run host =
      match host.files.copy host.directory case.path (case.copyTarget destination name)
          host.now with
      | (files, .error fault) =>
          (.error (.copyMakefile case.path (case.copyTarget destination name) fault),
            { host with files })
      | (files, .ok ()) => (.ok (case.copyTarget destination name), { host with files }.say
          [⟨.debug, .makefileCase, "Copied " ++ case.path.text ++ " to " ++
            (case.copyTarget destination name).text⟩]) := by
  rw [copy, Action.run_bind, Action.run_get]
  simp only
  cases host.files.copy host.directory case.path (case.copyTarget destination name) host.now with
  | mk files copied =>
      cases copied with
      | error fault => rfl
      | ok done => rfl

theorem copy_ok (hcopy : (case.copy destination name).run.run host = (.ok target, later)) :
    target = case.copyTarget destination name ∧ later.directory = host.directory ∧
      host.files.copy host.directory case.path target host.now = (later.files, .ok ()) := by
  rw [run_copy] at hcopy
  split at hcopy
  · cases hcopy
  · rename_i files hfiles
    obtain ⟨htarget, rfl⟩ := Prod.mk.inj hcopy
    obtain rfl := Except.ok.inj htarget
    exact ⟨rfl, rfl, hfiles⟩

theorem exists_copy (case : MakefileCase) (host : Host) {files : FileStore}
    (htarget : case.copyTarget destination name = target)
    (hfiles : host.files.copy host.directory case.path target host.now = (files, .ok ())) :
    ∃ later, (case.copy destination name).run.run host = (.ok target, later) ∧
      later.files = files := by
  rw [run_copy, htarget, hfiles]
  exact ⟨_, rfl, rfl⟩

-- A copy goes where it was asked for and leaves everything else alone. It holds what the original
-- held, and so does the original, unless the target leads to a name of the original itself: then
-- both are empty.
theorem copy_outcome (hcopy : (case.copy destination name).run.run host = (.ok target, later)) :
    target = (destination.getD (case.base.scratch.getD (case.path.parent?.getD ⟨"."⟩))).join
      (name.getD "answer.mk") ∧
    later.directory = host.directory ∧
    ∃ home place bytes,
      host.files.resolve host.directory case.path = .ok home ∧
      host.files.resolve host.directory target = .ok place ∧
      host.files.Holds host.directory case.path bytes ∧
      (host.files.CanHold place →
        (∀ directory path there, later.files.resolve directory path = .ok there ↔
          host.files.resolve directory path = .ok there) ∧
        (∀ other, host.files.isShared place other = false →
          later.files.content? other = host.files.content? other) ∧
        (∀ directory path held, (∀ there, host.files.resolve directory path = .ok there →
            host.files.isShared place there = false) →
          (later.files.Holds directory path held ↔ host.files.Holds directory path held)) ∧
        later.files.Holds host.directory target
          (if host.files.isShared place home then [] else bytes) ∧
        later.files.Holds host.directory case.path
          (if host.files.isShared place home then [] else bytes)) ∧
      (host.files.Rooted → ¬host.files.CanHold place →
        host.files.LetsThrough place ∧ later.files = host.files) := by
  obtain ⟨htarget, hdirectory, hfiles⟩ := copy_ok hcopy
  obtain ⟨home, place, bytes, hsource, hplace, hheld, hsets, hthrough⟩ :=
    FileStore.copy_eq_ok hfiles
  refine ⟨htarget, hdirectory, home, place, bytes, hsource, hplace, hheld, fun hhold => ?_,
    fun hrooted hnot => ?_⟩
  · exact ⟨fun _ _ _ => ((hsets hhold).resolve_iff hhold).symm,
      fun _ => (hsets hhold).content?_outside, fun _ _ _ => (hsets hhold).holds_iff hhold,
      FileStore.holds_of_sets hhold (hsets hhold) hsource hplace hheld⟩
  · obtain ⟨⟨there, hthere, hfile, hplain⟩, hsame⟩ := hthrough hnot
    exact ⟨FileStore.letsThrough_of_resolve hrooted hplace hthere hfile hplain, hsame⟩

end MakefileCase

section Example

-- A system with one file, which goes by some names.
def Host.holdingAs (names : List String) (bytes : List UInt8) : Host :=
  .over
    { user := .root
      entries := ([], 0) :: names.map fun name => ([name], 1)
      inodes := [(0, .ofRoot .directory 0o755 0), (1, .ofRoot (.file bytes) 0o644 0)] }

def MakefileCase.ofName (name : String) : MakefileCase where
  base := ⟨false, .given 0, none⟩
  path := ⟨name⟩
  makefile := Makefile.parse ⟨true, false⟩ "a:\n"

theorem isOneName_answer : FileStore.IsOneName "answer.mk" :=
  ⟨by decide, by decide, by decide, by decide⟩

section HoldingAs

variable {names : List String} {name other : String}

theorem Host.identity?_holdingAs (names : List String) (name : String) (bytes : List UInt8) :
    (holdingAs names bytes).files.identity? [name] = if name ∈ names then some 1 else none := by
  change (names.map fun name => ([name], 1)).lookup [name] = _
  induction names with
  | nil => rfl
  | cons first rest ih =>
      rw [List.map_cons, List.lookup_cons, ih]
      by_cases hfirst : name = first
      · simp [hfirst]
      · have hne : ([name] == [first]) = false := by simpa using hfirst
        simp [hne, hfirst]

theorem Host.node?_holdingAs (names : List String) (name : String) (bytes : List UInt8) :
    (holdingAs names bytes).files.node? [name] =
      if name ∈ names then some (.ofRoot (.file bytes) 0o644 0) else none := by
  rw [FileStore.node?, identity?_holdingAs]
  split <;> rfl

theorem Host.content?_holdingAs (names : List String) (name : String) (bytes : List UInt8) :
    (holdingAs names bytes).files.content? [name] =
      if name ∈ names then some (.file bytes) else none := by
  rw [FileStore.content?, node?_holdingAs]
  split <;> rfl

theorem Host.canHold_holdingAs (names : List String) (name : String) (bytes : List UInt8) :
    (holdingAs names bytes).files.CanHold [name] := by
  rw [FileStore.CanHold, content?_holdingAs]
  split <;> simp [Content.isFile]

theorem Host.resolve_holdingAs (names : List String) (hname : FileStore.IsOneName name)
    (bytes : List UInt8) (hopen : (holdingAs names bytes).files.obstacle? [] name = none) :
    (holdingAs names bytes).files.resolve [] ⟨name⟩ = .ok [name] := by
  refine FileStore.resolve_of_isOneName hname hopen fun target => ?_
  rw [content?_holdingAs]
  split <;> simp

theorem Host.isShared_holdingAs (names : List String) (bytes : List UInt8) (hname : name ∈ names) :
    (holdingAs names bytes).files.isShared [other] [name] = decide (other ∈ names) := by
  rw [FileStore.isShared, identity?_holdingAs, identity?_holdingAs, if_pos hname]
  by_cases hother : other ∈ names
  · simp [hother]
  · have hne : other ≠ name := fun hsame => hother (hsame ▸ hname)
    simp [hother, hne]

end HoldingAs

namespace MakefileCase

variable (names : List String) (bytes : List UInt8) {source : String} {later : Host}

-- A copy with no place of its own goes beside the original, under the name of copies.
theorem exists_copy_holdingAs {opened files : FileStore} (hname : FileStore.IsOneName source)
    (hsource : source ∈ names)
    (hopen : (Host.holdingAs names bytes).files.obstacle? [] source = none)
    (htarget : (ofName source).copyTarget none none = ⟨"answer.mk"⟩)
    (hopened : (Host.holdingAs names bytes).files.openNew ["answer.mk"]
      (Mode.without standardMask 0o644) 0 = .ok opened)
    (htransfer : opened.transfer [source] ["answer.mk"] (.ofRoot (.file bytes) 0o644 0) 0 =
      (files, .ok ())) :
    ∃ later, ((ofName source).copy none none).run.run (Host.holdingAs names bytes) =
      (.ok ⟨"answer.mk"⟩, later) := by
  have hnode : (Host.holdingAs names bytes).files.node? [source] =
      some (.ofRoot (.file bytes) 0o644 0) := by
    rw [Host.node?_holdingAs, if_pos hsource]
  have hnew : (Host.holdingAs names bytes).files.resolveNew [] ⟨"answer.mk"⟩ =
      .ok ["answer.mk"] :=
    Host.resolve_holdingAs names isOneName_answer bytes rfl
  have hcopy := FileStore.copy_of_resolve (Host.resolve_holdingAs names hname bytes hopen) hnode
    rfl rfl hnew hopened
  obtain ⟨later, hlater, -⟩ := exists_copy (ofName source) (Host.holdingAs names bytes) htarget
    (hcopy.trans htransfer)
  exact ⟨later, hlater⟩

theorem holds_holdingAs (hname : FileStore.IsOneName source) (hsource : source ∈ names)
    (hopen : (Host.holdingAs names bytes).files.obstacle? [] source = none) :
    (Host.holdingAs names bytes).files.Holds [] ⟨source⟩ bytes :=
  ⟨[source], .file bytes, Host.resolve_holdingAs names hname bytes hopen,
    by rw [Host.content?_holdingAs, if_pos hsource], rfl⟩

-- Both names hold the bytes in the end, or none of them does.
theorem holds_of_final {home place : Location} {held : List UInt8}
    (hname : FileStore.IsOneName source) (hsource : source ∈ names)
    (hopen : (Host.holdingAs names bytes).files.obstacle? [] source = none)
    (hhome : (Host.holdingAs names bytes).files.resolve [] ⟨source⟩ = .ok home)
    (hplace : (Host.holdingAs names bytes).files.resolve [] ⟨"answer.mk"⟩ = .ok place)
    (hheld : (Host.holdingAs names bytes).files.Holds [] ⟨source⟩ held)
    (hfinal : (Host.holdingAs names bytes).files.CanHold place →
      later.files.Holds [] ⟨"answer.mk"⟩
          (if (Host.holdingAs names bytes).files.isShared place home then [] else held) ∧
        later.files.Holds [] ⟨source⟩
          (if (Host.holdingAs names bytes).files.isShared place home then [] else held)) :
    later.files.Holds [] ⟨"answer.mk"⟩ (if "answer.mk" ∈ names then [] else bytes) ∧
      later.files.Holds [] ⟨source⟩ (if "answer.mk" ∈ names then [] else bytes) := by
  have hsame := Host.resolve_holdingAs names hname bytes hopen
  obtain rfl := Except.ok.inj (hsame.symm.trans hhome)
  obtain rfl := Except.ok.inj
    ((Host.resolve_holdingAs names isOneName_answer bytes rfl).symm.trans hplace)
  obtain rfl := hheld.unique (holds_holdingAs names bytes hname hsource hopen)
  simpa only [Host.isShared_holdingAs names _ hsource, decide_eq_true_eq] using
    hfinal (Host.canHold_holdingAs names _ _)

-- The copy of a file beside it, and the copy of a file that has the name of copies as a second one.
theorem copy_outcome_beside :
    (∃ later, ((ofName "Makefile").copy none none).run.run
        (Host.holdingAs ["Makefile"] [97, 58, 10]) = (.ok ⟨"answer.mk"⟩, later) ∧
      later.files.Holds [] ⟨"answer.mk"⟩ [97, 58, 10] ∧
      later.files.Holds [] ⟨"Makefile"⟩ [97, 58, 10]) ∧
    ∃ later, ((ofName "Makefile").copy none none).run.run
        (Host.holdingAs ["Makefile", "answer.mk"] [97, 58, 10]) = (.ok ⟨"answer.mk"⟩, later) ∧
      later.files.Holds [] ⟨"answer.mk"⟩ [] ∧ later.files.Holds [] ⟨"Makefile"⟩ [] := by
  obtain ⟨beside, hbeside⟩ := exists_copy_holdingAs ["Makefile"] [97, 58, 10]
    isOneName_makefile (by decide) rfl (by decide) rfl rfl
  obtain ⟨onto, honto⟩ := exists_copy_holdingAs ["Makefile", "answer.mk"] [97, 58, 10]
    isOneName_makefile (by decide) rfl (by decide) rfl rfl
  refine ⟨⟨beside, hbeside, ?_⟩, onto, honto, ?_⟩
  · obtain ⟨-, -, home, place, held, hhome, hplace, hheld, hfinal, -⟩ := copy_outcome hbeside
    exact holds_of_final _ _ isOneName_makefile (by decide) rfl hhome hplace hheld
      fun hhold => (hfinal hhold).2.2.2
  · obtain ⟨-, -, home, place, held, hhome, hplace, hheld, hfinal, -⟩ := copy_outcome honto
    exact holds_of_final _ _ isOneName_makefile (by decide) rfl hhome hplace hheld
      fun hhold => (hfinal hhold).2.2.2

-- A file that has the name of copies is copied onto itself, and nothing is left of it.
theorem copy_empties : ∃ later,
    ((ofName "answer.mk").copy none none).run.run (Host.holdingAs ["answer.mk"] [97, 58, 10]) =
      (.ok ⟨"answer.mk"⟩, later) ∧
    (Host.holdingAs ["answer.mk"] [97, 58, 10]).files.Holds [] ⟨"answer.mk"⟩ [97, 58, 10] ∧
    later.files.Holds [] ⟨"answer.mk"⟩ [] ∧
    ¬later.files.Holds [] ⟨"answer.mk"⟩ [97, 58, 10] := by
  obtain ⟨later, hlater⟩ := exists_copy_holdingAs ["answer.mk"] [97, 58, 10]
    isOneName_answer (by decide) rfl (by decide) rfl rfl
  have hbefore := holds_holdingAs ["answer.mk"] [97, 58, 10]
    isOneName_answer (by decide) rfl
  have hempty : later.files.Holds [] ⟨"answer.mk"⟩ [] := by
    obtain ⟨-, -, hfiles⟩ := copy_ok hlater
    obtain ⟨home, place, held, hhome, hplace, hheld, hsets, -⟩ := FileStore.copy_eq_ok hfiles
    exact (holds_of_final ["answer.mk"] _ isOneName_answer (by decide) rfl hhome hplace hheld
      fun hhold => FileStore.holds_of_sets hhold (hsets hhold) hhome hplace hheld).1
  exact ⟨later, hlater, hbefore, hempty, fun hfull => by cases hempty.unique hfull⟩

end MakefileCase

end Example

end MakeCheck
