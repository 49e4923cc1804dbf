import MakeCheck.Check.Files
import MakeCheck.Proofs.Case.Copy

namespace MakeCheck

-- What a check sees of a path.
inductive Standing where
  | missing
  | file
  -- A directory, a device or a queue.
  | other
deriving DecidableEq

namespace FileStore

def standing (files : FileStore) (directory : Location) (path : Path) : Standing :=
  match files.find directory path with
  | .error _ => .missing
  | .ok (_, node) => if node.content.isFile then .file else .other

section Standing

variable (files : FileStore) (directory : Location) (path : Path)

theorem has_eq : files.has directory path = decide (files.standing directory path ≠ .missing) := by
  rw [has, standing]
  cases files.find directory path with
  | error fault => rfl
  | ok found => cases hfile : found.2.content.isFile <;> simp [hfile, Except.toOption]

theorem isFile_eq : files.isFile directory path = decide (files.standing directory path = .file) := by
  rw [isFile, standing]
  cases files.find directory path with
  | error fault => rfl
  | ok found => cases hfile : found.2.content.isFile <;> simp [hfile]

theorem standing_of_resolve {files : FileStore} {directory place : Location} {path : Path}
    {node : Node} (hresolve : files.resolve directory path = .ok place)
    (hnode : files.node? place = some node) :
    files.standing directory path = if node.content.isFile then .file else .other := by
  rw [standing, find_of_resolve hresolve hnode]

theorem standing_eq_missing {files : FileStore} {directory place : Location} {path : Path}
    (hresolve : files.resolve directory path = .ok place)
    (hfree : files.content? place = none) : files.standing directory path = .missing := by
  by_contra hthere
  have hhas := files.has_eq directory path
  rw [decide_eq_true hthere, has_eq_false hresolve hfree] at hhas
  cases hhas

end Standing

end FileStore

namespace Check

variable {files : FileStore} {directory : Location} {path : Path} {paths : List Path}

-- The paths of a list that lead nowhere.
def lacking (files : FileStore) (directory : Location) (paths : List Path) : List Path :=
  paths.filter fun path => files.standing directory path = .missing

-- The first path that leads to something other than a file, with files and gaps before it.
def IsFirstOther (files : FileStore) (directory : Location) (paths : List Path) (path : Path) :
    Prop :=
  ∃ above below, paths = above ++ path :: below ∧ files.standing directory path = .other ∧
    ∀ earlier ∈ above, files.standing directory earlier ≠ .other

theorem find?_eq_some_iff : paths.find? (fun path => files.standing directory path = .other) =
    some path ↔ IsFirstOther files directory paths path := by
  rw [List.find?_eq_some_iff_append, IsFirstOther]
  simp only [decide_eq_true_eq, Bool.not_eq_true', decide_eq_false_iff_not]
  constructor
  · rintro ⟨hother, above, below, hpaths, hnone⟩
    exact ⟨above, below, hpaths, hother, hnone⟩
  · rintro ⟨above, below, hpaths, hother, hnone⟩
    exact ⟨hother, above, below, hpaths, hnone⟩

-- What has been collected counts for nothing once a path turns out to be no file.
theorem missingAmong_eq (files : FileStore) (directory : Location) (paths : List Path) :
    missingAmong files directory paths =
      match paths.find? fun path => files.standing directory path = .other with
      | some path => .error (.notAFile path)
      | none => .ok (lacking files directory paths) := by
  induction paths with
  | nil => rfl
  | cons path rest ih =>
      rw [missingAmong, files.has_eq, files.isFile_eq, ih, List.find?_cons]
      cases hstanding : files.standing directory path with
      | missing =>
          simp only [lacking, List.filter_cons, hstanding]
          cases rest.find? fun path => files.standing directory path = .other <;> rfl
      | file => simp [lacking, hstanding]
      | other => simp

theorem allFilesExist_of_isFirstOther (hfirst : IsFirstOther files directory paths path) :
    allFilesExist files directory paths = .error (.notAFile path) := by
  rw [allFilesExist, missingAmong_eq, find?_eq_some_iff.mpr hfirst]

theorem allFilesExist_of_forall
    (hnone : ∀ path ∈ paths, files.standing directory path ≠ .other) :
    allFilesExist files directory paths =
      if lacking files directory paths = [] then .ok ()
      else .error (.missingFiles paths (lacking files directory paths)) := by
  have hfind : paths.find? (fun path => files.standing directory path = .other) = none := by
    rw [List.find?_eq_none]
    simpa using hnone
  rw [allFilesExist, missingAmong_eq, hfind]
  cases lacking files directory paths with
  | nil => rfl
  | cons path rest => rfl

theorem exists_isFirstOther (hsome : ∃ path ∈ paths, files.standing directory path = .other) :
    ∃ path, IsFirstOther files directory paths path := by
  have hfind : (paths.find? fun path => files.standing directory path = .other).isSome := by
    rw [List.find?_isSome]
    simpa using hsome
  obtain ⟨path, hpath⟩ := Option.isSome_iff_exists.mp hfind
  exact ⟨path, find?_eq_some_iff.mp hpath⟩

theorem IsFirstOther.mem (hfirst : IsFirstOther files directory paths path) : path ∈ paths := by
  obtain ⟨above, below, rfl, -⟩ := hfirst
  exact List.mem_append_right above List.mem_cons_self

theorem IsFirstOther.standing (hfirst : IsFirstOther files directory paths path) :
    files.standing directory path = .other := by
  obtain ⟨-, -, -, hother, -⟩ := hfirst
  exact hother

theorem lacking_eq_nil_iff : lacking files directory paths = [] ↔
    ∀ path ∈ paths, files.standing directory path ≠ .missing := by
  simp [lacking, List.filter_eq_nil_iff]

-- As many are missing as are expected only if each of them is, however often it is named.
theorem length_lacking_iff : paths.length = (lacking files directory paths).length ↔
    ∀ path ∈ paths, files.standing directory path = .missing := by
  rw [eq_comm, lacking, List.length_filter_eq_length_iff]
  simp

end Check

namespace Failure

theorem quotePaths_cons_cons (path next : Path) (rest : List Path) :
    quotePaths (path :: next :: rest) =
      "'" ++ path.text ++ "'" ++ ", " ++ quotePaths (next :: rest) := by
  simp only [quotePaths, List.map_cons, String.intercalate_cons_cons]

theorem getLast?_quotePaths {paths : List Path} (hne : paths ≠ []) :
    (quotePaths paths).toList.getLast? = some '\'' := by
  induction paths with
  | nil => exact absurd rfl hne
  | cons path rest ih =>
      cases rest with
      | nil => simp [quotePaths, List.getLast?_cons]
      | cons next rest =>
          rw [quotePaths_cons_cons, String.toList_append, List.getLast?_append, ih (by simp)]
          rfl

theorem message_missingFiles (expected missing : List Path) :
    (missingFiles expected missing).message =
      "Expect to see all of these files: " ++ quotePaths expected ++ ".\n\n" ++
        if expected.length = missing.length then "However, none of them can be found."
        else "However, these files cannot be found: " ++ quotePaths missing :=
  rfl

theorem length_eq_of_none_suffix {expected missing : List Path}
    (hsuffix : "However, none of them can be found.".toList <:+
      (missingFiles expected missing).message.toList) : expected.length = missing.length := by
  by_contra hlength
  rw [message_missingFiles, if_neg hlength] at hsuffix
  obtain ⟨front, hfront⟩ := hsuffix
  have hlast := congrArg List.getLast? hfront
  simp only [String.toList_append, List.getLast?_append] at hlast
  by_cases hmissing : missing = []
  · simp [hmissing, quotePaths] at hlast
  · simp [getLast?_quotePaths hmissing] at hlast

theorem none_suffix_of_length_eq {expected missing : List Path}
    (hlength : expected.length = missing.length) :
    "However, none of them can be found.".toList <:+
      (missingFiles expected missing).message.toList := by
  rw [message_missingFiles, if_pos hlength, String.toList_append]
  exact List.suffix_append _ _

end Failure

namespace Check

section Outcome

variable {files : FileStore} {directory : Location} {paths : List Path}

-- There are three outcomes and no others.
theorem allFilesExist_cases (files : FileStore) (directory : Location) (paths : List Path) :
    (allFilesExist files directory paths = .ok () ∧
      ∀ path ∈ paths, files.standing directory path = .file) ∨
    (∃ path, IsFirstOther files directory paths path ∧
      allFilesExist files directory paths = .error (.notAFile path)) ∨
    (allFilesExist files directory paths =
        .error (.missingFiles paths (lacking files directory paths)) ∧
      (∃ path ∈ paths, files.standing directory path = .missing) ∧
      ∀ path ∈ paths, files.standing directory path ≠ .other) := by
  by_cases hother : ∃ path ∈ paths, files.standing directory path = .other
  · obtain ⟨path, hfirst⟩ := exists_isFirstOther hother
    exact .inr (.inl ⟨path, hfirst, allFilesExist_of_isFirstOther hfirst⟩)
  · have hnone : ∀ path ∈ paths, files.standing directory path ≠ .other :=
      fun path hmem hpath => hother ⟨path, hmem, hpath⟩
    have hchecked := allFilesExist_of_forall hnone
    by_cases hlacking : lacking files directory paths = []
    · rw [if_pos hlacking] at hchecked
      refine .inl ⟨hchecked, fun path hmem => ?_⟩
      have hthere := lacking_eq_nil_iff.mp hlacking path hmem
      have hplain := hnone path hmem
      cases hstanding : files.standing directory path with
      | missing => exact absurd hstanding hthere
      | file => rfl
      | other => exact absurd hstanding hplain
    · rw [if_neg hlacking] at hchecked
      refine .inr (.inr ⟨hchecked, ?_, hnone⟩)
      by_contra hthere
      exact hlacking (lacking_eq_nil_iff.mpr fun path hmem hpath => hthere ⟨path, hmem, hpath⟩)

theorem allFilesExist_eq_ok_iff : allFilesExist files directory paths = .ok () ↔
    ∀ path ∈ paths, files.standing directory path = .file := by
  refine ⟨fun hok => ?_, fun hall => ?_⟩
  · rcases allFilesExist_cases files directory paths with
      ⟨-, hall⟩ | ⟨path, -, hfailed⟩ | ⟨hfailed, -⟩
    · exact hall
    · cases hok.symm.trans hfailed
    · cases hok.symm.trans hfailed
  · rw [allFilesExist_of_forall fun path hmem => by simp [hall path hmem], if_pos]
    exact lacking_eq_nil_iff.mpr fun path hmem => by simp [hall path hmem]

theorem allFilesExist_eq_notAFile_iff {path : Path} :
    allFilesExist files directory paths = .error (.notAFile path) ↔
      IsFirstOther files directory paths path := by
  refine ⟨fun hfailed => ?_, allFilesExist_of_isFirstOther⟩
  rcases allFilesExist_cases files directory paths with
    ⟨hok, -⟩ | ⟨first, hfirst, hfirst'⟩ | ⟨hmissing, -⟩
  · cases hok.symm.trans hfailed
  · obtain rfl := Failure.notAFile.inj (Except.error.inj (hfirst'.symm.trans hfailed))
    exact hfirst
  · cases hmissing.symm.trans hfailed

theorem allFilesExist_eq_missing_iff {expected missing : List Path} :
    allFilesExist files directory paths = .error (.missingFiles expected missing) ↔
      (∃ path ∈ paths, files.standing directory path = .missing) ∧
        (∀ path ∈ paths, files.standing directory path ≠ .other) ∧
        expected = paths ∧ missing = lacking files directory paths := by
  constructor
  · intro hfailed
    rcases allFilesExist_cases files directory paths with
      ⟨hok, -⟩ | ⟨first, -, hfirst⟩ | ⟨hmissing, hsome, hnone⟩
    · cases hok.symm.trans hfailed
    · cases hfirst.symm.trans hfailed
    · obtain ⟨rfl, rfl⟩ :=
        Failure.missingFiles.inj (Except.error.inj (hmissing.symm.trans hfailed))
      exact ⟨hsome, hnone, rfl, rfl⟩
  · rintro ⟨⟨path, hmem, hpath⟩, hnone, rfl, rfl⟩
    rw [allFilesExist_of_forall hnone, if_neg]
    exact fun hnil => lacking_eq_nil_iff.mp hnil path hmem hpath

theorem fileExists_eq_ok_iff {path : Path} : fileExists files directory path = .ok () ↔
    files.standing directory path ≠ .missing := by
  rw [fileExists, files.has_eq]
  by_cases hmissing : files.standing directory path = .missing <;> simp [hmissing]

theorem exists_notAFile_iff :
    (∃ path, allFilesExist files directory paths = .error (.notAFile path)) ↔
      ∃ path ∈ paths, files.standing directory path = .other := by
  constructor
  · rintro ⟨path, hfailed⟩
    have hfirst := allFilesExist_eq_notAFile_iff.mp hfailed
    exact ⟨path, hfirst.mem, hfirst.standing⟩
  · intro hother
    obtain ⟨path, hfirst⟩ := exists_isFirstOther hother
    exact ⟨path, allFilesExist_of_isFirstOther hfirst⟩

theorem failure_of_allFilesExist {failure : Failure}
    (hfailed : allFilesExist files directory paths = .error failure) :
    failure = .missingFiles paths (lacking files directory paths) ∨
      ∃ path, failure = .notAFile path := by
  rcases allFilesExist_cases files directory paths with
    ⟨hok, -⟩ | ⟨path, -, hpath⟩ | ⟨hmissing, -⟩
  · cases hok.symm.trans hfailed
  · exact .inr ⟨path, (Except.error.inj (hpath.symm.trans hfailed)).symm⟩
  · exact .inl (Except.error.inj (hmissing.symm.trans hfailed)).symm

-- The two checks of a single path differ where it leads to something that is no file.
theorem allFilesExist_singleton (files : FileStore) (directory : Location) (path : Path) :
    if files.standing directory path = .other then
        fileExists files directory path = .ok () ∧
          allFilesExist files directory [path] = .error (.notAFile path)
      else allFilesExist files directory [path] = .ok () ↔
        fileExists files directory path = .ok () := by
  split
  · rename_i hother
    have hthere : files.standing directory path ≠ .missing := by
      rw [hother]
      decide
    exact ⟨fileExists_eq_ok_iff.mpr hthere,
      allFilesExist_of_isFirstOther ⟨[], [], rfl, hother, by simp⟩⟩
  · rename_i hplain
    rw [allFilesExist_eq_ok_iff, fileExists_eq_ok_iff, List.forall_mem_singleton]
    cases hstanding : files.standing directory path with
    | missing => simp
    | file => simp
    | other => exact absurd hstanding hplain

end Outcome

-- A list of files is in order if each path leads to a regular file. The first path that leads to
-- something else is what is complained of, whatever is missing before or behind it, and only then
-- the paths that lead nowhere count, each as often as it is named.
theorem outcome_of_allFilesExist (files : FileStore) (directory : Location) (paths : List Path) :
    let standing := files.standing directory
    let checked := allFilesExist files directory paths
    let missing := paths.filter fun path => standing path = .missing
    let quoted (paths : List Path) :=
      ", ".intercalate (paths.map fun path => "'" ++ path.text ++ "'")
    let message := (Failure.missingFiles paths missing).message
    (checked = .ok () ↔ ∀ path ∈ paths, standing path = .file) ∧
    (∀ path, checked = .error (.notAFile path) ↔
      ∃ above below, paths = above ++ path :: below ∧ standing path = .other ∧
        ∀ earlier ∈ above, standing earlier ≠ .other) ∧
    ((∃ path, checked = .error (.notAFile path)) ↔ ∃ path ∈ paths, standing path = .other) ∧
    (checked = .error (.missingFiles paths missing) ↔
      (∃ path ∈ paths, standing path = .missing) ∧ ∀ path ∈ paths, standing path ≠ .other) ∧
    (∀ failure, checked = .error failure →
      failure = .missingFiles paths missing ∨ ∃ path, failure = .notAFile path) ∧
    ("However, none of them can be found.".toList <:+ message.toList ↔
      ∀ path ∈ paths, standing path = .missing) ∧
    (message = "Expect to see all of these files: " ++ quoted paths ++ ".\n\n" ++
      if ∀ path ∈ paths, standing path = .missing then "However, none of them can be found."
      else "However, these files cannot be found: " ++ quoted missing) ∧
    ∀ path, if standing path = .other then
        fileExists files directory path = .ok () ∧
          allFilesExist files directory [path] = .error (.notAFile path)
      else allFilesExist files directory [path] = .ok () ↔
        fileExists files directory path = .ok () := by
  intro standing checked missing quoted message
  have hlength : paths.length = missing.length ↔ ∀ path ∈ paths, standing path = .missing :=
    length_lacking_iff
  refine ⟨allFilesExist_eq_ok_iff, fun path => allFilesExist_eq_notAFile_iff, exists_notAFile_iff,
    ?_, fun failure => failure_of_allFilesExist, ?_, ?_, allFilesExist_singleton files directory⟩
  · have hsame : paths = paths ∧ missing = lacking files directory paths := ⟨rfl, rfl⟩
    refine allFilesExist_eq_missing_iff.trans ?_
    rw [and_iff_left hsame]
  · rw [← hlength]
    exact ⟨Failure.length_eq_of_none_suffix, Failure.none_suffix_of_length_eq⟩
  · have htold := Failure.message_missingFiles paths missing
    simp only [hlength] at htold
    exact htold

section Example

-- A system with one file. Its root is there and is no file, and what is asked for twice is missing
-- twice, also in what is told of it.
theorem outcome_of_allFilesExist_mixed :
    let files := (Host.holding []).files
    files.standing [] ⟨"Makefile"⟩ = .file ∧ files.standing [] ⟨"."⟩ = .other ∧
      files.standing [] ⟨"answer.mk"⟩ = .missing ∧
      allFilesExist files [] [⟨"answer.mk"⟩, ⟨"."⟩, ⟨"answer.mk"⟩] = .error (.notAFile ⟨"."⟩) ∧
      allFilesExist files [] [⟨"answer.mk"⟩, ⟨"Makefile"⟩, ⟨"answer.mk"⟩] =
        .error (.missingFiles [⟨"answer.mk"⟩, ⟨"Makefile"⟩, ⟨"answer.mk"⟩]
          [⟨"answer.mk"⟩, ⟨"answer.mk"⟩]) ∧
      (Failure.missingFiles [⟨"answer.mk"⟩, ⟨"Makefile"⟩, ⟨"answer.mk"⟩]
        [⟨"answer.mk"⟩, ⟨"answer.mk"⟩]).message =
        "Expect to see all of these files: 'answer.mk', 'Makefile', 'answer.mk'.\n\n" ++
          "However, these files cannot be found: 'answer.mk', 'answer.mk'" := by
  intro files
  have hfile : files.standing [] ⟨"Makefile"⟩ = .file :=
    FileStore.standing_of_resolve (Host.resolve_showing rfl) rfl
  have hroot : files.resolve [] ⟨"."⟩ = .ok [] := by
    have hpieces : (⟨"."⟩ : Path).pieces = ["."] := by decide
    refine FileStore.resolve_eq_ok_iff.mpr ⟨by decide, ?_⟩
    rw [hpieces]
    exact .stay rfl (.inr rfl) (.arrived _ _)
  have hother : files.standing [] ⟨"."⟩ = .other := FileStore.standing_of_resolve hroot rfl
  have hanswer : files.resolve [] ⟨"answer.mk"⟩ = .ok ["answer.mk"] := by
    have hfree : files.content? ["answer.mk"] = none := by decide
    exact FileStore.resolve_of_isOneName isOneName_answer rfl (by simp [hfree])
  have hmissing : files.standing [] ⟨"answer.mk"⟩ = .missing :=
    FileStore.standing_eq_missing hanswer (by decide)
  obtain ⟨-, hfirst, -⟩ := outcome_of_allFilesExist files [] [⟨"answer.mk"⟩, ⟨"."⟩, ⟨"answer.mk"⟩]
  obtain ⟨-, -, -, hlacking, -, -, htold, -⟩ :=
    outcome_of_allFilesExist files [] [⟨"answer.mk"⟩, ⟨"Makefile"⟩, ⟨"answer.mk"⟩]
  simp only [List.filter_cons, List.filter_nil, hfile, hmissing] at hlacking htold
  refine ⟨hfile, hother, hmissing, (hfirst _).mpr ⟨[⟨"answer.mk"⟩], _, rfl, hother, ?_⟩, ?_, ?_⟩
  · simp [hmissing]
  · exact hlacking.mpr ⟨⟨_, by simp, hmissing⟩, by simp [hmissing, hfile]⟩
  · refine htold.trans ?_
    rw [if_neg (by simp [hfile])]
    decide

end Example

end Check

end MakeCheck
