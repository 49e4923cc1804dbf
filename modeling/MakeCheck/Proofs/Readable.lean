import MakeCheck.Proofs.Case.Scratch
import MakeCheck.Proofs.Listing
import MakeCheck.Proofs.Utf8

namespace MakeCheck

open Text.Utf8

namespace FileStore

variable {store : FileStore} {directory : Location} {path : Path} {file : String} {fault : Fault}

-- Why a path gives no text: its bytes cannot be had, or they are not those of any text.
def Refuses (store : FileStore) (directory : Location) (path : Path) (fault : Fault) : Prop :=
  store.read directory path = .error fault ∨
    fault = .invalidText ∧
      ∃ bytes, store.read directory path = .ok bytes ∧ ∀ file, bytes ≠ encode file

theorem readText_eq_ok_iff :
    store.readText directory path = .ok file ↔ store.read directory path = .ok (encode file) := by
  rw [readText]
  cases store.read directory path with
  | error fault => simp [bind, Except.bind]
  | ok bytes =>
      simp only [bind, Except.bind, Except.ok.injEq]
      rw [← decode?_eq_some_iff]
      cases decode? bytes <;> simp

theorem readText_eq_error_iff :
    store.readText directory path = .error fault ↔ store.Refuses directory path fault := by
  rw [readText, Refuses]
  cases store.read directory path with
  | error other => simp [bind, Except.bind]
  | ok bytes =>
      simp only [bind, Except.bind, Except.ok.injEq, exists_eq_left', ne_eq,
        ← decode?_eq_some_iff]
      cases decode? bytes <;> simp [eq_comm]

theorem refuses_notFound_iff :
    store.Refuses directory path .notFound ↔ store.Missing directory path := by
  rw [← read_eq_notFound_iff, Refuses]
  simp

end FileStore

namespace Makefile

variable {files : FileStore} {directory : Location} {path : Path} {options : ParseOptions}

theorem ofPath_eq_ok_iff {makefile : Makefile} :
    ofPath files directory path options = .ok makefile ↔
      ∃ file, files.read directory path = .ok (encode file) ∧
        makefile = { parse options file with origin := .path path } := by
  simp only [← FileStore.readText_eq_ok_iff, ofPath]
  cases files.readText directory path <;> simp [eq_comm]

theorem ofPath_eq_error_iff {report : Report} :
    ofPath files directory path options = .error report ↔
      ∃ fault, report = .readMakefile path fault ∧ files.Refuses directory path fault := by
  simp only [← FileStore.readText_eq_error_iff, ofPath]
  cases files.readText directory path <;> simp [eq_comm]

end Makefile

namespace MakefileCase

variable {host : Host} {path : Path}

theorem loadMakefile_of_has (hhas : host.files.has host.directory path = true) :
    ((loadMakefile path).run.run host).1 =
      Makefile.ofPath host.files host.directory path (.ofEnvironment host.environment) := by
  rw [loadMakefile, Action.run_bind, Action.run_get]
  simp only [hhas, Bool.not_true, Bool.false_eq_true, if_false, Action.run_bind, Makefile.run_load]
  cases Makefile.ofPath host.files host.directory path (.ofEnvironment host.environment) <;> rfl

-- A case is the Makefile with the path and the base that were given.
theorem load_eq_map (host : Host) (base : BaseCase) (path : Path) :
    ((load base path).run.run host).1 =
      ((loadMakefile path).run.run host).1.map (⟨base, path, ·⟩) := by
  rw [run_load]
  cases (loadMakefile path).run.run host with
  | mk result later => cases result <;> rfl

theorem load_eq (host : Host) (base : BaseCase) (path : Path) :
    ((load base path).run.run host).1 =
      if host.files.has host.directory path then
        ((Makefile.load path (.ofEnvironment host.environment)).run.run host).1.map
          (⟨base, path, ·⟩)
      else .error (.failure (.missingMakefile path)) := by
  rw [load_eq_map]
  cases hhas : host.files.has host.directory path with
  | false =>
      rw [loadMakefile_of_missing hhas]
      rfl
  | true =>
      rw [loadMakefile_of_has hhas]
      rfl

theorem load_eq_missingMakefile_iff (host : Host) (base : BaseCase) (path : Path) :
    ((load base path).run.run host).1 = .error (.failure (.missingMakefile path)) ↔
      host.files.has host.directory path = false := by
  rw [load_eq, Makefile.run_load]
  cases host.files.has host.directory path with
  | false => simp
  | true =>
      rw [if_pos rfl]
      cases hpath : Makefile.ofPath host.files host.directory path
        (.ofEnvironment host.environment) with
      | ok makefile => simp [Except.map]
      | error report =>
          obtain ⟨fault, rfl, -⟩ := Makefile.ofPath_eq_error_iff.mp hpath
          simp [Except.map]

end MakefileCase

-- The Makefile at a path is what its text parses to, and nothing is parsed where there is no text.
-- The two loaders differ only in what they say where nothing is at the path.
theorem load_agrees_with_parse (host : Host) (base : BaseCase) (path : Path)
    (options : ParseOptions) :
    (∀ bytes, host.files.read host.directory path = .ok bytes ↔
      ∃ place node, host.files.resolve host.directory path = .ok place ∧
        host.files.node? place = some node ∧ node.allows host.files.user .read = true ∧
        node.failing = none ∧ FileStore.bytesOf node.content = .ok bytes) ∧
    (∀ makefile, ((Makefile.load path options).run.run host).1 = .ok makefile ↔
      ∃ file, host.files.read host.directory path = .ok (encode file) ∧
        makefile = { Makefile.parse options file with origin := .path path }) ∧
    (∀ report, ((Makefile.load path options).run.run host).1 = .error report ↔
      ∃ fault, report = .readMakefile path fault ∧
        host.files.Refuses host.directory path fault) ∧
    (∀ fault, (Report.readMakefile path fault).chain =
      ["Failed to read Makefile: " ++ path.text, fault.message]) ∧
    (((Makefile.load path options).run.run host).1 = .error (.readMakefile path .notFound) ↔
      host.files.Missing host.directory path) ∧
    (((MakefileCase.load base path).run.run host).1 = .error (.failure (.missingMakefile path)) ↔
      host.files.has host.directory path = false) ∧
    ((MakefileCase.load base path).run.run host).1 =
      if host.files.has host.directory path then
        ((Makefile.load path (.ofEnvironment host.environment)).run.run host).1.map
          (⟨base, path, ·⟩)
      else .error (.failure (.missingMakefile path)) := by
  rw [Makefile.run_load]
  refine ⟨fun bytes => FileStore.read_eq_ok_iff, fun makefile => Makefile.ofPath_eq_ok_iff,
    fun report => Makefile.ofPath_eq_error_iff, fun fault => rfl, ?_,
    MakefileCase.load_eq_missingMakefile_iff host base path, MakefileCase.load_eq host base path⟩
  rw [Makefile.ofPath_eq_error_iff, ← FileStore.refuses_notFound_iff]
  simp

section Example

-- What is wrong with something that is there, and with the one who wants it.
def refusals : List (User × Node × Fault) :=
  [(.root, .ofRoot (.file [97, 58, 255]) 0o644 0, .invalidText),
    (⟨1000, [1000]⟩, .ofRoot (.file [97, 58, 10]) 0o600 0, .permissionDenied),
    (.root, { Node.ofRoot (.file [97, 58, 10]) 0o644 0 with
      failing := some ⟨.other "Input/output error" (some 5), by decide⟩ },
      .other "Input/output error" (some 5)),
    (.root, .ofRoot .directory 0o755 0, .isADirectory),
    (.root, .ofRoot (.device .zero) 0o666 0, .outOfMemory)]

theorem refuses_of_mem_refusals {user : User} {node : Node} {fault : Fault}
    (hmem : (user, node, fault) ∈ refusals) :
    node.content.isLink = false ∧
      (Host.showing user node).files.Refuses [] ⟨"Makefile"⟩ fault := by
  simp only [refusals, List.mem_cons, List.not_mem_nil, or_false, Prod.mk.injEq] at hmem
  have hstray : ∀ file, ([97, 58, 255] : List UInt8) ≠ encode file := by
    intro file hfile
    have hdecode := decode?_eq_some_iff.mpr hfile
    simp [show decode? [97, 58, 255] = none by decide] at hdecode
  rcases hmem with ⟨rfl, rfl, rfl⟩ | ⟨rfl, rfl, rfl⟩ | ⟨rfl, rfl, rfl⟩ | ⟨rfl, rfl, rfl⟩ |
    ⟨rfl, rfl, rfl⟩
  · exact ⟨rfl, .inr ⟨rfl, _, Host.read_showing rfl, hstray⟩⟩
  all_goals exact ⟨rfl, .inl (Host.read_showing rfl)⟩

-- None of these is a missing file, and each is an error of the system for both loaders.
theorem load_agrees_with_parse_refused :
    ∀ user node fault, (user, node, fault) ∈ refusals →
      ((Makefile.load ⟨"Makefile"⟩ ⟨true, false⟩).run.run (Host.showing user node)).1 =
          .error (.readMakefile ⟨"Makefile"⟩ fault) ∧
        ((MakefileCase.load ⟨false, .given 0, none⟩ ⟨"Makefile"⟩).run.run
          (Host.showing user node)).1 =
          .error (.readMakefile ⟨"Makefile"⟩ fault) := by
  intro user node fault hmem
  obtain ⟨hplain, hrefuses⟩ := refuses_of_mem_refusals hmem
  have hhas : (Host.showing user node).files.has [] ⟨"Makefile"⟩ = true := by
    rw [FileStore.has, Host.find_showing hplain]
    rfl
  obtain ⟨-, -, hreport, -, -, -, hcase⟩ := load_agrees_with_parse (Host.showing user node)
    ⟨false, .given 0, none⟩ ⟨"Makefile"⟩ ⟨true, false⟩
  have hload := (hreport _).mpr ⟨_, rfl, hrefuses⟩
  have hdefault : ParseOptions.ofEnvironment (Host.showing user node).environment =
      ⟨true, false⟩ := rfl
  rw [hdefault, hload] at hcase
  exact ⟨hload, hcase.trans (if_pos hhas)⟩

end Example

end MakeCheck
