import MakeCheck.Proofs.Case.Scratch

namespace MakeCheck

-- The ways to make a case. The default case is a new one.
inductive Making where
  | new
  | withScratch
  | withScratchIn (parent : Path)
deriving DecidableEq

namespace Making

def make : Making → Action Report BaseCase
  | new => liftM BaseCase.new
  | withScratch => BaseCase.withScratch
  | withScratchIn parent => BaseCase.withScratchIn parent

variable {making : Making} {host later : Host} {base : BaseCase} {report : Report}

theorem run_new : (liftM BaseCase.new : Action Report BaseCase).run.run host =
    (.ok (BaseCase.new.run host).1, (BaseCase.new.run host).2) :=
  rfl

-- A case that comes about has read the variable. It has made one directory, or none.
theorem make_ok (hmake : making.make.run.run host = (.ok base, later)) :
    base.debug = host.environment.debugMode ∧
      (base.scratch = none ∧ later.files = host.files ∨
        ∃ path place, base.Settles host later path place) := by
  cases making with
  | new =>
      rw [make, run_new] at hmake
      obtain ⟨hbase, rfl⟩ := Prod.mk.inj hmake
      obtain rfl := Except.ok.inj hbase
      exact ⟨rfl, .inl ⟨rfl, rfl⟩⟩
  | withScratch =>
      rw [make, BaseCase.withScratch] at hmake
      exact (BaseCase.withScratchIn_ok hmake).imp_right .inr
  | withScratchIn parent =>
      rw [make] at hmake
      exact (BaseCase.withScratchIn_ok hmake).imp_right .inr

theorem make_error (hmake : making.make.run.run host = (.error report, later)) : later = host := by
  cases making with
  | new =>
      rw [make, run_new] at hmake
      cases hmake
  | withScratch =>
      rw [make, BaseCase.withScratch] at hmake
      exact BaseCase.withScratchIn_error hmake
  | withScratchIn parent =>
      rw [make] at hmake
      exact BaseCase.withScratchIn_error hmake

end Making

-- Who has a base: the one that made it, a Makefile case, or nobody once it was dropped.
inductive Owner where
  | maker (base : BaseCase)
  | loaded (case : MakefileCase)
  | nobody

namespace Owner

def base? : Owner → Option BaseCase
  | maker base => some base
  | loaded case => some case.base
  | nobody => none

end Owner

-- What is on record of a case that was made.
structure Entry where
  -- Its scratch directory, and the place that this path led to when the directory was new.
  path : Option Path
  place : Option Location
  -- Whether the variable asked for debug mode at that time.
  keeps : Bool
  owner : Owner

-- The record of a base, by the host before it was made and after.
def Entry.ofBase (base : BaseCase) (before later : Host) : Entry where
  path := base.scratch
  place := base.scratch.bind fun path => (later.files.resolve later.directory path).toOption
  keeps := before.environment.debugMode
  owner := .maker base

theorem Entry.place_ofBase {base : BaseCase} {before later : Host} {path : Path}
    {place : Location} (hsettles : base.Settles before later path place) :
    (Entry.ofBase base before later).place = some place := by
  simp [ofBase, hsettles.scratch, hsettles.leads, Except.toOption]

-- What may happen. Cases are told by the order in which they were made.
inductive Event where
  | make (making : Making)
  | load (index : Nat) (path : Path)
  | drop (index : Nat)
  -- Without a value the variable is taken away.
  | setDebug (value : Option (List UInt8))
  -- Whatever others do to the host.
  | elsewhere (later : Host)

-- The case that an event is about, among those that were there before.
def Event.index? : Event → Option Nat
  | load index _ | drop index => some index
  | _ => none

-- The host with all the cases that were ever made on it.
structure World where
  host : Host
  entries : List Entry

namespace World

def enter (world : World) (base : BaseCase) (later : Host) : World where
  host := later
  entries := world.entries ++ [.ofBase base world.host later]

def pass (world : World) (index : Nat) (owner : Owner) (later : Host) : World where
  host := later
  entries := world.entries.modify index fun entry => { entry with owner }

def owner? (world : World) (index : Nat) : Option Owner :=
  world.entries[index]?.map (·.owner)

def base? (world : World) (index : Nat) : Option BaseCase :=
  (world.owner? index).bind (·.base?)

def place? (world : World) (index : Nat) : Option Location :=
  world.entries[index]?.bind (·.place)

-- A base that was given to a load is the load's to drop. An event about a case that is not there
-- comes to nothing.
def step (world : World) : Event → World
  | .make making =>
      match making.make.run.run world.host with
      | (.ok base, later) => world.enter base later
      | (.error _, later) => { world with host := later }
  | .load index path =>
      match world.owner? index with
      | some (.maker base) =>
          match (MakefileCase.load base path).run.run world.host with
          | (.ok case, later) => world.pass index (.loaded case) later
          | (.error _, later) => world.pass index .nobody later
      | _ => world
  | .drop index =>
      match world.owner? index with
      | some (.maker base) => world.pass index .nobody (base.drop.run world.host).2
      | some (.loaded case) => world.pass index .nobody (case.drop.run world.host).2
      | _ => world
  | .setDebug value =>
      let environment := world.host.environment
      let changed := match value with
        | some bytes => environment.set "DEBUG" bytes
        | none => environment.unset "DEBUG"
      { world with host := { world.host with environment := changed } }
  | .elsewhere later => { world with host := later }

def run (world : World) (events : List Event) : World :=
  events.foldl step world

theorem run_nil (world : World) : world.run [] = world :=
  rfl

theorem run_cons (world : World) (event : Event) (events : List Event) :
    world.run (event :: events) = (world.step event).run events :=
  rfl

-- The base is alive, with whomever it is.
def Lives (world : World) (index : Nat) : Prop :=
  (world.base? index).isSome = true

-- The directory of a case is there. Where a later case has one of the same name, the directory is
-- that of the later case.
def Stands (world : World) (index : Nat) : Prop :=
  ∃ place, world.place? index = some place ∧
    world.host.files.content? place = some .directory ∧
    ∀ later, index < later → world.place? later ≠ some place

-- The directory that a case is to remove is where its path leads.
def Finds (world : World) (index : Nat) : Prop :=
  ∀ base path, world.base? index = some base → base.debug = false → base.scratch = some path →
    ∃ place, world.place? index = some place ∧
      world.host.files.resolve world.host.directory path = .ok place

-- Somebody leaves a file store behind, and in it the directories of the cases as they were.
def Leaves (world : World) (later : Host) : Prop :=
  later.files.Rooted ∧ ∀ index place, world.place? index = some place →
    (later.files.content? place = some .directory ↔
      world.host.files.content? place = some .directory)

-- What is taken for granted of an event.
structure Allows (world : World) (event : Event) : Prop where
  -- No directory is made inside that of a case that is alive.
  outside : ∀ index above place, world.Lives index → world.place? index = some above →
    (world.step event).place? world.entries.length = some place → above <+: place → above = place
  -- Removal succeeds where a case ends.
  finds : ∀ index, world.Lives index → ¬(world.step event).Lives index → world.Finds index
  -- Nobody else removes a directory of a case or puts one in its place.
  others : ∀ later, event = .elsewhere later → world.Leaves later

-- A run of events each of which is allowed where it happens.
def Orderly (world : World) : List Event → Prop
  | [] => True
  | event :: events => world.Allows event ∧ (world.step event).Orderly events

section Entries

variable {world : World} {index other : Nat} {entry : Entry} {base : BaseCase} {owner : Owner}
  {later : Host}

theorem step_make_ok {making : Making}
    (hmake : making.make.run.run world.host = (.ok base, later)) :
    world.step (.make making) = world.enter base later := by
  rw [step, hmake]

theorem base?_eq (hentry : world.entries[index]? = some entry) :
    world.base? index = entry.owner.base? := by
  rw [base?, owner?, hentry]
  rfl

theorem place?_eq (hentry : world.entries[index]? = some entry) :
    world.place? index = entry.place := by
  rw [place?, hentry]
  rfl

theorem exists_entry_of_base? (hbase : world.base? index = some base) :
    ∃ entry, world.entries[index]? = some entry ∧ entry.owner.base? = some base := by
  cases hentry : world.entries[index]? with
  | none => simp [base?, owner?, hentry] at hbase
  | some entry => exact ⟨entry, rfl, by rw [← base?_eq hentry, hbase]⟩

theorem exists_entry_of_place? {place : Location} (hplace : world.place? index = some place) :
    ∃ entry, world.entries[index]? = some entry ∧ entry.place = some place :=
  Option.bind_eq_some_iff.mp hplace

theorem base?_eq_of_owner? (howner : world.owner? index = some owner)
    (hbase : owner.base? = some base) : world.base? index = some base := by
  rw [base?, howner]
  exact hbase

theorem lt_length_of_place? {place : Location} (hplace : world.place? index = some place) :
    index < world.entries.length := by
  obtain ⟨entry, hentry, -⟩ := exists_entry_of_place? hplace
  exact (List.getElem?_eq_some_iff.mp hentry).1

theorem lives_iff : world.Lives index ↔ ∃ base, world.base? index = some base :=
  Option.isSome_iff_exists

theorem lives_of_base? (hbase : world.base? index = some base) : world.Lives index :=
  lives_iff.mpr ⟨base, hbase⟩

theorem getElem?_pass : (world.pass index owner later).entries[other]? =
    if index = other then world.entries[other]?.map fun entry => { entry with owner }
    else world.entries[other]? := by
  rw [pass, List.getElem?_modify]
  split <;> simp

theorem entry_pass (hentry : (world.pass index owner later).entries[other]? = some entry) :
    (other = index ∧ ∃ before, world.entries[index]? = some before ∧
        entry = { before with owner }) ∨
      other ≠ index ∧ world.entries[other]? = some entry := by
  rw [getElem?_pass] at hentry
  split at hentry
  · subst other
    obtain ⟨before, hbefore, rfl⟩ := Option.map_eq_some_iff.mp hentry
    exact .inl ⟨rfl, before, hbefore, rfl⟩
  · exact .inr ⟨Ne.symm ‹_›, hentry⟩

theorem place?_pass : (world.pass index owner later).place? other = world.place? other := by
  rw [place?, getElem?_pass, place?]
  split
  · cases world.entries[other]? <;> rfl
  · rfl

theorem base?_pass_of_ne (hne : index ≠ other) :
    (world.pass index owner later).base? other = world.base? other := by
  rw [base?, owner?, getElem?_pass, if_neg hne, base?, owner?]

theorem base?_pass_self (hbase : world.base? index = some base) :
    (world.pass index owner later).base? index = owner.base? := by
  obtain ⟨entry, hentry, -⟩ := exists_entry_of_base? hbase
  rw [base?, owner?, getElem?_pass, if_pos rfl, hentry]
  rfl

theorem getElem?_enter : (world.enter base later).entries[index]? =
    if index = world.entries.length then some (.ofBase base world.host later)
    else world.entries[index]? := by
  rw [enter, List.getElem?_append]
  split
  · rw [if_neg (by omega)]
  · split
    · simp [*]
    · rw [List.getElem?_eq_none (by simp; omega), List.getElem?_eq_none (by omega)]

theorem entry_enter (hentry : (world.enter base later).entries[index]? = some entry) :
    (index = world.entries.length ∧ entry = .ofBase base world.host later) ∨
      index ≠ world.entries.length ∧ world.entries[index]? = some entry := by
  rw [getElem?_enter] at hentry
  split at hentry
  · exact .inl ⟨‹_›, (Option.some.inj hentry).symm⟩
  · exact .inr ⟨‹_›, hentry⟩

theorem place?_enter : (world.enter base later).place? index =
    if index = world.entries.length then (Entry.ofBase base world.host later).place
    else world.place? index := by
  rw [place?, getElem?_enter, place?]
  split <;> rfl

theorem base?_enter_of_ne (hne : index ≠ world.entries.length) :
    (world.enter base later).base? index = world.base? index := by
  rw [base?, owner?, getElem?_enter, if_neg hne, base?, owner?]

end Entries

end World

end MakeCheck
