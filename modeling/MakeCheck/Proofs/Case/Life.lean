import MakeCheck.Proofs.Case.World

namespace MakeCheck.World

theorem Stands.content? {world : World} {index : Nat} {place : Location}
    (hstands : world.Stands index) (hplace : world.place? index = some place) :
    world.host.files.content? place = some .directory := by
  obtain ⟨other, hother, hdirectory, -⟩ := hstands
  obtain rfl := Option.some.inj (hother.symm.trans hplace)
  exact hdirectory

-- What holds of all cases at every time of a run.
structure Sound (world : World) : Prop where
  rooted : world.host.files.Rooted
  held : ∀ {index : Nat} {entry : Entry} {base : BaseCase}, world.entries[index]? = some entry →
    entry.owner.base? = some base → base.scratch = entry.path ∧ base.debug = entry.keeps
  placed : ∀ {index : Nat} {entry : Entry}, world.entries[index]? = some entry →
    entry.place.isSome = entry.path.isSome
  stands : ∀ {index : Nat} {entry : Entry} {place : Location},
    world.entries[index]? = some entry → entry.place = some place →
    (world.Stands index ↔ entry.owner.base?.isSome = true ∨ entry.keeps = true)
  -- What goes with a case that is alive holds no directory of another one.
  apart : ∀ {index other : Nat} {place above : Location}, index ≠ other → world.Stands index →
    world.place? index = some place → world.Lives other → world.place? other = some above →
    ¬above <+: place

namespace Sound

variable {world : World} {index : Nat} {base : BaseCase} {owner : Owner} {later : Host}
  {event : Event}

theorem start {host : Host} (hrooted : host.files.Rooted) : Sound ⟨host, []⟩ where
  rooted := hrooted
  held hentry := by cases hentry
  placed hentry := by cases hentry
  stands hentry := by cases hentry
  apart _ _ hplace := by cases hplace

theorem stands_of_lives (hsound : world.Sound) (hlives : world.Lives index) {place : Location}
    (hplace : world.place? index = some place) : world.Stands index := by
  obtain ⟨entry, hentry, hat⟩ := exists_entry_of_place? hplace
  rw [hsound.stands hentry hat, ← base?_eq hentry]
  exact .inl hlives

theorem content?_of_lives (hsound : world.Sound) (hlives : world.Lives index) {place : Location}
    (hplace : world.place? index = some place) :
    world.host.files.content? place = some .directory :=
  (hsound.stands_of_lives hlives hplace).content? hplace

theorem held_of_base? (hsound : world.Sound) (hbase : world.base? index = some base)
    {entry : Entry} (hentry : world.entries[index]? = some entry) :
    base.scratch = entry.path ∧ base.debug = entry.keeps :=
  hsound.held hentry (by rw [← base?_eq hentry, hbase])

theorem calm (hsound : world.Sound) (hleaves : world.Leaves later) :
    Sound { world with host := later } := by
  have hstands (index : Nat) : Stands { world with host := later } index ↔ world.Stands index :=
    exists_congr fun place => and_congr_right fun hplace =>
      and_congr_left' (hleaves.2 index place hplace)
  exact {
    rooted := hleaves.1
    held := hsound.held
    placed := hsound.placed
    stands := fun hentry hplace => (hstands _).trans (hsound.stands hentry hplace)
    apart := fun hne hstanding => hsound.apart hne ((hstands _).mp hstanding) }

-- A base gets another owner, or none. Of the directories only its own may be gone then.
theorem pass (hsound : world.Sound) (hbase : world.base? index = some base)
    (howner : ∀ held, owner.base? = some held → held = base) (hrooted : later.files.Rooted)
    (hless : ∀ place, later.files.content? place = some .directory →
      world.host.files.content? place = some .directory)
    (hothers : ∀ other place, other ≠ index → world.Stands other →
      world.place? other = some place → later.files.content? place = some .directory)
    (hown : ∀ place, world.place? index = some place →
      (later.files.content? place = some .directory ↔
        owner.base?.isSome = true ∨ base.debug = true)) :
    (world.pass index owner later).Sound := by
  have hbefore (other : Nat) (hstands : (world.pass index owner later).Stands other) :
      world.Stands other := by
    obtain ⟨place, hplace, hdirectory, hlast⟩ := hstands
    simp only [place?_pass] at hplace hlast
    exact ⟨place, hplace, hless place hdirectory, hlast⟩
  have hafter (other : Nat) (hstands : world.Stands other) (hkept : ∀ place,
      world.place? other = some place → later.files.content? place = some .directory) :
      (world.pass index owner later).Stands other := by
    obtain ⟨place, hplace, -, hlast⟩ := hstands
    exact ⟨place, by rwa [place?_pass], hkept place hplace,
      fun next hnext => by rw [place?_pass]; exact hlast next hnext⟩
  have hlives (other : Nat) (hlives : (world.pass index owner later).Lives other) :
      world.Lives other := by
    by_cases hother : index = other
    · exact lives_of_base? (hother ▸ hbase)
    · rwa [Lives, base?_pass_of_ne hother] at hlives
  refine ⟨hrooted, ?held, ?placed, ?stands, ?apart⟩
  case held =>
    intro other entry held hentry hheld
    obtain ⟨rfl, before, hbefore, rfl⟩ | ⟨-, hentry⟩ := entry_pass hentry
    · rw [howner held hheld]
      exact (hsound.held_of_base? hbase hbefore :)
    · exact hsound.held hentry hheld
  case placed =>
    intro other entry hentry
    obtain ⟨-, before, hbefore, rfl⟩ | ⟨-, hentry⟩ := entry_pass hentry
    · exact (hsound.placed hbefore :)
    · exact hsound.placed hentry
  case stands =>
    intro other entry place hentry hplace
    obtain ⟨rfl, before, hbefore, rfl⟩ | ⟨hne, hentry⟩ := entry_pass hentry
    · have hat : world.place? other = some place := (place?_eq hbefore).trans hplace
      have hstood := hsound.stands_of_lives (lives_of_base? hbase) hat
      rw [← (hsound.held_of_base? hbase hbefore).2, ← hown place hat]
      constructor
      · intro hstands
        exact hstands.content? (by rwa [place?_pass])
      · intro hdirectory
        refine hafter other hstood fun place hplace => ?_
        rwa [← Option.some.inj (hat.symm.trans hplace)]
    · rw [← hsound.stands hentry hplace]
      exact ⟨hbefore other, fun hstands => hafter other hstands fun place hplace =>
        hothers other place hne hstands hplace⟩
  case apart =>
    intro one other place above hne hstands hplace hother habove
    rw [place?_pass] at hplace habove
    exact hsound.apart hne (hbefore one hstands) hplace (hlives other hother) habove

-- A new case. Its directory, if it has one, is new too and outside those of the others.
theorem enter (hsound : world.Sound) (hdebug : base.debug = world.host.environment.debugMode)
    (hrooted : later.files.Rooted)
    (hplaced : (Entry.ofBase base world.host later).place.isSome = base.scratch.isSome)
    (hfree : ∀ place, (Entry.ofBase base world.host later).place = some place →
      world.host.files.content? place = none)
    (hgrows : ∀ place, later.files.content? place = some .directory ↔
      world.host.files.content? place = some .directory ∨
        (Entry.ofBase base world.host later).place = some place)
    (houtside : ∀ index above place, world.Lives index → world.place? index = some above →
      (Entry.ofBase base world.host later).place = some place → above <+: place →
      above = place) :
    (world.enter base later).Sound := by
  have hnew {place : Location} {content : Content}
      (hplace : (Entry.ofBase base world.host later).place = some place)
      (hcontent : world.host.files.content? place = some content) : False := by
    rw [hfree place hplace] at hcontent
    cases hcontent
  -- The place is not that of a case that stands, so the new case takes none of the others' names.
  have hstands (index : Nat) (hne : index ≠ world.entries.length) :
      (world.enter base later).Stands index ↔ world.Stands index := by
    constructor
    · rintro ⟨place, hplace, hdirectory, hlast⟩
      rw [place?_enter, if_neg hne] at hplace
      have hnot := hlast world.entries.length (lt_length_of_place? hplace)
      rw [place?_enter, if_pos rfl] at hnot
      refine ⟨place, hplace, ((hgrows place).mp hdirectory).resolve_right hnot,
        fun next hnext hat => ?_⟩
      refine hlast next hnext ?_
      rwa [place?_enter, if_neg (Nat.ne_of_lt (lt_length_of_place? hat))]
    · rintro ⟨place, hplace, hdirectory, hlast⟩
      refine ⟨place, by rwa [place?_enter, if_neg hne], (hgrows place).mpr (.inl hdirectory),
        fun next hnext hat => ?_⟩
      rw [place?_enter] at hat
      split at hat
      · exact hnew hat hdirectory
      · exact hlast next hnext hat
  refine ⟨hrooted, ?held, ?placed, ?stands, ?apart⟩
  case held =>
    intro index entry held hentry hbase
    obtain ⟨-, rfl⟩ | ⟨-, hentry⟩ := entry_enter hentry
    · obtain rfl := Option.some.inj hbase
      exact ⟨rfl, hdebug⟩
    · exact hsound.held hentry hbase
  case placed =>
    intro index entry hentry
    obtain ⟨-, rfl⟩ | ⟨-, hentry⟩ := entry_enter hentry
    · exact hplaced
    · exact hsound.placed hentry
  case stands =>
    intro index entry place hentry hplace
    obtain ⟨rfl, rfl⟩ | ⟨hne, hentry⟩ := entry_enter hentry
    · refine iff_of_true ⟨place, ?_, (hgrows place).mpr (.inr hplace), fun next hnext hat => ?_⟩
        (.inl rfl)
      · rwa [place?_enter, if_pos rfl]
      · rw [place?_enter, if_neg (Nat.ne_of_gt hnext)] at hat
        exact Nat.lt_asymm hnext (lt_length_of_place? hat)
    · rw [hstands index hne, hsound.stands hentry hplace]
  case apart =>
    intro index other place above hne hstanding hplace hlives habove hbelow
    rw [place?_enter] at hplace habove
    -- Either directory may be the new one, which lies in none and holds none.
    split at hplace
    · rw [if_neg (by omega)] at habove
      rw [Lives, base?_enter_of_ne (by omega)] at hlives
      obtain rfl := houtside other above place hlives habove hplace hbelow
      exact hnew hplace (hsound.content?_of_lives hlives habove)
    · rw [hstands index ‹_›] at hstanding
      have hdirectory := hstanding.content? hplace
      split at habove
      · exact hsound.rooted.content?_ne_none_of_prefix hbelow (by simp [hdirectory])
          (hfree above habove)
      · rw [Lives, base?_enter_of_ne ‹_›] at hlives
        exact hsound.apart hne hstanding hplace hlives habove hbelow

-- A base that changes hands, or keeps its directory at its end, leaves all directories alone.
theorem pass_kept (hsound : world.Sound) (hbase : world.base? index = some base)
    (howner : ∀ held, owner.base? = some held → held = base)
    (hfiles : later.files = world.host.files)
    (hkept : ∀ place, world.place? index = some place →
      owner.base?.isSome = true ∨ base.debug = true) :
    (world.pass index owner later).Sound := by
  refine hsound.pass hbase howner (hfiles ▸ hsound.rooted) (by simp [hfiles]) ?_ ?_
  · intro other place _ hstands hplace
    rw [hfiles, hstands.content? hplace]
  · intro place hplace
    rw [hfiles, hsound.content?_of_lives (lives_of_base? hbase) hplace]
    exact iff_of_true rfl (hkept place hplace)

theorem pass_removed (hsound : world.Sound) (hbase : world.base? index = some base)
    (hdebug : base.debug = false) {place : Location} (hplace : world.place? index = some place)
    {now : Time} (hfiles : later.files = world.host.files.removeTree place now) :
    (world.pass index .nobody later).Sound := by
  refine hsound.pass hbase (by simp [Owner.base?]) ?_ ?_ ?_ ?_
  · rw [hfiles]
    exact hsound.rooted.removeTree place now
  · intro other hother
    rw [hfiles, FileStore.content?_removeTree] at hother
    split at hother
    · cases hother
    · exact hother
  · intro other below hne hstands hbelow
    have hapart := hsound.apart hne hstands hbelow (lives_of_base? hbase) hplace
    rw [hfiles, FileStore.content?_removeTree, if_neg hapart, hstands.content? hbelow]
  · intro other hother
    obtain rfl := Option.some.inj (hplace.symm.trans hother)
    rw [hfiles, FileStore.content?_removeTree, if_pos List.prefix_rfl]
    simp [Owner.base?, hdebug]

-- A base that is dropped takes its own directory with it, if it does not keep it.
theorem release (hsound : world.Sound) (hbase : world.base? index = some base)
    (hfinds : world.Finds index) {host : Host} (hfiles : host.files = world.host.files)
    (hdirectory : host.directory = world.host.directory) :
    (world.pass index .nobody (base.drop.run host).2).Sound := by
  by_cases hkeeps : base.scratch = none ∨ base.debug = true
  · refine hsound.pass_kept hbase (by simp [Owner.base?])
      ((BaseCase.files_drop_of_keeps hkeeps).trans hfiles) fun place hplace => ?_
    obtain ⟨entry, hentry, hat⟩ := exists_entry_of_place? hplace
    have hscratch : base.scratch ≠ none := by
      rw [(hsound.held_of_base? hbase hentry).1, ← Option.isSome_iff_ne_none,
        ← hsound.placed hentry, hat, Option.isSome_some]
    exact .inr (hkeeps.resolve_left hscratch)
  · obtain ⟨hscratch, hdebug⟩ := not_or.mp hkeeps
    rw [Bool.not_eq_true] at hdebug
    obtain ⟨path, hpath⟩ := Option.ne_none_iff_exists'.mp hscratch
    obtain ⟨place, hplace, hresolve⟩ := hfinds base path hbase hdebug hpath
    rw [← hfiles, ← hdirectory] at hresolve
    have hremove := BaseCase.files_drop_of_resolve hdebug hpath hresolve
    rw [hfiles] at hremove
    exact hsound.pass_removed hbase hdebug hplace hremove

theorem step_of_drop (hsound : world.Sound) (hallows : world.Allows event)
    (hbase : world.base? index = some base) {host : Host}
    (hfiles : host.files = world.host.files) (hdirectory : host.directory = world.host.directory)
    (hstep : world.step event = world.pass index .nobody (base.drop.run host).2) :
    (world.step event).Sound := by
  have hends : ¬(world.step event).Lives index := by
    rw [hstep, Lives, base?_pass_self hbase]
    exact Bool.false_ne_true
  rw [hstep]
  exact hsound.release hbase (hallows.finds index (lives_of_base? hbase) hends) hfiles hdirectory

theorem make {making : Making} (hsound : world.Sound) (hallows : world.Allows (.make making)) :
    (world.step (.make making)).Sound := by
  cases hmake : making.make.run.run world.host with
  | mk result later =>
      cases result with
      | error report =>
          rw [step, hmake]
          exact Making.make_error hmake ▸ hsound
      | ok base =>
          have hstep := step_make_ok hmake
          have houtside := hallows.outside
          simp only [hstep, place?_enter, if_true] at houtside
          rw [hstep]
          obtain ⟨hdebug, ⟨hscratch, hfiles⟩ | ⟨path, place, hsettles⟩⟩ := Making.make_ok hmake
          · have hplace : (Entry.ofBase base world.host later).place = none := by
              simp [Entry.ofBase, hscratch]
            exact hsound.enter hdebug (hfiles ▸ hsound.rooted) (by simp [hplace, hscratch])
              (by simp [hplace]) (by simp [hplace, hfiles]) houtside
          · have hplace := Entry.place_ofBase hsettles
            obtain ⟨parent, name, rfl, hparent⟩ :=
              FileStore.exists_parent_of_resolveName hsound.rooted hsettles.name hsettles.free
            refine hsound.enter hdebug ?_ (by simp [hplace, hsettles.scratch]) ?_ ?_ houtside
            · rw [hsettles.files]
              exact hsound.rooted.add hparent hsettles.free _ _
            · intro other hother
              rw [← Option.some.inj (hplace.symm.trans hother)]
              exact hsettles.free
            · intro other
              rw [hsettles.files, FileStore.content?_add, hplace, Option.some_inj]
              by_cases hother : other = parent ++ [name]
              · simp [hother]
              · simp [hother, Ne.symm hother]

theorem load {path : Path} (hsound : world.Sound) (hallows : world.Allows (.load index path)) :
    (world.step (.load index path)).Sound := by
  cases howner : world.owner? index with
  | none => rwa [step, howner]
  | some owner =>
      cases owner with
      | loaded _ | nobody => rwa [step, howner]
      | maker base =>
          have hbase := base?_eq_of_owner? howner rfl
          obtain ⟨records, hsays⟩ := MakefileCase.loadMakefile_says world.host path
          cases hload : (MakefileCase.loadMakefile path).run.run world.host with
          | mk result later =>
              obtain rfl : later = world.host.say records := by rw [← hsays, hload]
              cases result with
              | ok makefile =>
                  have hstep : world.step (.load index path) =
                      world.pass index (.loaded ⟨base, path, makefile⟩)
                        (world.host.say records) := by
                    simp only [step, howner, MakefileCase.run_load, hload]
                  rw [hstep]
                  exact hsound.pass_kept hbase (fun held hheld => (Option.some.inj hheld).symm) rfl
                    fun _ _ => .inl rfl
              | error report =>
                  refine hsound.step_of_drop hallows hbase
                    (world.host.files_say records) (world.host.directory_say records) ?_
                  simp only [step, howner, MakefileCase.run_load, hload]

theorem drop (hsound : world.Sound) (hallows : world.Allows (.drop index)) :
    (world.step (.drop index)).Sound := by
  cases howner : world.owner? index with
  | none => rwa [step, howner]
  | some owner =>
      cases owner with
      | nobody => rwa [step, howner]
      | maker base =>
          exact hsound.step_of_drop hallows (base?_eq_of_owner? howner rfl) rfl rfl
            (by rw [step, howner])
      | loaded case =>
          exact hsound.step_of_drop hallows (base?_eq_of_owner? howner rfl) rfl rfl
            (by rw [step, howner]; rfl)

theorem step (hsound : world.Sound) (hallows : world.Allows event) : (world.step event).Sound := by
  cases event with
  | make making => exact hsound.make hallows
  | load index path => exact hsound.load hallows
  | drop index => exact hsound.drop hallows
  | setDebug value => exact hsound.calm ⟨hsound.rooted, fun _ _ _ => Iff.rfl⟩
  | elsewhere later => exact hsound.calm (hallows.others later rfl)

theorem run {events : List Event} (hsound : world.Sound) (hevents : world.Orderly events) :
    (world.run events).Sound := by
  induction events generalizing world with
  | nil => exact hsound
  | cons event events ih => exact ih (hsound.step hevents.1) hevents.2

end Sound

-- A record stays as it is but for the owner, and nothing but what is done to a case ends it.
theorem entry_step {world : World} {index : Nat} {entry : Entry} (event : Event)
    (hentry : world.entries[index]? = some entry) :
    ∃ owner, (world.step event).entries[index]? = some { entry with owner } ∧
      (event.index? ≠ some index → owner = entry.owner) := by
  have hpass (other : Nat) (owner : Owner) (later : Host) :
      ∃ kept, (world.pass other owner later).entries[index]? = some { entry with owner := kept } ∧
        (some other ≠ some index → kept = entry.owner) := by
    rw [getElem?_pass, hentry]
    split
    · exact ⟨owner, rfl, fun hne => absurd (congrArg some ‹_›) hne⟩
    · exact ⟨entry.owner, rfl, fun _ => rfl⟩
  cases event with
  | make making =>
      rw [step]
      split
      · rw [getElem?_enter, if_neg (Nat.ne_of_lt (List.getElem?_eq_some_iff.mp hentry).1)]
        exact ⟨entry.owner, hentry, fun _ => rfl⟩
      · exact ⟨entry.owner, hentry, fun _ => rfl⟩
  | load other path =>
      rw [step]
      split
      · split
        · exact hpass other _ _
        · exact hpass other _ _
      · exact ⟨entry.owner, hentry, fun _ => rfl⟩
  | drop other =>
      rw [step]
      split
      · exact hpass other _ _
      · exact hpass other _ _
      · exact ⟨entry.owner, hentry, fun _ => rfl⟩
  | setDebug value => exact ⟨entry.owner, hentry, fun _ => rfl⟩
  | elsewhere later => exact ⟨entry.owner, hentry, fun _ => rfl⟩

section Allowed

variable {world : World} {index : Nat} {event : Event}

-- What ends a case has to find its directory. Nothing else is asked of it.
theorem Allows.of_finds (hlength : (world.step event).entries.length = world.entries.length)
    (hothers : ∀ later, event ≠ .elsewhere later)
    (hfinds : ∀ index, event.index? = some index → world.Finds index) : world.Allows event where
  outside _ _ _ _ _ hplace := by
    rw [place?, List.getElem?_eq_none (by omega)] at hplace
    cases hplace
  finds index hlives hends := by
    obtain ⟨base, hbase⟩ := lives_iff.mp hlives
    obtain ⟨entry, hentry, -⟩ := exists_entry_of_base? hbase
    obtain ⟨owner, hkept, howner⟩ := entry_step event hentry
    by_contra hnot
    have hsame := howner fun hindex => hnot (hfinds index hindex)
    exact hends (by rwa [Lives, base?_eq hkept, hsame, ← base?_eq hentry])
  others later hlater := absurd hlater (hothers later)

theorem allows_make_first (host : Host) (making : Making) : Allows ⟨host, []⟩ (.make making) where
  outside _ _ _ hlives := by cases hlives
  finds _ hlives := by cases hlives
  others _ hlater := by cases hlater

theorem allows_setDebug (world : World) (value : Option (List UInt8)) :
    world.Allows (.setDebug value) :=
  .of_finds rfl (by simp) (by simp [Event.index?])

theorem allows_load (hfinds : world.Finds index) (path : Path) :
    world.Allows (.load index path) := by
  refine .of_finds ?_ (by simp) (by simpa [Event.index?] using hfinds)
  rw [step]
  split
  · split <;> simp [pass]
  · rfl

end Allowed

-- The life of a scratch directory. It is there as long as its case is alive, and after that if and
-- only if debug mode was asked for when the case was made. What is done to other cases leaves the
-- directory of a case that is alive where it is.
theorem scratch_life {host : Host} (hrooted : host.files.Rooted) {events : List Event}
    (hevents : Orderly ⟨host, []⟩ events) :
    let world := run ⟨host, []⟩ events
    ∀ index entry, world.entries[index]? = some entry → entry.path.isSome = true →
      (world.Lives index → world.Stands index) ∧
      (¬world.Lives index → (world.Stands index ↔ entry.keeps = true)) ∧
      ∀ event, world.Allows event → world.Lives index → event.index? ≠ some index →
        (world.step event).Lives index ∧ (world.step event).Stands index := by
  intro world index entry hentry hpath
  have hsound : world.Sound := (Sound.start hrooted).run hevents
  rw [← hsound.placed hentry] at hpath
  obtain ⟨place, hplace⟩ := Option.isSome_iff_exists.mp hpath
  have hstands := hsound.stands hentry hplace
  rw [← base?_eq hentry] at hstands
  refine ⟨fun hlives => hstands.mpr (.inl hlives),
    fun hends => hstands.trans (or_iff_right hends), fun event hallows hlives hother => ?_⟩
  obtain ⟨owner, hkept, howner⟩ := entry_step event hentry
  have hlater : (world.step event).Lives index := by
    rwa [Lives, base?_eq hkept, howner hother, ← base?_eq hentry]
  exact ⟨hlater, (hsound.step hallows).stands_of_lives hlater ((place?_eq hkept).trans hplace)⟩

-- A case that is made without debug mode and lost by a load of a file that is not there: what is
-- asked for in between does not keep its directory.
theorem scratch_life_failed_load :
    let made := run ⟨Host.bare, []⟩ [.make .withScratch]
    let ended := run ⟨Host.bare, []⟩
      [.make .withScratch, .setDebug (some [49]), .load 0 ⟨"Makefile"⟩]
    made.Stands 0 ∧ ¬ended.Stands 0 := by
  obtain ⟨base, later, hmake, hdebug, hsettles⟩ := Host.exists_made_bare
  let entry := Entry.ofBase base Host.bare later
  let host := { later with environment := later.environment.set "DEBUG" [49] }
  have hmade : step ⟨Host.bare, []⟩ (.make .withScratch) = ⟨later, [entry]⟩ := by
    exact step_make_ok (by rw [Making.make, BaseCase.withScratch, hmake])
  have hset : step ⟨later, [entry]⟩ (.setDebug (some [49])) = ⟨host, [entry]⟩ := rfl
  have hload : step ⟨host, [entry]⟩ (.load 0 ⟨"Makefile"⟩) =
      pass ⟨host, [entry]⟩ 0 .nobody (base.drop.run host).2 := by
    have howner : owner? ⟨host, [entry]⟩ 0 = some (.maker base) := rfl
    have hmissing : host.files.has host.directory ⟨"Makefile"⟩ = false :=
      (Host.has_makefile_bare hsettles :)
    simp only [step, howner, MakefileCase.run_load, MakefileCase.loadMakefile_of_missing hmissing]
  have hfinds : Finds ⟨host, [entry]⟩ 0 := by
    intro held path hheld _ hpath
    obtain rfl := Option.some.inj hheld
    obtain rfl := Option.some.inj (hsettles.scratch.symm.trans hpath)
    exact ⟨_, Entry.place_ofBase hsettles, hsettles.leads⟩
  have hpath : entry.path.isSome = true := Option.isSome_iff_exists.mpr ⟨_, hsettles.scratch⟩
  have hallows := allows_make_first Host.bare .withScratch
  constructor
  · have horderly : Orderly ⟨Host.bare, []⟩ [.make .withScratch] := ⟨hallows, trivial⟩
    have hlife := scratch_life Host.rooted_bare horderly
    rw [run_cons, hmade, run_nil] at hlife ⊢
    exact (hlife 0 entry rfl hpath).1 rfl
  · have horderly : Orderly ⟨Host.bare, []⟩
        [.make .withScratch, .setDebug (some [49]), .load 0 ⟨"Makefile"⟩] := by
      refine ⟨hallows, allows_setDebug _ _, ?_, trivial⟩
      rw [hmade, hset]
      exact allows_load hfinds _
    have hlife := scratch_life Host.rooted_bare horderly
    rw [run_cons, hmade, run_cons, hset, run_cons, hload, run_nil] at hlife ⊢
    have hended := (hlife 0 { entry with owner := .nobody } rfl hpath).2.1 Bool.false_ne_true
    exact fun hstands => Bool.false_ne_true (hended.mp hstands)

end MakeCheck.World
