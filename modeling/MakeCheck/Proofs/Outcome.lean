import MakeCheck.Proofs.Course

namespace MakeCheck

open Text

namespace Command

-- The bytes that came through the pipe to its end.
def Reading.bytes? : Reading → Option (List UInt8)
  | bytes written => some written
  | failed _ | gone => none

namespace Answers

variable {answers : Answers} {limit : Option Duration} {due : Option (Instant × Duration)}
  {ending : Ending} {command : String}

-- What the wait for the output gave.
def written (answers : Answers) : Option Duration → Option (List UInt8)
  | none => answers.receive.bytes?
  | some _ => answers.receiveUntil.bind Reading.bytes?

-- A system that may refuse to start a program, but no wait and no read once a child runs. Both waits
-- may still run out.
structure Serves (answers : Answers) (limit : Option Duration) : Prop where
  reader : answers.startReader = .ok ()
  clock : ∀ bound, limit = some bound → answers.now.add? bound ≠ none
  waitWithin : ∃ exit, answers.waitWithin = .ok exit
  wait : ∃ status, answers.wait = .ok status
  receiveUntil : ∀ reading, answers.receiveUntil = some reading →
    ∃ written, reading = .bytes written
  receive : ∃ written, answers.receive = .bytes written

-- How the two waits for a child come out.
inductive Ends (answers : Answers) (limit : Option Duration) : Ending → Prop where
  | finished {status : Status} {written : List UInt8} (hexit : answers.exit limit = some status)
      (hclosed : answers.expires limit = false) (hwritten : answers.written limit = some written) :
      Ends answers limit (.finished status written)
  | stillRunning {bound : Duration} (hlimit : limit = some bound)
      (hexit : answers.exit limit = none) : Ends answers limit (.stillRunning bound)
  | pipeOpen {bound : Duration} {status : Status} (hlimit : limit = some bound)
      (hexit : answers.exit limit = some status) (hopen : answers.expires limit = true) :
      Ends answers limit (.pipeOpen bound)

theorem Serves.exists_deadline (hserves : answers.Serves limit) :
    ∃ due, deadline answers.now limit = .ok due := by
  cases hdue : deadline answers.now limit with
  | ok due => exact ⟨due, rfl⟩
  | error crash =>
      cases crash
      obtain ⟨bound, hlimit, hbeyond⟩ := deadline_eq_error_iff.mp hdue
      exact absurd hbeyond (hserves.clock bound hlimit)

theorem Serves.exists_ends_of_exit {status : Status} (hserves : answers.Serves limit)
    (hdue : deadline answers.now limit = .ok due) (hexit : answers.exit limit = some status)
    (command : String) :
    ∃ ending, answers.Ends limit ending ∧
      (collectOutput command answers status due).result = .ok (collect command ending).1 := by
  cases limit with
  | none =>
      obtain rfl := Except.ok.inj hdue
      obtain ⟨written, hreceive⟩ := hserves.receive
      have hwritten : answers.written none = some written := by
        rw [Answers.written, hreceive, Reading.bytes?]
      refine ⟨_, .finished hexit rfl hwritten, ?_⟩
      simp only [collectOutput, hreceive]
      rfl
  | some bound =>
      obtain ⟨instant, rfl⟩ := exists_of_deadline hdue
      simp only [collectOutput, Course.result_after]
      cases hreceive : answers.receiveUntil with
      | none => exact ⟨_, .pipeOpen rfl hexit (by simp [expires, hreceive]), rfl⟩
      | some reading =>
          obtain ⟨written, rfl⟩ := hserves.receiveUntil reading hreceive
          have hwritten : answers.written (some bound) = some written := by
            rw [Answers.written, hreceive, Option.bind_some, Reading.bytes?]
          exact ⟨_, .finished hexit (by simp [expires, hreceive]) hwritten, rfl⟩

-- Either both waits give what they are for, or the limit ran out on one of them.
theorem Serves.exists_ends (hserves : answers.Serves limit)
    (hdue : deadline answers.now limit = .ok due) (command : String) :
    ∃ ending, answers.Ends limit ending ∧
      (await command answers limit due).result = .ok (collect command ending).1 := by
  cases limit with
  | none =>
      obtain ⟨status, hwait⟩ := hserves.wait
      simp only [await, Course.result_after, hwait]
      have hexit : answers.exit none = some status := by
        rw [exit, hwait, Except.toOption]
      exact hserves.exists_ends_of_exit hdue hexit command
  | some bound =>
      obtain ⟨exit, hwait⟩ := hserves.waitWithin
      simp only [await, Course.result_after, hwait]
      cases exit with
      | some status =>
          have hexit : answers.exit (some bound) = some status := by
            rw [Answers.exit, hwait, Except.toOption, Option.join_some]
          exact hserves.exists_ends_of_exit hdue hexit command
      | none =>
          have hexit : answers.exit (some bound) = none := by
            rw [Answers.exit, hwait, Except.toOption, Option.join_some]
          exact ⟨_, .stillRunning rfl hexit, rfl⟩

end Answers

-- What becomes of a command, told by what the system answered.
structure Outcome (arguments : List String) (limit : Option Duration) (answers : Answers)
    (result : CommandResult) : Prop where
  command : result.command = " ".intercalate arguments
  success : result.success = true ↔ arguments ≠ [] ∧ answers.start = .ok () ∧
    answers.exit limit = some (.exited 0) ∧ answers.expires limit = false
  nothing : arguments = [] → result.output = "No command was given."
  refused : ∀ program rest refusal, arguments = program :: rest →
    answers.start = .error refusal →
      result.output = "Failed to start '" ++ program ++ "': " ++ refusal.text
  -- None of the output is shown, even if the child went well.
  expired : arguments ≠ [] → answers.start = .ok () →
    answers.exit limit = none ∨ answers.expires limit = true →
      result.success = false ∧ ∃ bound, limit = some bound ∧
        result.output = "Command '" ++ " ".intercalate arguments ++ "' timed out after " ++
          bound.seconds.text ++ " seconds."
  finished : arguments ≠ [] → answers.start = .ok () →
    answers.exit limit ≠ none → answers.expires limit = false →
      ∃ written, answers.written limit = some written ∧ result.output = Utf8.decodeLossy written

section Outcome

variable {arguments : List String} {limit : Option Duration} {answers : Answers}

theorem outcome_nil (limit : Option Duration) (answers : Answers) :
    Outcome [] limit answers (failed "" "No command was given.") where
  command := rfl
  success := by simp [failed]
  nothing := fun _ => rfl
  refused := by simp
  expired := by simp
  finished := by simp

theorem outcome_refused {refusal : Refusal} (program : String) (rest : List String)
    (limit : Option Duration) (hstart : answers.start = .error refusal) :
    Outcome (program :: rest) limit answers (failed (" ".intercalate (program :: rest))
      ("Failed to start '" ++ program ++ "': " ++ refusal.text)) where
  command := rfl
  success := by simp [failed, hstart]
  nothing := by simp
  refused := by
    rintro _ _ _ hsame hrefused
    obtain ⟨rfl, -⟩ := List.cons.inj hsame
    obtain rfl := Except.error.inj (hstart.symm.trans hrefused)
    rfl
  expired := by simp [hstart]
  finished := by simp [hstart]

-- A limit that runs out on either wait makes the same of the command.
theorem outcome_of_expired {bound : Duration} (harguments : arguments ≠ [])
    (hstart : answers.start = .ok ()) (hlimit : limit = some bound)
    (hexpired : answers.exit limit = none ∨ answers.expires limit = true) :
    Outcome arguments limit answers (timedOut (" ".intercalate arguments) bound) where
  command := rfl
  success := by
    refine iff_of_false (by simp [timedOut, failed]) ?_
    rintro ⟨-, -, hexit, hclosed⟩
    simp [hexit, hclosed] at hexpired
  nothing := fun hnil => absurd hnil harguments
  refused := by simp [hstart]
  expired := fun _ _ _ => ⟨rfl, bound, hlimit, rfl⟩
  finished := by
    rintro - - hexit hclosed
    simp [hexit, hclosed] at hexpired

theorem outcome_of_ends {ending : Ending} (harguments : arguments ≠ [])
    (hstart : answers.start = .ok ()) (hends : answers.Ends limit ending) :
    Outcome arguments limit answers (collect (" ".intercalate arguments) ending).1 := by
  cases hends with
  | stillRunning hlimit hexit =>
      exact outcome_of_expired harguments hstart hlimit (.inl hexit)
  | pipeOpen hlimit _ hopen =>
      exact outcome_of_expired harguments hstart hlimit (.inr hopen)
  | @finished status written hexit hclosed hwritten =>
      exact
        { command := rfl
          success := by simp [collect, harguments, hstart, hexit, hclosed, Status.success]
          nothing := fun hnil => absurd hnil harguments
          refused := by simp [hstart]
          expired := by simp [hexit, hclosed]
          finished := fun _ _ _ _ => ⟨written, hwritten, rfl⟩ }

-- A command has an outcome whatever becomes of it.
theorem exists_outcome (arguments : List String) (directory : Option Path)
    (hserves : answers.Serves limit) :
    ∃ result, (conduct arguments directory limit answers).result = .ok result ∧
      Outcome arguments limit answers result := by
  cases arguments with
  | nil => exact ⟨_, rfl, outcome_nil limit answers⟩
  | cons program rest =>
      cases hstart : answers.start with
      | error refusal =>
          refine ⟨_, ?_, outcome_refused program rest limit hstart⟩
          simp only [conduct, hstart, Course.result_after, Course.result_ends]
      | ok started =>
          obtain ⟨due, hdue⟩ := hserves.exists_deadline
          obtain ⟨ending, hends, hresult⟩ :=
            hserves.exists_ends hdue (" ".intercalate (program :: rest))
          rw [conduct_of_start directory limit hstart,
            attend_of_deadline _ hserves.reader hdue]
          exact ⟨_, hresult, outcome_of_ends (List.cons_ne_nil program rest) hstart hends⟩

end Outcome

section Attempt

variable {arguments : List String} {limit : Option Duration} {clock : Instant} {now : Nat}

theorem serves_ofChild (hholds : limit.all (clockHolds now) = true)
    (hclock : clock.toNanos = now) (child : Child) :
    (Answers.ofChild clock limit child).Serves limit where
  reader := rfl
  clock := by
    rintro bound rfl
    rw [Option.all_some, clockHolds_eq_isSome hclock] at hholds
    exact Option.isSome_iff_ne_none.mp hholds
  waitWithin := ⟨_, rfl⟩
  wait := ⟨_, rfl⟩
  receiveUntil := by
    intro reading hreading
    obtain ⟨written, -, rfl⟩ := Option.map_eq_some_iff.mp hreading
    exact ⟨written, rfl⟩
  receive := ⟨_, rfl⟩

theorem serves_ofAttempt (hholds : limit.all (clockHolds now) = true)
    (hclock : clock.toNanos = now) (attempt : Except Fault Child) :
    (Answers.ofAttempt clock limit attempt).Serves limit := by
  cases attempt with
  | ok child => exact serves_ofChild hholds hclock child
  | error fault =>
      obtain ⟨hreader, hbounds, hwaitWithin, hwait, hreceiveUntil, hreceive⟩ :=
        serves_ofChild hholds hclock ⟨.exited 0, 0, [], 0⟩
      exact ⟨hreader, hbounds, hwaitWithin, hwait, hreceiveUntil, hreceive⟩

theorem exists_outcome_run (arguments : List String) (directory : Option Path)
    (attempt : Except Fault Child) (hholds : limit.all (clockHolds now) = true)
    (hclock : clock.toNanos = now) :
    ∃ result, (run arguments directory limit now attempt).1 = .ok result ∧
      Outcome arguments limit (.ofAttempt clock limit attempt) result := by
  obtain ⟨result, hresult, houtcome⟩ :=
    exists_outcome arguments directory (serves_ofAttempt hholds hclock attempt)
  refine ⟨result, ?_, houtcome⟩
  have hrun : (run arguments directory limit now attempt).1.mapError Abort.crash = .ok result :=
    (run_eq_conduct arguments directory attempt hclock).1.trans hresult
  cases hgiven : (run arguments directory limit now attempt).1 with
  | ok given =>
      rw [hgiven] at hrun
      exact congrArg Except.ok (Except.ok.inj hrun)
  | error crash =>
      rw [hgiven] at hrun
      cases hrun

end Attempt

-- A command ends well only if it was started, ended in time with nothing left that could still
-- write, and said so. A limit that runs out leaves a message and nothing else, and all other output
-- is there to its last byte. The same goes for a call of make on targets, and for both on a host.
theorem outcome_of_conduct (arguments : List String) (directory : Option Path)
    (limit : Option Duration) (answers : Answers) (invocation : Invocation)
    (targets : List String) :
    (answers.Serves limit →
      ∃ result, (conduct arguments directory limit answers).result = .ok result ∧
        Outcome arguments limit answers result) ∧
    (answers.Serves invocation.limit →
      ∃ result, (invocation.conduct targets answers).result = .ok result ∧
        Outcome (invocation.make :: "-f" :: invocation.makefileName :: targets) invocation.limit
          answers result) ∧
    (∀ (clock : Instant) (now : Nat) (attempt : Except Fault Child), clock.toNanos = now →
      limit.all (clockHolds now) = true →
      ∃ result, (run arguments directory limit now attempt).1 = .ok result ∧
        Outcome arguments limit (.ofAttempt clock limit attempt) result) ∧
    ∀ (clock : Instant) (host : Host), clock.toNanos = host.uptime →
      invocation.limit.all (clockHolds host.uptime) = true →
      ∃ result later, (invocation.run targets).run.run host = (.ok result, later) ∧
        Outcome (invocation.make :: "-f" :: invocation.makefileName :: targets) invocation.limit
          (.ofAttempt clock invocation.limit
            (host.attempt (invocation.make :: "-f" :: invocation.makefileName :: targets)
              invocation.directory invocation.limit).1) result := by
  refine ⟨exists_outcome arguments directory,
    exists_outcome (invocation.arguments targets) invocation.directory,
    fun clock now attempt hclock hholds => exists_outcome_run _ _ attempt hholds hclock,
    fun clock host hclock hholds => ?_⟩
  obtain ⟨result, hresult, houtcome⟩ := exists_outcome_run (invocation.arguments targets)
    invocation.directory (host.attempt (invocation.arguments targets) invocation.directory
      invocation.limit).1 hholds hclock
  rw [← Invocation.run_run] at hresult
  exact ⟨result, _, Prod.ext hresult rfl, houtcome⟩

section Example

-- A child that goes well once it is started, and leaves something behind that keeps the pipe open
-- for longer than any limit. What comes through it in the end is two letters.
def Answers.background (start : Except Refusal Unit) (now : Instant) : Answers where
  start := start
  startReader := .ok ()
  now := now
  waitWithin := .ok (some (.exited 0))
  wait := .ok (.exited 0)
  kill := .ok ()
  receiveUntil := none
  receive := .bytes [104, 105]

theorem Answers.serves_background {limit : Option Duration} (start : Except Refusal Unit)
    {now : Instant} (hclock : ∀ bound, limit = some bound → now.add? bound ≠ none) :
    (background start now).Serves limit :=
  ⟨rfl, hclock, ⟨_, rfl⟩, ⟨_, rfl⟩, nofun, ⟨_, rfl⟩⟩

-- A limit of one second runs out on the pipe, and without it all is well. A list of arguments that
-- is too long is refused in the words of the system.
theorem outcome_of_conduct_background :
    let clock : Instant := ⟨0, 0, by decide, by decide, by decide⟩
    let second : Duration := ⟨1, 0, by decide, by decide⟩
    let refusal : Refusal := ⟨"Argument list too long (os error 7)", false⟩
    (∃ result, (conduct ["make", "all"] none (some second) (.background (.ok ()) clock)).result =
        .ok result ∧ result.success = false ∧
      result.output =
        "Command 'make all' timed out after " ++ second.seconds.text ++ " seconds.") ∧
    (∃ result, (conduct ["make", "all"] none none (.background (.ok ()) clock)).result =
        .ok result ∧ result.success = true ∧ result.output = "hi") ∧
    (∃ result, (Invocation.default.conduct ["all"] (.background (.error refusal) clock)).result =
        .ok result ∧ result.command = "make -f answer.mk all" ∧ result.success = false ∧
      result.output = "Failed to start 'make': Argument list too long (os error 7)") ∧
    ∃ result later, (Invocation.default.run ["all"]).run.run Host.bare = (.ok result, later) ∧
      result.command = "make -f answer.mk all" := by
  intro clock second refusal
  obtain ⟨hlate, -⟩ := outcome_of_conduct ["make", "all"] none (some second)
    (.background (.ok ()) clock) .default ["all"]
  obtain ⟨hfree, -⟩ := outcome_of_conduct ["make", "all"] none none
    (.background (.ok ()) clock) .default ["all"]
  obtain ⟨-, hrefused, -, hhost⟩ := outcome_of_conduct ["make", "all"] none none
    (.background (.error refusal) clock) .default ["all"]
  refine ⟨?_, ?_, ?_, ?_⟩
  · obtain ⟨result, hresult, houtcome⟩ := hlate (Answers.serves_background (.ok ()) (by decide))
    obtain ⟨hfailed, bound, hbound, hmessage⟩ := houtcome.expired (by decide) rfl (.inr rfl)
    obtain rfl := Option.some.inj hbound
    exact ⟨result, hresult, hfailed, hmessage⟩
  · obtain ⟨result, hresult, houtcome⟩ := hfree (Answers.serves_background (.ok ()) (by decide))
    obtain ⟨written, hwritten, houtput⟩ := houtcome.finished (by decide) rfl (by decide) rfl
    obtain rfl := Option.some.inj hwritten
    exact ⟨result, hresult, houtcome.success.mpr ⟨by decide, rfl, rfl, rfl⟩,
      houtput.trans (by decide)⟩
  · obtain ⟨result, hresult, houtcome⟩ :=
      hrefused (Answers.serves_background (.error refusal) (by decide))
    have hfailed : result.success ≠ true := by
      rw [ne_eq, houtcome.success]
      exact fun hall => nomatch hall.2.1
    exact ⟨result, hresult, houtcome.command.trans (by decide), Bool.not_eq_true _ ▸ hfailed,
      houtcome.refused _ _ _ rfl rfl⟩
  · obtain ⟨result, later, hresult, houtcome⟩ := hhost clock .bare rfl (by decide)
    exact ⟨result, later, hresult, houtcome.command.trans (by decide)⟩

end Example

end Command

end MakeCheck
