import MakeCheck.Command.Course
import MakeCheck.Host.Commands
import MakeCheck.Proofs.Case.Scratch

namespace MakeCheck

namespace Instant

variable {instant later : Instant} {span : Duration}

-- The two additions together fail exactly where the sum of all is beyond the last second.
theorem add?_eq_none_iff (instant : Instant) (span : Duration) : instant.add? span = none ↔
    9223372036854775808 * 1000000000 ≤ instant.toNanos + span.toNanos := by
  have hnanos := instant.nanos_lt
  have hspan := span.nanos_lt
  simp only [add?, toNanos, Duration.toNanos]
  split_ifs <;> simp <;> omega

theorem toNanos_of_add? (hadd : instant.add? span = some later) :
    later.toNanos = instant.toNanos + span.toNanos := by
  rw [add?] at hadd
  split_ifs at hadd <;> obtain rfl := Option.some.inj hadd <;>
    simp only [toNanos, Duration.toNanos] <;> omega

end Instant

namespace Child

theorem exitWithin_some (child : Child) (bound : Duration) : child.exitWithin (some bound) =
    if bound.toNanos < child.exitsAfter then none else some child.status := by
  rw [exitWithin]
  by_cases hlate : bound.toNanos < child.exitsAfter
  · simp [hlate]
  · simp [hlate, Nat.le_of_not_lt hlate]

theorem outputWithin_some (child : Child) (bound : Duration) : child.outputWithin (some bound) =
    if bound.toNanos < child.closesAfter then none else some child.written := by
  rw [outputWithin]
  by_cases hlate : bound.toNanos < child.closesAfter
  · simp [hlate]
  · simp [hlate, Nat.le_of_not_lt hlate]

end Child

namespace Command

-- A count of nanoseconds fits the clock where the point on it can be had.
theorem clockHolds_eq_isSome {clock : Instant} {now : Nat} (hclock : clock.toNanos = now)
    (bound : Duration) : clockHolds now bound = (clock.add? bound).isSome := by
  have hnone := clock.add?_eq_none_iff bound
  have hpow : Nat.pow 2 63 = 9223372036854775808 := by decide
  rw [clockHolds, hpow, Bool.eq_iff_iff, decide_eq_true_iff, ← Option.ne_none_iff_isSome, ne_eq,
    hnone, hclock, Nat.div_lt_iff_lt_mul (by decide)]
  omega

-- Steps that stop the child or wait for it.
def Step.minds : Step → Bool
  | waitWithin _ _ | wait _ | kill _ => true
  | _ => false

namespace Course

variable {course : Course} {step : Step} {records : List Record}

@[simp] theorem result_ends (result : CommandResult) (records : List Record) :
    (ends result records).result = .ok result :=
  rfl

@[simp] theorem result_after : (course.after step records).result = course.result :=
  rfl

@[simp] theorem steps_ends (result : CommandResult) (records : List Record) :
    (ends result records).steps = [] :=
  rfl

@[simp] theorem steps_after : (course.after step records).steps = step :: course.steps :=
  rfl

-- A child was made.
def Starts (course : Course) : Prop :=
  .start (.ok ()) ∈ course.steps

-- Some wait gave the status of the child.
def Reaps (course : Course) : Prop :=
  (∃ status, .wait (.ok status) ∈ course.steps) ∨
    ∃ bound status, .waitWithin bound (.ok (some status)) ∈ course.steps

-- No child is left behind, unless the system itself refuses the last wait.
def Settles (course : Course) : Prop :=
  course.Reaps ∨ ∃ refusal, .wait (.error refusal) ∈ course.steps

theorem Settles.after (hsettles : course.Settles) : (course.after step records).Settles := by
  rcases hsettles with (⟨status, hwait⟩ | ⟨bound, status, hwait⟩) | ⟨refusal, hwait⟩
  · exact .inl (.inl ⟨status, List.mem_cons_of_mem _ hwait⟩)
  · exact .inl (.inr ⟨bound, status, List.mem_cons_of_mem _ hwait⟩)
  · exact .inr ⟨refusal, List.mem_cons_of_mem _ hwait⟩

-- A plain wait settles the matter either way.
theorem settles_after_wait (course : Course) (answer : Except Refusal Status)
    (records : List Record) : (course.after (.wait answer) records).Settles := by
  cases answer with
  | ok status => exact .inl (.inl ⟨status, List.mem_cons_self⟩)
  | error refusal => exact .inr ⟨refusal, List.mem_cons_self⟩

-- Where no step has to do with the child, nobody has waited for it.
theorem not_settles (hsteps : ∀ step ∈ course.steps, step.minds = false) : ¬course.Settles := by
  rintro ((⟨status, hwait⟩ | ⟨bound, status, hwait⟩) | ⟨refusal, hwait⟩) <;>
    cases hsteps _ hwait

end Course

namespace Answers

-- What the wait for the exit gave.
def exit (answers : Answers) : Option Duration → Option Status
  | none => answers.wait.toOption
  | some _ => answers.waitWithin.toOption.join

-- Whether the limit ran out on the output.
def expires (answers : Answers) (limit : Option Duration) : Bool :=
  limit.isSome && answers.receiveUntil.isNone

-- What leaves a child to itself: no thread for its output, or a limit that ends beyond the clock.
inductive Stops (answers : Answers) (limit : Option Duration) : Abort → Prop where
  | reader {shown : String} (hreader : answers.startReader = .error shown) :
      Stops answers limit (.readerRefused shown)
  | clock {bound : Duration} (hreader : answers.startReader = .ok ()) (hlimit : limit = some bound)
      (hbeyond : answers.now.add? bound = none) : Stops answers limit (.crash .clockOverflow)

end Answers

namespace Answers.Stops

variable {answers : Answers} {limit : Option Duration} {abort other : Abort}

theorem unique (hstops : answers.Stops limit abort) (hother : answers.Stops limit other) :
    abort = other := by
  cases hstops with
  | reader hreader =>
      cases hother with
      | reader hagain =>
          obtain rfl := Except.error.inj (hreader.symm.trans hagain)
          rfl
      | clock hagain => cases hreader.symm.trans hagain
  | clock hreader =>
      cases hother with
      | reader hagain => cases hreader.symm.trans hagain
      | clock => rfl

end Answers.Stops

section Await

variable {command : String} {answers : Answers} {limit : Option Duration}
  {due : Option (Instant × Duration)}

theorem deadline_eq_error_iff {now : Instant} : deadline now limit = .error .clockOverflow ↔
    ∃ bound, limit = some bound ∧ now.add? bound = none := by
  cases limit with
  | none => simp [deadline]
  | some bound =>
      simp only [deadline]
      cases hadd : now.add? bound <;> simp [hadd]

theorem exists_of_deadline {now : Instant} {bound : Duration}
    (hdue : deadline now (some bound) = .ok due) : ∃ instant, due = some (instant, bound) := by
  simp only [deadline] at hdue
  cases hadd : now.add? bound with
  | none => simp [hadd] at hdue
  | some instant => exact ⟨instant, by simpa [hadd, eq_comm] using hdue⟩

theorem Answers.Stops.attend_eq {abort : Abort} (hstops : answers.Stops limit abort)
    (command : String) : attend command answers limit =
      (Course.aborts abort).after (.startReader answers.startReader) [] := by
  cases hstops with
  | reader hreader => simp only [attend, hreader]
  | clock hreader hlimit hbeyond =>
      have hdue := deadline_eq_error_iff.mpr ⟨_, hlimit, hbeyond⟩
      simp only [attend, hreader, hdue]

theorem attend_of_deadline (command : String) (hreader : answers.startReader = .ok ())
    (hdue : deadline answers.now limit = .ok due) : attend command answers limit =
      (await command answers limit due).after (.startReader answers.startReader) [] := by
  simp only [attend, hreader, hdue]

theorem not_stops (hreader : answers.startReader = .ok ())
    (hdue : deadline answers.now limit = .ok due) {abort : Abort} :
    ¬answers.Stops limit abort := by
  rintro (hrefused | ⟨-, hlimit, hbeyond⟩)
  · cases hreader.symm.trans hrefused
  · cases hdue.symm.trans (deadline_eq_error_iff.mpr ⟨_, hlimit, hbeyond⟩)

-- The output has no say in how the child ended, but for one that does not come in time.
theorem exists_collectOutput (command : String) (status : Status)
    (hdue : deadline answers.now limit = .ok due) :
    ∃ result, (collectOutput command answers status due).result = .ok result ∧
      result.command = command ∧
      (result.success = true ↔ status = .exited 0 ∧ answers.expires limit = false) := by
  cases limit with
  | none =>
      obtain rfl := Except.ok.inj hdue
      exact ⟨_, rfl, rfl, by simp [Status.success, Answers.expires]⟩
  | some bound =>
      obtain ⟨instant, rfl⟩ := exists_of_deadline hdue
      simp only [collectOutput]
      cases hreceive : answers.receiveUntil with
      | some reading => exact ⟨_, rfl, rfl, by simp [Status.success, Answers.expires, hreceive]⟩
      | none => exact ⟨_, rfl, rfl, by simp [timedOut, failed, Answers.expires, hreceive]⟩

theorem exists_await (command : String) (hdue : deadline answers.now limit = .ok due) :
    ∃ result, (await command answers limit due).result = .ok result ∧ result.command = command ∧
      (result.success = true ↔
        answers.exit limit = some (.exited 0) ∧ answers.expires limit = false) := by
  cases limit with
  | none =>
      simp only [await, Course.result_after, Answers.exit]
      cases answers.wait with
      | ok status =>
          simpa [Except.toOption] using exists_collectOutput command status hdue
      | error refusal => exact ⟨_, rfl, rfl, by simp [refusedWait, failed, Except.toOption]⟩
  | some bound =>
      simp only [await, Course.result_after, Answers.exit]
      cases answers.waitWithin with
      | ok exit =>
          cases exit with
          | some status =>
              simpa [Except.toOption] using exists_collectOutput command status hdue
          | none => exact ⟨_, rfl, rfl, by simp [timedOut, failed, Except.toOption]⟩
      | error refusal => exact ⟨_, rfl, rfl, by simp [refusedWait, failed, Except.toOption]⟩

-- Whatever way the wait goes, it ends in a status or in a wait after a kill.
theorem settles_await : (await command answers limit due).Settles := by
  cases limit with
  | none => exact Course.settles_after_wait _ _ _
  | some bound =>
      simp only [await]
      cases hwait : answers.waitWithin with
      | ok exit =>
          cases exit with
          | some status => exact .inl (.inr ⟨bound, status, List.mem_cons_self⟩)
          | none => exact ((Course.settles_after_wait _ _ _).after).after
      | error refusal => exact ((Course.settles_after_wait _ _ _).after).after

end Await

-- What a course comes to, told by what the system answered.
structure Conducted (arguments : List String) (limit : Option Duration) (answers : Answers)
    (course : Course) : Prop where
  aborts : ∀ abort, course.result = .error abort ↔
    arguments ≠ [] ∧ answers.start = .ok () ∧ answers.Stops limit abort
  -- The child that runs then is neither killed nor waited for.
  abandons : ∀ abort, course.result = .error abort →
    course.Starts ∧ ∀ step ∈ course.steps, step.minds = false
  command : ∀ result, course.result = .ok result → result.command = " ".intercalate arguments
  success : ∀ result, course.result = .ok result → (result.success = true ↔ arguments ≠ [] ∧
    answers.start = .ok () ∧ answers.exit limit = some (.exited 0) ∧ answers.expires limit = false)
  settles : ∀ result, course.result = .ok result → course.Starts → course.Settles

section Conduct

variable {program : String} {rest : List String} {limit : Option Duration} {answers : Answers}

theorem conducted_nil (directory : Option Path) (limit : Option Duration) (answers : Answers) :
    Conducted [] limit answers (conduct [] directory limit answers) where
  aborts := by simp [conduct]
  abandons := by simp [conduct]
  command := by
    rintro _ hresult
    obtain rfl := Except.ok.inj hresult
    rfl
  success := by
    rintro _ hresult
    obtain rfl := Except.ok.inj hresult
    simp [failed]
  settles := by simp [conduct, Course.Starts]

theorem conducted_refused (directory : Option Path) {refusal : Refusal}
    (hstart : answers.start = .error refusal) :
    Conducted (program :: rest) limit answers
      (conduct (program :: rest) directory limit answers) where
  aborts := by simp [conduct, hstart]
  abandons := by simp [conduct, hstart]
  command := by
    rintro _ hresult
    simp only [conduct, hstart] at hresult
    obtain rfl := Except.ok.inj hresult
    rfl
  success := by
    rintro _ hresult
    simp only [conduct, hstart] at hresult
    obtain rfl := Except.ok.inj hresult
    simp [failed, hstart]
  settles := by simp [conduct, hstart, Course.Starts]

theorem conduct_of_start (directory : Option Path) (limit : Option Duration)
    (hstart : answers.start = .ok ()) :
    conduct (program :: rest) directory limit answers =
      (attend (" ".intercalate (program :: rest)) answers limit).after (.start (.ok ()))
        [spawning (" ".intercalate (program :: rest)) directory limit] := by
  simp only [conduct, hstart]

-- A child runs, and the call ends before anyone waits for it.
theorem conducted_aborted (directory : Option Path) {abort : Abort}
    (hstart : answers.start = .ok ()) (hstops : answers.Stops limit abort) :
    Conducted (program :: rest) limit answers
      (conduct (program :: rest) directory limit answers) := by
  rw [conduct_of_start directory limit hstart, hstops.attend_eq]
  constructor
  · intro other
    simp only [Course.result_after, Course.aborts, Except.error.injEq, hstart, true_and, ne_eq,
      reduceCtorEq, not_false_eq_true]
    exact ⟨fun hsame => hsame ▸ hstops, hstops.unique⟩
  · intro other hother
    refine ⟨List.mem_cons_self, ?_⟩
    simp [Course.aborts, Step.minds]
  all_goals simp [Course.aborts]

-- A child that is waited for gives a result.
theorem conducted_attended (directory : Option Path) (hstart : answers.start = .ok ())
    (hreader : answers.startReader = .ok ()) {due : Option (Instant × Duration)}
    (hdue : deadline answers.now limit = .ok due) :
    Conducted (program :: rest) limit answers
      (conduct (program :: rest) directory limit answers) := by
  obtain ⟨result, hresult, hcommand, hsuccess⟩ :=
    exists_await (" ".intercalate (program :: rest)) hdue
  rw [conduct_of_start directory limit hstart, attend_of_deadline _ hreader hdue]
  constructor
  · intro abort
    simp only [Course.result_after, hresult, reduceCtorEq, false_iff]
    exact fun hstops => not_stops hreader hdue hstops.2.2
  · simp [hresult]
  · intro other hother
    obtain rfl := Except.ok.inj (hresult.symm.trans hother)
    exact hcommand
  · intro other hother
    obtain rfl := Except.ok.inj (hresult.symm.trans hother)
    simp [hsuccess, hstart]
  · exact fun _ _ _ => settles_await.after.after

end Conduct

theorem conducted (arguments : List String) (directory : Option Path) (limit : Option Duration)
    (answers : Answers) :
    Conducted arguments limit answers (conduct arguments directory limit answers) := by
  cases arguments with
  | nil => exact conducted_nil directory limit answers
  | cons program rest =>
      cases hstart : answers.start with
      | error refusal => exact conducted_refused directory hstart
      | ok started =>
          cases hreader : answers.startReader with
          | error shown => exact conducted_aborted directory hstart (.reader hreader)
          | ok read =>
              cases hdue : deadline answers.now limit with
              | error crash =>
                  cases crash
                  obtain ⟨bound, hlimit, hbeyond⟩ := deadline_eq_error_iff.mp hdue
                  exact conducted_aborted directory hstart (.clock hreader hlimit hbeyond)
              | ok due => exact conducted_attended directory hstart hreader hdue

theorem Conducted.exists_ok {arguments : List String} {limit : Option Duration} {answers : Answers}
    {course : Course} (hconducted : Conducted arguments limit answers course)
    (hgoes : ∀ abort, ¬answers.Stops limit abort) : ∃ result, course.result = .ok result := by
  cases hresult : course.result with
  | ok result => exact ⟨result, rfl⟩
  | error abort => exact absurd ((hconducted.aborts abort).mp hresult).2.2 (hgoes abort)

section Host

variable {clock : Instant} {limit : Option Duration} {now : Nat}

theorem Answers.startReader_ofAttempt (clock : Instant) (limit : Option Duration)
    (attempt : Except Fault Child) : (ofAttempt clock limit attempt).startReader = .ok () := by
  cases attempt <;> rfl

theorem Answers.now_ofAttempt (clock : Instant) (limit : Option Duration)
    (attempt : Except Fault Child) : (ofAttempt clock limit attempt).now = clock := by
  cases attempt <;> rfl

theorem collect_eq_await (command : String) (child : Child)
    {due : Option (Instant × Duration)} (hdue : deadline clock limit = .ok due) :
    (await command (.ofChild clock limit child) limit due).result =
        .ok (collect command (child.ending limit)).1 ∧
      (await command (.ofChild clock limit child) limit due).records =
        (collect command (child.ending limit)).2 := by
  cases limit with
  | none =>
      obtain rfl := Except.ok.inj hdue
      exact ⟨rfl, rfl⟩
  | some bound =>
      obtain ⟨instant, rfl⟩ := exists_of_deadline hdue
      rw [Child.ending]
      simp only [await, Answers.ofChild, Child.exitWithin_some, Child.outputWithin_some]
      by_cases hexits : bound.toNanos < child.exitsAfter
      · simp only [if_pos hexits]
        exact ⟨rfl, rfl⟩
      · simp only [if_neg hexits, collectOutput]
        by_cases hcloses : bound.toNanos < child.closesAfter
        · simp only [if_pos hcloses]
          exact ⟨rfl, rfl⟩
        · simp only [if_neg hcloses]
          exact ⟨rfl, rfl⟩

theorem all_clockHolds_eq (hclock : clock.toNanos = now) (limit : Option Duration) :
    limit.all (clockHolds now) = (deadline clock limit).toOption.isSome := by
  cases limit with
  | none => rfl
  | some bound =>
      rw [Option.all_some, clockHolds_eq_isSome hclock, deadline]
      cases clock.add? bound <;> rfl

theorem run_of_child {program : String} {rest : List String} (directory : Option Path)
    (child : Child) : run (program :: rest) directory limit now (.ok child) =
      if limit.all (clockHolds now) then
        (.ok (collect (" ".intercalate (program :: rest)) (child.ending limit)).1,
          spawning (" ".intercalate (program :: rest)) directory limit ::
            (collect (" ".intercalate (program :: rest)) (child.ending limit)).2)
      else (.error .clockOverflow, [spawning (" ".intercalate (program :: rest)) directory limit]) :=
  rfl

-- The steps, taken one by one, come to what is made of the child as a whole.
theorem run_eq_conduct (arguments : List String) (directory : Option Path)
    (attempt : Except Fault Child) (hclock : clock.toNanos = now) :
    (run arguments directory limit now attempt).1.mapError .crash =
        (conduct arguments directory limit (.ofAttempt clock limit attempt)).result ∧
      (run arguments directory limit now attempt).2 =
        (conduct arguments directory limit (.ofAttempt clock limit attempt)).records := by
  cases arguments with
  | nil => exact ⟨rfl, rfl⟩
  | cons program rest =>
      cases attempt with
      | error fault => exact ⟨rfl, rfl⟩
      | ok child =>
          have hstart : (Answers.ofAttempt clock limit (.ok child)).start = .ok () := rfl
          rw [run_of_child, all_clockHolds_eq hclock, conduct_of_start directory limit hstart]
          cases hdue : deadline clock limit with
          | error crash =>
              cases crash
              obtain ⟨bound, hlimit, hbeyond⟩ := deadline_eq_error_iff.mp hdue
              have hstops : (Answers.ofAttempt clock limit (.ok child)).Stops limit
                  (.crash .clockOverflow) := .clock rfl hlimit hbeyond
              rw [hstops.attend_eq]
              exact ⟨rfl, rfl⟩
          | ok due =>
              obtain ⟨hresult, hrecords⟩ :=
                collect_eq_await (" ".intercalate (program :: rest)) child hdue
              have hdue' : deadline (Answers.ofAttempt clock limit (.ok child)).now limit =
                .ok due := hdue
              rw [attend_of_deadline _ rfl hdue']
              exact ⟨hresult.symm, congrArg (spawning _ directory limit :: ·) hrecords.symm⟩

end Host

end Command

theorem Invocation.conducted (invocation : Invocation) (targets : List String)
    (answers : Command.Answers) :
    Command.Conducted (invocation.make :: "-f" :: invocation.makefileName :: targets)
      invocation.limit answers (invocation.conduct targets answers) :=
  have hconducted := Command.conducted (invocation.arguments targets) invocation.directory
    invocation.limit answers
  ⟨hconducted.aborts, hconducted.abandons, hconducted.command, hconducted.success,
    hconducted.settles⟩

theorem Invocation.run_run (invocation : Invocation) (targets : List String) (host : Host) :
    ((invocation.run targets).run.run host).1 =
      (Command.run (invocation.arguments targets) invocation.directory invocation.limit host.uptime
        (host.attempt (invocation.arguments targets) invocation.directory invocation.limit).1).1 :=
  rfl

theorem Invocation.run_eq_conduct (invocation : Invocation) (targets : List String) (host : Host)
    {clock : Instant} (hclock : clock.toNanos = host.uptime) :
    ((invocation.run targets).run.run host).1.mapError .crash =
      (invocation.conduct targets (.ofAttempt clock invocation.limit
        (host.attempt (invocation.arguments targets) invocation.directory
          invocation.limit).1)).result := by
  rw [run_run]
  exact (Command.run_eq_conduct _ _ _ hclock).1

-- Whatever the system answers, a command gives a result and leaves no child behind, but for the two
-- answers that end the call while the child runs. One of them is a clock that cannot hold the end of
-- the limit, and a limit that is long enough makes it so.
theorem Command.conduct_returns_unless_stopped (arguments : List String) (directory : Option Path)
    (limit : Option Duration) (answers : Answers) (invocation : Invocation) (targets : List String)
    (host : Host) {clock : Instant} (hclock : clock.toNanos = host.uptime) :
    Conducted arguments limit answers (conduct arguments directory limit answers) ∧
    Conducted (invocation.make :: "-f" :: invocation.makefileName :: targets) invocation.limit
      answers (invocation.conduct targets answers) ∧
    (∀ bound, (answers.now.add? bound = none ↔
        9223372036854775808 * 1000000000 ≤ answers.now.toNanos + bound.toNanos) ∧
      ∀ later, answers.now.add? bound = some later →
        later.toNanos = answers.now.toNanos + bound.toNanos) ∧
    (∀ attempt, (run arguments directory limit host.uptime attempt).1.mapError .crash =
        (conduct arguments directory limit (.ofAttempt clock limit attempt)).result ∧
      (run arguments directory limit host.uptime attempt).2 =
        (conduct arguments directory limit (.ofAttempt clock limit attempt)).records) ∧
    ((invocation.run targets).run.run host).1.mapError .crash =
      (invocation.conduct targets (.ofAttempt clock invocation.limit
        (host.attempt (invocation.arguments targets) invocation.directory
          invocation.limit).1)).result :=
  ⟨conducted arguments directory limit answers, invocation.conducted targets answers,
    fun bound => ⟨answers.now.add?_eq_none_iff bound, fun _ => Instant.toNanos_of_add?⟩,
    fun attempt => run_eq_conduct arguments directory attempt hclock,
    invocation.run_eq_conduct targets host hclock⟩

section Example

-- A child that outlives its limit is killed. If the system refuses to wait for it even then, the call
-- still gives its result.
theorem Command.conduct_returns_unless_stopped_killed :
    let clock : Instant := ⟨0, 0, by decide, by decide, by decide⟩
    let limit : Option Duration := some ⟨1, 0, by decide, by decide⟩
    let answers : Answers :=
      { Answers.ofChild clock limit ⟨.exited 0, 2000000000, [], 2000000000⟩ with
        wait := .error ⟨"No child processes (os error 10)", false⟩ }
    (∃ result, (conduct ["sleep", "2"] none limit answers).result = .ok result ∧
      result.command = "sleep 2" ∧ result.success = false) ∧
    (conduct ["sleep", "2"] none limit answers).Settles ∧
    ∃ result, ((Invocation.default.run ["all"]).run.run Host.bare).1 = .ok result := by
  intro clock limit answers
  obtain ⟨hsleep, -, -, -, hrun⟩ := conduct_returns_unless_stopped ["sleep", "2"] none limit answers
    .default ["all"] .bare (show clock.toNanos = Host.bare.uptime from rfl)
  have hdue : deadline answers.now limit =
      .ok (some (⟨1, 0, by decide, by decide, by decide⟩, ⟨1, 0, by decide, by decide⟩)) := rfl
  obtain ⟨result, hresult⟩ := hsleep.exists_ok fun _ => not_stops rfl hdue
  have hsuccess : result.success ≠ true := by
    rw [ne_eq, hsleep.success result hresult]
    exact fun hall => absurd hall.2.2.1 (by decide)
  refine ⟨⟨result, hresult, hsleep.command result hresult, Bool.not_eq_true _ ▸ hsuccess⟩,
    hsleep.settles result hresult List.mem_cons_self, ?_⟩
  have hdefault : deadline clock Invocation.default.limit =
      .ok (some (⟨15, 0, by decide, by decide, by decide⟩, ⟨15, 0, by decide, by decide⟩)) := rfl
  obtain ⟨made, hmade⟩ := (Invocation.default.conducted ["all"] _).exists_ok
    fun _ => not_stops (Answers.startReader_ofAttempt clock Invocation.default.limit _)
      ((Answers.now_ofAttempt clock Invocation.default.limit _).symm ▸ hdefault)
  rw [hmade] at hrun
  cases hresult : ((Invocation.default.run ["all"]).run.run Host.bare).1 with
  | ok result => exact ⟨result, rfl⟩
  | error crash =>
      rw [hresult] at hrun
      cases hrun

-- A limit of 2 ^ 63 seconds ends beyond the clock from its first second on. The child has been
-- started, and nobody waits for it.
theorem Command.run_beyond_clock :
    let clock : Instant := ⟨0, 0, by decide, by decide, by decide⟩
    let limit : Option Duration := some ⟨9223372036854775808, 0, by decide, by decide⟩
    let child : Child := ⟨.exited 0, 0, [111, 107, 10], 0⟩
    let course := conduct ["echo", "ok"] none limit (.ofChild clock limit child)
    (run ["echo", "ok"] none limit 0 (.ok child)).1 = .error .clockOverflow ∧
      course.result = .error (.crash .clockOverflow) ∧ course.Starts ∧ ¬course.Settles := by
  intro clock limit child course
  have hresult : course.result = .error (.crash .clockOverflow) := rfl
  have hconducted := conducted ["echo", "ok"] none limit (.ofChild clock limit child)
  obtain ⟨hstarts, hsteps⟩ := hconducted.abandons _ hresult
  exact ⟨rfl, hresult, hstarts, Course.not_settles hsteps⟩

end Example

end MakeCheck
