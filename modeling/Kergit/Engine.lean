import Kergit.Footprint

/-!
The event queue and the workers behind it.

`server` runs commands; here they come through the queue.  A network thread receives a
command by one push, a worker's iteration is a pop and the command it gets: behind the
guard against duplicates in flight, with the pushes at the end, and with an exception
swallowed.  Any number of iterations run at once.

`Job.Rule` is the shape of these programs: a worker pops first and once, and everything
it calls afterwards belongs to what it has popped.  A result about one command gives the
duty of that command, and `engine_keeps` has the rule for all jobs.
-/

namespace Kergit

open Lib

open ServerProg (hub desk)

/-! ## Workers -/

def CommandType.usesInflightDedup : CommandType → Bool
  | messageSend | voiceActivity => false
  | _ => true

variable (mode : WriteMode)

-- `WorkerPool::handle_event`; a duplicate in flight is dropped without a word.
def handleEvent (cmd : Command) : ServerProg Reply :=
  match cmd.envelope with
  | none => cmd.handler mode
  | some (conn, type) =>
    if type.usesInflightDedup then do
      if ← desk (.tryMarkExecuting conn type) then
        let reply ← cmd.handler mode
        desk (.unmarkExecuting conn type)
        return reply
      else return .done
    else cmd.handler mode

def giveUp (cmd : Command) : ServerProg Unit :=
  match cmd.envelope with
  | none => return ()
  | some (conn, type) => desk (.unmarkExecuting conn type)

def perform (cmd : Command) : ServerProg Reply := do
  match ← (handleEvent mode cmd).attempt with
  | .error e =>
    giveUp cmd
    Prog.raise e
  | .ok reply =>
    Prog.forEach (fun out => desk (.push out)) (reply.outgoing cmd.conn)
    return reply

-- `WorkerPool::worker_loop`, one iteration; it ends at once where the source waits
-- for an event.
def workerLoop : ServerProg Reply := do
  match ← desk .popEvent with
  | none => return .done
  | some cmd => perform mode cmd

/-- What a thread does next: a network thread hands over a command it received, a worker
takes one, the writer takes a step. -/
inductive Job where
  | receive (cmd : Command)
  | work
  | writeNext
deriving DecidableEq

def Job.prog : Job → ServerProg Reply
  | receive cmd => do
    let _ ← desk (.pushEvent cmd)
    return .done
  | work => workerLoop mode
  | writeNext => do
    desk .writeNext
    return .done

def engine : Machine ServerCall ServerCall.Answer Thrown Job Reply Server ServerEnv where
  exec := Server.exec
  prog := Job.prog mode

abbrev EngineScene := Scene ServerCall ServerCall.Answer Thrown Job Reply Server

abbrev EnginePool := Pool ServerCall ServerCall.Answer Thrown Job Reply Server

/-! ## What a worker calls -/

/-- A worker may make the call for the command: its handler may, or it is the guard against
duplicates, or a push of something the command can say. -/
def Command.Works (cmd : Command) (c : ServerCall) : Prop :=
  cmd.Handles c ∨
    (∃ conn type, cmd.envelope = some (conn, type) ∧
      (c = .inr (.tryMarkExecuting conn type) ∨ c = .inr (.unmarkExecuting conn type))) ∨
    ∃ out, c = .inr (.push out) ∧ cmd.Tells out

section Works

variable {mode : WriteMode} {cmd : Command} {conn : GlobalConnId} {type : CommandType}

theorem unmark_works (known : cmd.envelope = some (conn, type)) :
    (desk (.unmarkExecuting conn type)).Only cmd.Works :=
  Footprint.desk_only (.inr (.inl ⟨conn, type, known, .inr rfl⟩))

theorem handleEvent_works (mode : WriteMode) (cmd : Command) :
    (handleEvent mode cmd).Only cmd.Works := by
  have handles : (cmd.handler mode).Only cmd.Works :=
    (cmd.handler_handles mode).mono fun _ => .inl
  unfold handleEvent
  split
  · exact handles
  · rename_i conn type known
    split
    · apply Prog.Only.bind (Footprint.desk_only (.inr (.inl ⟨conn, type, known, .inl rfl⟩)))
      intro marked
      split
      · apply Prog.Only.bind handles
        intro reply
        exact .bind (unmark_works known) fun _ => trivial
      · trivial
    · exact handles

/-- What the worker gets is what the handler answers, or nothing. -/
theorem handleEvent_yields (yields : (cmd.handler mode).Yields Q)
    (nothing : Q .done) : (handleEvent mode cmd).Yields Q := by
  unfold handleEvent
  split
  · exact yields
  · split
    · apply Prog.yields_bind
      intro marked
      split
      · exact yields.bind fun reply is => Prog.yields_bind fun _ => is
      · exact nothing
    · exact yields

/-- **A worker makes no calls but the command's own**, and says nothing but what it can say. -/
theorem perform_works (mode : WriteMode) (cmd : Command) : (perform mode cmd).Only cmd.Works := by
  have told : (handleEvent mode cmd).Yields cmd.Says :=
    handleEvent_yields (cmd.handler_composed mode).yields Command.says_nothing
  apply Prog.Only.bind_yields (.attempt (handleEvent_works mode cmd)) told.attempt
  intro result said
  cases result with
  | error e =>
    apply Prog.Only.bind
    · unfold giveUp
      split
      · trivial
      · rename_i conn type known
        exact unmark_works known
    · exact fun _ => trivial
  | ok reply =>
    apply Prog.Only.bind
    · apply Prog.Only.forEach
      intro out listed
      exact Footprint.desk_only (.inr (.inr ⟨out, rfl, said reply rfl out listed⟩))
    · exact fun _ => trivial

end Works

/-- The command a task has popped: it is its first call. -/
def popped (t : ServerTranscript) : Option Command :=
  match t.getLast? with
  | some ⟨.inr .popEvent, .ok cmd⟩ => cmd
  | _ => none

/-! ## The rule of a job -/

section Rule

variable (Duty : Command → ServerTranscript → ServerCall → Prop)
  (Close : Command → Except Thrown Reply → ServerTranscript → Prop)

/-- A network thread pushes, the writer writes; a worker pops, and then does the duty of
what it popped. -/
def Job.Rule : Job → ServerTranscript → ServerCall → Prop
  | receive cmd, _, c => c = .inr (.pushEvent cmd)
  | writeNext, _, c => c = .inr .writeNext
  | work, t, c => (t = [] ∧ c = .inr .popEvent) ∨
    ∃ cmd, popped t = some cmd ∧ cmd.Works c ∧ Duty cmd t c

def Job.End : Job → Except Thrown Reply → ServerTranscript → Prop
  | work, result, t => ∀ cmd, popped t = some cmd → Close cmd result t
  | receive _, _, _ | writeNext, _, _ => True

/-- The discipline of all jobs, from the duties of what workers pop. -/
def engineDiscipline (mode : WriteMode) : Discipline (engine mode) where
  Possible := SaneCall
  Rule := Job.Rule Duty
  End := Job.End Close
  possible := exec_saneCall

variable {Duty Close} {mode : WriteMode}

/-- What a worker has popped it goes on to have popped. -/
theorem along_popped {p : ServerProg Reply}
    (along : p.Along SaneCall (fun t c => cmd.Works c ∧ Duty cmd t c) (Close cmd) t)
    (is : popped t = some cmd) :
    p.Along SaneCall (Job.Rule Duty .work) (Job.End Close .work) t := by
  induction p generalizing t with
  | ret reply | raise e =>
    intro other found
    obtain rfl := Option.some.inj (found.symm.trans is)
    exact along
  | call c next ih =>
    refine ⟨.inr ⟨cmd, is, along.1⟩, fun answer sane => ih answer (along.2 answer sane) ?_⟩
    have called : t ≠ [] := by
      rintro rfl
      nomatch is
    rw [popped, List.getLast?_cons_of_ne_nil called]
    exact is

/-- A job keeps its rule if a worker does the duty of every command. -/
theorem engine_keeps (keeps : ∀ cmd, (perform mode cmd).Along SaneCall (Duty cmd) (Close cmd)
      [⟨.inr .popEvent, .ok (some cmd)⟩]) : (engineDiscipline Duty Close mode).Keeps job := by
  cases job with
  | receive cmd | writeNext => exact .bind_sure id rfl fun _ => trivial
  | work =>
    refine .bind_sure id (.inl ⟨rfl, rfl⟩) fun found => ?_
    cases found with
    | none => exact fun cmd is => nomatch is
    | some cmd => exact along_popped ((keeps cmd).and_only (perform_works mode cmd)) rfl

end Rule

/-! ## Every interleaving -/

/-- Whatever a thread called was for its job: a worker pops, and then works for what it popped. -/
def Served (s : EngineScene) : Prop :=
  ∀ i job, .began i job ∈ s.history → ∀ entry ∈ s.transcript i,
    match job with
    | .receive cmd => entry.1 = .inr (.pushEvent cmd)
    | .writeNext => entry.1 = .inr .writeNext
    | .work => entry.1 = .inr .popEvent ∨
      ∃ cmd, ⟨.inr .popEvent, .ok (some cmd)⟩ ∈ s.transcript i ∧ cmd.Works entry.1

end Kergit
