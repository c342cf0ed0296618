import EmsDnp3.Python.ControlLaw

/-!
# Runs of a client

The calls of a client in any order, with whatever the host and the other processes that share its incident store do.
-/

namespace EmsDnp3.Python

open Client (Session Ended GivenUp Same)
open Disk (Does outcome)
open Program (Reaches)

/-- A control, and what came of it. -/
structure ControlRecord where
  operation : Text
  commands : List Command
  timeout : Json
  responseMode : Json
  result : Except ControlError CommandTaskResult

/-- A call: the client and the store in front of it and behind it. -/
structure SessionEvent where
  before : Client
  after : Client
  front : StoreDisk
  back : StoreDisk
  control : Option ControlRecord := none

/-- One step: another process uses the store, or the client makes a call. -/
inductive SessionStep (rt : Runtime) : Client × StoreDisk → SessionEvent → Client × StoreDisk → Prop
  | others (client : Client) (d d' : StoreDisk) :
      SessionStep rt (client, d) { before := client, after := client, front := d, back := d' } (client, d')
  | call (client : Client) (d : StoreDisk) (call : Client.Call) :
      SessionStep rt (client, d) { before := client, after := call.after client, front := d, back := d } (call.after client, d)
  | control {operation : Text} {commands : List Command} {timeout responseMode requestTimeout : Json} {pipes : Pipes}
      {client client' : Client} {d d' : StoreDisk} {result : Except ControlError CommandTaskResult}
      (named : Client.isControl operation = true)
      (run : Controls rt operation commands timeout responseMode requestTimeout pipes client d (result, client') d') :
      SessionStep rt (client, d)
        { before := client, after := client', front := d, back := d'
          control := some { operation, commands, timeout, responseMode, result } } (client', d')

namespace SessionEvent
variable (e : SessionEvent)

/-- The call was a control, and the client cannot tell whether it was executed. -/
def Doubtful : Prop := ∃ control error, e.control = some control ∧ control.result = .error error ∧ error.isDoubt = true

def Silent : Prop := e.after.queued = e.before.queued

/-- A call that is no control puts no control on the wire. -/
def Plain : Prop :=
  ∃ sent : Client.Sent, e.after.queued = e.before.queued ++ (sent.map (·.2)).toList ∧ ∀ s ∈ sent, Client.isControl s.1 = false

/-- A control is on the wire once at most, and only where the gate found no incident of its DUT. It is answered with
certainty, declined, or the session is given up and the incident is on record. -/
def Controlled (rt : Runtime) (control : ControlRecord) : Prop :=
  ∃ sent : Option (List Byte), e.after.queued = e.before.queued ++ sent.toList ∧
    (∀ bytes ∈ sent, Sends rt control.operation control.commands control.timeout control.responseMode e.before e.after e.front
      bytes) ∧
    Ending rt control.operation control.commands e.before sent (control.result, e.after) e.back

end SessionEvent

section
variable {rt : Runtime} {s t : Client × StoreDisk} {e : SessionEvent}

theorem quiet_call (call : Client.Call) (client : Client) : ∃ sent, Client.Quiet client (call.after client) sent := by
  cases call with
  | start spawn => exact Client.quiet_start spawn
  | close pipes => exact Client.quiet_close pipes
  | connect config timeout pipes => exact Client.quiet_connect config timeout pipes
  | disconnect timeout pipes => exact Client.quiet_disconnect timeout pipes
  | raw command params timeout pipes => exact Client.quiet_raw command params timeout pipes
  | reading command known params timeout validate pipes => exact Client.quiet_reading known params timeout validate pipes

/-- However a control ends, the session is kept or given up. -/
theorem Ending.session {operation : Text} {commands : List Command} {client : Client} {sent : Option (List Byte)}
    {out : Controlled} {d : StoreDisk} (ending : Ending rt operation commands client sent out d) (session : Session client) :
    Session out.2 := by
  cases ending with
  | refused same => exact same.session session
  | certain same => exact same.session session
  | declined same => exact same.session session
  | doubtful givenUp => exact Client.session_of_none givenUp.token

/-- Every step keeps the session. -/
theorem SessionStep.session (step : SessionStep rt s e t) (session : Session s.1) : Session t.1 := by
  cases step with
  | others => exact session
  | call client d call =>
    obtain ⟨sent, quiet⟩ := quiet_call call client
    exact quiet.session session
  | control named run =>
    obtain ⟨sent, -, -, ending⟩ := controls_end run
    exact ending.session session

/-- A client without a session sends nothing, and gets none. -/
theorem SessionStep.ended (step : SessionStep rt s e t) (session : Session s.1) (ended : Ended s.1) :
    Ended t.1 ∧ e.Silent := by
  cases step with
  | others => exact ⟨ended, rfl⟩
  | call client d call =>
    obtain ⟨sent, quiet⟩ := quiet_call call client
    obtain ⟨still, rfl⟩ := quiet.ended ended
    exact ⟨still, by simpa [SessionEvent.Silent] using quiet.queue⟩
  | @control _ _ _ _ _ _ client client' _ _ _ named run =>
    obtain ⟨sent, queue, sends, ending⟩ := controls_end run
    have nothing : sent = none := by
      cases sent with
      | none => rfl
      | some bytes =>
        obtain ⟨token, batch, cleared, -⟩ := sends bytes rfl
        exact absurd (session.running (by rw [cleared.token]; rfl)) ended.not_running
    subst nothing
    refine ⟨?_, by simpa [SessionEvent.Silent] using queue⟩
    have left : Same client client' ∨ GivenUp client client' := by
      cases ending with
      | refused same => exact .inl same
      | certain same queued => cases queued
      | declined same queued => cases queued
      | doubtful givenUp => exact .inr givenUp
    obtain same | givenUp := left
    · show client'.state = .broken ∨ client'.state = .closed
      rw [same.state]
      exact ended
    · exact .inl givenUp.state

/-- A control in doubt ends the client. -/
theorem SessionStep.doubtful (step : SessionStep rt s e t) (doubtful : e.Doubtful) : Ended t.1 := by
  obtain ⟨control, error, control_, raised, doubt⟩ := doubtful
  cases step with
  | others => cases control_
  | call => cases control_
  | control named run =>
    obtain rfl := Option.some.inj control_
    obtain ⟨sent, -, -, ending⟩ := controls_end run
    dsimp only at raised
    subst raised
    cases ending with
    | refused same unsent plain =>
      rw [doubt] at plain
      cases plain
    | declined same queued plain => cases doubt
    | doubtful givenUp => exact .inl givenUp.state

/-- Every step obeys the law of its kind. -/
theorem SessionStep.lawful (step : SessionStep rt s e t) :
    (e.control = none → e.Plain) ∧ ∀ control, e.control = some control → e.Controlled rt control := by
  cases step with
  | others => exact ⟨fun _ => ⟨none, by simp, by simp⟩, by simp⟩
  | call client d call =>
    obtain ⟨sent, quiet⟩ := quiet_call call client
    exact ⟨fun _ => ⟨sent, quiet.queue, quiet.noControl⟩, by simp⟩
  | control named run =>
    refine ⟨by simp, ?_⟩
    rintro _ ⟨⟩
    exact controls_end run

end

/-- SHA-256 of the payload of the control, and of the DUT. -/
def latchSha256 (bytes : List Byte) : Sha256 :=
  match bytes.length with
  | 216 => ⟨text "138f92f6c9bf1eed0f7423cbdb6a6db5abd5bc8b339b8d2f48b77a3d9e76fad5", by decide +kernel⟩
  | _ => exampleHash

def latchRuntime : Runtime := { exampleRuntime with sha256 := latchSha256 }

theorem latchHashed : dutIdentitySha256 latchRuntime (text "D1") = .ok exampleHash := by decide +kernel

def latchOn : Command :=
  .crob { index := 9, operation := .latchOn, indexOk := by decide, countOk := by decide, onTimeOk := by decide
          offTimeOk := by decide }

/-- The batch of the one control, with five seconds for its task. -/
def latchBatch : ControlBatch where
  timeoutMs := ⟨5000, by decide⟩
  responseMode := .response
  commands := [latchOn]
  commandsOk := by decide
  distinct := by decide

theorem checkControl_latch : checkControl [latchOn] (.int 5) (.str "response") = .ok latchBatch := by
  have timeout : controlTimeout (.int 5) = .ok ⟨5000, by decide⟩ := by decide +kernel
  unfold checkControl
  rw [timeout]
  rfl

def labToken : SafetyToken := ⟨List.replicate 32 (CodePoint.ofChar 'a'), by decide⟩

/-- A client in a LAB session, behind three requests. -/
def labClient : Client where
  config := ⟨65536, none, none, true⟩
  requestPrefix := "python-1"
  state := .running
  requestCounter := 3
  safetyToken := some labToken
  activeDutId := some (text "D1")

theorem session_labClient : Session labClient := ⟨fun _ => rfl, fun _ _ => rfl⟩

/-- The request is queued, and no response comes. -/
def lostRequest : Called Json :=
  labClient.request "direct_operate" (latchBatch.request labToken).params .null (.queued .silent)

theorem lostRequest_timeout : lostRequest.1 = .error .timeout := by decide +kernel

theorem lostRequest_eq : lostRequest = (.error .timeout, lostRequest.2) := by
  rw [← lostRequest_timeout, Prod.mk.eta]

theorem lostRequest_lab : lostRequest.2.simulatorMode = false ∧ incidentContext lostRequest.2.control = .ok (text "D1") := by
  decide +kernel

/-- What the client records of the control. -/
def latchUncertain : UncertainCommand := uncertainCommand "direct_operate" latchBatch (lostDoubt "HOSTTIMEOUTERROR")

/-- The incident is one that can be recorded. -/
theorem latch_recorded : ∃ i, checkedIncident latchRuntime exampleUuid exampleTime exampleHash latchUncertain = .ok i := by
  have passes : (checkedIncident latchRuntime exampleUuid exampleTime exampleHash latchUncertain).isOk = true := by
    decide +kernel
  cases checked : checkedIncident latchRuntime exampleUuid exampleTime exampleHash latchUncertain with
  | ok i => exact ⟨i, rfl⟩
  | error e =>
    rw [checked] at passes
    cases passes

/-- An exchange without a response is a doubt about its control. -/
theorem executeCommandTask_timeout {operation : Text} {batch : ControlBatch} {token : SafetyToken} {timeout : Json}
    {pipes : Pipes} {client client' : Client}
    (lost : client.request operation (batch.request token).params timeout pipes = (.error .timeout, client')) :
    client.executeCommandTask operation batch token timeout pipes =
      (.doubtful .timeout (lostDoubt "HOSTTIMEOUTERROR"), client') := by
  unfold Client.executeCommandTask
  rw [lost]
  rfl

/-- What is recorded of a doubt in a LAB session without an incident. -/
theorem settle_doubtful {rt : Runtime} {operation dutId : Text} {batch : ControlBatch} {error : CallError} {doubt : Doubt}
    {client : Client} {d d' : StoreDisk} {uuid : Uuid} {now : Timestamp rt.digits} {r : IncidentRecordResult rt}
    (lab : client.simulatorMode = false) (context : incidentContext client.control = .ok dutId)
    (recorded : (recordUncertain rt uuid now dutId (uncertainCommand operation batch doubt)).run outcome d = (.ok r, d')) :
    Reaches Does (settle rt uuid now operation batch (.doubtful error doubt, client)) d
      (.ok (.error (.doubtful error (incidentDetails rt r)), client.adopt client.control.abortProcess)) d' := by
  have recorded : Reaches Does _ d (.ok r) d' := .of_run Disk.does_outcome recorded
  have mode : ¬ client.control.simulatorMode = true := by simp [Client.control, lab]
  unfold settle handleUncertainCommand
  dsimp only
  rw [if_neg mode, context]
  exact ((recorded.bind_ok (.refl _ _)).handle).bind_ok (.refl _ _)

/-- In an empty store the gate is open. -/
theorem gate_latch : Reaches Does (commandGate latchRuntime [latchOn] (.int 5) (.str "response") labClient) emptyStore
    (.ok (labToken, latchBatch)) emptyStore := by
  have clear : Reaches Does (assertClear latchRuntime (text "D1")) emptyStore (.ok ()) emptyStore :=
    .of_run Disk.does_outcome (run_assertClear latchHashed rfl)
  unfold commandGate
  dsimp only [labClient]
  rw [checkControl_latch]
  exact (clear.bind_ok (.refl _ _)).handle

/-- The control is sent, its outcome is unknown, and the incident is recorded. -/
theorem controls_latch : ∃ details client d,
    Controls latchRuntime "direct_operate" [latchOn] (.int 5) (.str "response") .null (.queued .silent) labClient emptyStore
      (.error (.doubtful .timeout details), client) d := by
  obtain ⟨i, checked⟩ := latch_recorded
  obtain ⟨d, recorded⟩ := run_recordUncertain (s := emptyStore) latchHashed rfl checked
  have settled : Reaches Does (settle latchRuntime exampleUuid exampleTime "direct_operate" latchBatch
      (.doubtful .timeout (lostDoubt "HOSTTIMEOUTERROR"), lostRequest.2)) emptyStore _ d :=
    settle_doubtful lostRequest_lab.1 lostRequest_lab.2 recorded
  rw [← executeCommandTask_timeout lostRequest_eq] at settled
  exact ⟨_, _, d, .carried gate_latch wellFormed_emptyStore settled⟩

end EmsDnp3.Python
