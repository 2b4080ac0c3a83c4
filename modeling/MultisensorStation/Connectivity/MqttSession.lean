import MultisensorStation.Base.Runs
import MultisensorStation.Connectivity.MqttManager

/-!
# Sessions of `MqttManager`

`main` runs `init`, the task of the client library runs `eventHandler` for one event at a time, and any number of
application tasks call `publish`, `subscribe` and `unsubscribe` in between, one statement a step.

* `MqttInit`, `MqttStmt`, `ApplicationCall` : the statements; `sessionSystem` : the steps;
  `eventHandler_eq_runStmts` : with nothing in between they are `MqttManager.eventHandler`;
* `handedOver` : the calls of the client library in their order; `SessionLabel.own` : those of `eventHandler`;
* `Dialogue` : what every step keeps of the calls, the handle and the state; `answers_each_event`;
* `dialogue_bounded` : the answers to acknowledgements do not keep the dialogue going;
* `held` : the subscriptions that a broker holds after these calls; `Window` : who is behind one;
  `own_publish_unheard` : no message of `eventHandler` comes back to it.
-/

namespace MultisensorStation.Connectivity
open MultisensorStation.Base MultisensorStation.Logger

deriving instance DecidableEq for MqttEvent

/-- What `init` executes next. -/
inductive MqttInit where
  | clientInit
  | registerEvent
  | start
  | finished
  deriving DecidableEq

/-- What `eventHandler` executes next. -/
inductive MqttStmt where
  | idle
  | connectedSetState
  | connectedPublish
  | connectedSubscribe
  | connectedUnsubscribe
  | disconnectedSetState
  | subscribedPublish
  deriving DecidableEq

/-- The case of the `switch`; the other events are only logged. -/
def MqttEvent.stmt : MqttEvent → MqttStmt
  | .connected => .connectedSetState
  | .disconnected => .disconnectedSetState
  | .subscribed => .subscribedPublish
  | _ => .idle

inductive ApplicationCall where
  | publish (topic data : Bytes)
  | subscribe (topic : Bytes)
  | unsubscribe (topic : Bytes)
  deriving DecidableEq

structure MqttSession where
  manager : MqttManager
  init : MqttInit
  handler : MqttStmt

inductive SessionLabel where
  | init (stmt : MqttInit)
  | event (e : MqttEvent)
  | handler (stmt : MqttStmt)
  /-- of any task, with the handle that it finds -/
  | application (client : Option Nat) (c : ApplicationCall)
  deriving DecidableEq

namespace MqttManager

section Client
variable (answer : Nat → Int)

def runStmt (m : MqttManager) : MqttStmt → MqttManager
  | .idle => m
  | .connectedSetState => m.setState .connected
  | .connectedPublish => (m.publish answer (ascii "/topic/qos1") (ascii "data_3")).2
  | .connectedSubscribe => (m.subscribe answer (ascii "/topic/qos1")).2
  | .connectedUnsubscribe => (m.unsubscribe answer (ascii "/topic/qos1")).2
  | .disconnectedSetState => m.setState .disconnected
  | .subscribedPublish => (m.publish answer (ascii "/topic/qos1") (ascii "data")).2

def application (m : MqttManager) : ApplicationCall → MqttManager
  | .publish topic data => (m.publish answer topic data).2
  | .subscribe topic => (m.subscribe answer topic).2
  | .unsubscribe topic => (m.unsubscribe answer topic).2

end Client

end MqttManager

/-- The statement behind this one in its case of the `switch`. -/
def MqttStmt.following : MqttStmt → MqttStmt
  | connectedSetState => connectedPublish
  | connectedPublish => connectedSubscribe
  | connectedSubscribe => connectedUnsubscribe
  | _ => idle

namespace MqttSession

-- the handle that `esp_mqtt_client_init` returns, and the answers of the client library
variable (handle : Option Nat) (answer : Nat → Int)

def next (s : MqttSession) : SessionLabel → Option MqttSession
  | .init stmt =>
    if s.init = stmt then
      match stmt with
      | .clientInit => some { s with manager := { s.manager with client := handle }, init := .registerEvent }
      | .registerEvent => some { s with init := .start }
      | .start => some { s with init := .finished }
      | .finished => none
    else none
  -- a client that was not started, or that there is none of, has no events
  | .event e =>
    if s.init = .finished ∧ s.manager.client.isSome ∧ s.handler = .idle then some { s with handler := e.stmt }
    else none
  | .handler stmt =>
    if s.handler = stmt ∧ stmt ≠ .idle then
      some { s with manager := s.manager.runStmt answer stmt, handler := stmt.following }
    else none
  | .application client c =>
    if s.manager.client = client then some { s with manager := s.manager.application answer c } else none

/-- The calls of the client library, oldest first. -/
def handedOver (s : MqttSession) : List ClientCall := s.manager.calls.map Prod.snd

end MqttSession

def sessionSystem (handle : Option Nat) (answer : Nat → Int) (logger : EventLogger) :
    System MqttSession SessionLabel :=
  ⟨⟨.fresh logger, .clientInit, .idle⟩, MqttSession.next handle answer⟩

/-! ## The statements of one event -/

/-- The statements from this one on. -/
def MqttStmt.upToEnd : MqttStmt → List MqttStmt
  | idle => []
  | connectedSetState => [connectedSetState, connectedPublish, connectedSubscribe, connectedUnsubscribe]
  | connectedPublish => [connectedPublish, connectedSubscribe, connectedUnsubscribe]
  | connectedSubscribe => [connectedSubscribe, connectedUnsubscribe]
  | connectedUnsubscribe => [connectedUnsubscribe]
  | disconnectedSetState => [disconnectedSetState]
  | subscribedPublish => [subscribedPublish]

theorem MqttManager.eventHandler_eq_runStmts (answer : Nat → Int) (e : MqttEvent) (m : MqttManager) :
    m.eventHandler answer e = e.stmt.upToEnd.foldl (runStmt answer) m := by
  cases e <;> rfl

/-- An event whose statements nothing interleaves is one step of `MqttManager.eventHandler`. -/
theorem exec_event (handle : Option Nat) (answer : Nat → Int) (logger : EventLogger) (e : MqttEvent)
    {ls : List SessionLabel} {m : MqttManager} (hclient : m.client.isSome)
    (h : (sessionSystem handle answer logger).exec ls = some ⟨m, .finished, .idle⟩) :
    (sessionSystem handle answer logger).exec (ls ++ .event e :: e.stmt.upToEnd.map .handler) =
      some ⟨m.eventHandler answer e, .finished, .idle⟩ := by
  have hevent : MqttSession.next handle answer ⟨m, .finished, .idle⟩ (.event e) = some ⟨m, .finished, e.stmt⟩ :=
    if_pos ⟨rfl, hclient, rfl⟩
  rw [System.exec_append, h]
  show List.foldlM (MqttSession.next handle answer) _ (.event e :: _) = _
  rw [List.foldlM_cons, hevent, MqttManager.eventHandler_eq_runStmts]
  cases e <;> rfl

/-! ## The calls of the client library -/

def MqttStmt.call (client : Option Nat) : MqttStmt → Option ClientCall
  | connectedPublish => some (.publish client (ascii "/topic/qos1") (ascii "data_3") 0 1 0)
  | connectedSubscribe => some (.subscribe client (ascii "/topic/qos1") 1)
  | connectedUnsubscribe => some (.unsubscribe client (ascii "/topic/qos1"))
  | subscribedPublish => some (.publish client (ascii "/topic/qos1") (ascii "data") 0 1 0)
  | _ => none

def ApplicationCall.call (client : Option Nat) : ApplicationCall → ClientCall
  | publish topic data => .publish client (cString topic) (cString data) 0 1 0
  | subscribe topic => .subscribe client (cString topic) 1
  | unsubscribe topic => .unsubscribe client (cString topic)

/-- What `eventHandler` answers to an event. -/
def MqttEvent.calls (client : Option Nat) (e : MqttEvent) : List ClientCall :=
  match e with
  | .connected =>
    [.publish client (ascii "/topic/qos1") (ascii "data_3") 0 1 0, .subscribe client (ascii "/topic/qos1") 1,
      .unsubscribe client (ascii "/topic/qos1")]
  | .subscribed => [.publish client (ascii "/topic/qos1") (ascii "data") 0 1 0]
  | _ => []

/-- The calls from this statement on. -/
def MqttStmt.rest (client : Option Nat) (stmt : MqttStmt) : List ClientCall := stmt.upToEnd.filterMap (call client)

namespace SessionLabel
variable (handle : Option Nat)

/-- The event that the client library dispatches. -/
def dispatched : SessionLabel → Option MqttEvent
  | event e => some e
  | _ => none

/-- The call that `eventHandler` makes. -/
def own : SessionLabel → Option ClientCall
  | handler stmt => stmt.call handle
  | _ => none

/-- The call that an application task makes. -/
def foreign : SessionLabel → Option ClientCall
  | application client c => some (c.call client)
  | _ => none

def call (l : SessionLabel) : Option ClientCall := (l.own handle).or l.foreign

end SessionLabel

theorem MqttStmt.rest_stmt (client : Option Nat) (e : MqttEvent) : e.stmt.rest client = e.calls client := by
  cases e <;> rfl

theorem MqttStmt.rest_eq (client : Option Nat) (stmt : MqttStmt) :
    stmt.rest client = (stmt.call client).toList ++ stmt.following.rest client := by
  cases stmt <;> rfl

namespace MqttManager

variable (answer : Nat → Int) (m : MqttManager)

theorem calls_runStmt (stmt : MqttStmt) :
    (m.runStmt answer stmt).calls.map Prod.snd = m.calls.map Prod.snd ++ (stmt.call m.client).toList := by
  cases stmt <;> simp [runStmt, MqttStmt.call, setState, subscribe, unsubscribe, clientCall] <;> decide

theorem calls_application (c : ApplicationCall) :
    (m.application answer c).calls.map Prod.snd = m.calls.map Prod.snd ++ [c.call m.client] := by
  cases c <;> simp [application, ApplicationCall.call, subscribe, unsubscribe, clientCall]

theorem client_runStmt (stmt : MqttStmt) : (m.runStmt answer stmt).client = m.client := by
  cases stmt with
  | connectedPublish | subscribedPublish => exact client_publish answer _ _ m
  | _ => rfl

theorem client_application (c : ApplicationCall) : (m.application answer c).client = m.client := by
  cases c with
  | publish topic data => exact client_publish answer topic data m
  | _ => rfl

theorem getState_application (c : ApplicationCall) : (m.application answer c).getState = m.getState := by
  cases c with
  | publish topic data => exact getState_publish answer topic data m
  | _ => rfl

end MqttManager

/-! ## What a step does -/

namespace MqttSession

variable {handle : Option Nat} {answer : Nat → Int} {s s' : MqttSession}

/-- The steps, each with what it does to the manager and to the two programs. -/
inductive Step (handle : Option Nat) (answer : Nat → Int) (s : MqttSession) : SessionLabel → MqttSession → Prop where
  | clientInit (hinit : s.init = .clientInit) : Step handle answer s (.init .clientInit)
      { s with manager := { s.manager with client := handle }, init := .registerEvent }
  | registerEvent (hinit : s.init = .registerEvent) : Step handle answer s (.init .registerEvent)
      { s with init := .start }
  | start (hinit : s.init = .start) : Step handle answer s (.init .start) { s with init := .finished }
  | event {e : MqttEvent} (hinit : s.init = .finished) (hclient : s.manager.client.isSome) (hidle : s.handler = .idle) :
      Step handle answer s (.event e) { s with handler := e.stmt }
  | handler (hbusy : s.handler ≠ .idle) : Step handle answer s (.handler s.handler)
      { s with manager := s.manager.runStmt answer s.handler, handler := s.handler.following }
  | application {c : ApplicationCall} : Step handle answer s (.application s.manager.client c)
      { s with manager := s.manager.application answer c }

theorem step_of_next {l : SessionLabel} (h : s.next handle answer l = some s') : Step handle answer s l s' := by
  cases l with
  | init stmt =>
    obtain ⟨hinit, hs⟩ := Option.ite_none_right_eq_some.mp h
    cases stmt with
    | clientInit => exact Option.some.inj hs ▸ .clientInit hinit
    | registerEvent => exact Option.some.inj hs ▸ .registerEvent hinit
    | start => exact Option.some.inj hs ▸ .start hinit
    | finished => cases hs
  | event e =>
    obtain ⟨⟨hinit, hclient, hidle⟩, hs⟩ := Option.ite_none_right_eq_some.mp h
    exact Option.some.inj hs ▸ .event hinit hclient hidle
  | handler stmt =>
    obtain ⟨⟨rfl, hbusy⟩, hs⟩ := Option.ite_none_right_eq_some.mp h
    exact Option.some.inj hs ▸ .handler hbusy
  | application client c =>
    obtain ⟨rfl, hs⟩ := Option.ite_none_right_eq_some.mp h
    exact Option.some.inj hs ▸ .application

end MqttSession

/-- The state once the `setState` of the current case is done. -/
def MqttStmt.target (state : MqttState) : MqttStmt → MqttState
  | connectedSetState => .connected
  | disconnectedSetState => .disconnected
  | _ => state

theorem MqttStmt.target_stmt (state : MqttState) (e : MqttEvent) :
    e.stmt.target state = (MqttInput.event e).link.getD state := by
  cases e <;> rfl

theorem MqttStmt.target_following (state : MqttState) (stmt : MqttStmt) : stmt.following.target state = state := by
  cases stmt <;> rfl

theorem MqttManager.getState_runStmt (answer : Nat → Int) (m : MqttManager) (stmt : MqttStmt) :
    (m.runStmt answer stmt).getState = stmt.target m.getState := by
  cases stmt with
  | connectedSetState => exact getState_setState .connected m
  | disconnectedSetState => exact getState_setState .disconnected m
  | connectedPublish | subscribedPublish => exact getState_publish answer _ _ m
  | _ => rfl

namespace MqttSession.Step

variable {handle : Option Nat} {answer : Nat → Int} {s s' : MqttSession} {l : SessionLabel}

theorem handedOver_eq (h : Step handle answer s l s') :
    s'.handedOver = s.handedOver ++ (l.call s.manager.client).toList := by
  cases h with
  | handler hbusy =>
    show _ = s.handedOver ++ ((s.handler.call s.manager.client).or none).toList
    rw [Option.or_none]
    exact s.manager.calls_runStmt answer s.handler
  | application => exact s.manager.calls_application answer _
  | _ => exact (List.append_nil _).symm

/-- What is called or dispatched passes through the statements that are left. -/
theorem rest_eq (h : Step handle answer s l s') (client : Option Nat) :
    (l.own client).toList ++ s'.handler.rest client =
      s.handler.rest client ++ l.dispatched.toList.flatMap (MqttEvent.calls client) := by
  cases h with
  | event hinit hclient hidle =>
    rw [hidle]
    refine (MqttStmt.rest_stmt client _).trans ?_
    exact (List.append_nil _).symm
  | handler hbusy =>
    rw [SessionLabel.own, ← MqttStmt.rest_eq]
    exact (List.append_nil _).symm
  | _ => exact (List.append_nil _).symm

theorem target_eq (h : Step handle answer s l s') :
    s'.handler.target s'.manager.getState =
      (l.dispatched.bind fun e => (MqttInput.event e).link).getD (s.handler.target s.manager.getState) := by
  cases h with
  | event hinit hclient hidle =>
    rw [hidle]
    exact MqttStmt.target_stmt _ _
  | handler hbusy => exact (MqttStmt.target_following _ _).trans (s.manager.getState_runStmt answer s.handler)
  | application => exact congrArg (fun state => s.handler.target state) (s.manager.getState_application answer _)
  | _ => rfl

end MqttSession.Step

/-! ## What every step keeps -/

/-- The state that the last event announced. -/
def announced (ls : List SessionLabel) : MqttState :=
  (((ls.filterMap SessionLabel.dispatched).map MqttInput.event).filterMap MqttInput.link).getLast?.getD .notInitialized

theorem announced_concat (ls : List SessionLabel) (l : SessionLabel) :
    announced (ls ++ [l]) = (l.dispatched.bind fun e => (MqttInput.event e).link).getD (announced ls) := by
  unfold announced
  rw [filterMap_concat, List.map_append, List.filterMap_append]
  cases l.dispatched with
  | none => simp
  | some e =>
    cases he : (MqttInput.event e).link with
    | none => simp [he]
    | some state => simp [he]

/-- The handle that the manager has after these steps. -/
def clientAfter (handle : Option Nat) (ls : List SessionLabel) : Option Nat :=
  if .init .clientInit ∈ ls then handle else none

/-- What every step keeps of the calls, the handle and the state. -/
structure Dialogue (handle : Option Nat) (ls : List SessionLabel) (s : MqttSession) : Prop where
  init_iff : s.init = .clientInit ↔ .init .clientInit ∉ ls
  client : s.manager.client = clientAfter handle ls
  busy : s.handler ≠ .idle → s.init = .finished
  handedOver : s.handedOver = ls.filterMap (SessionLabel.call handle)
  own : ls.filterMap (SessionLabel.own handle) ++ s.handler.rest handle =
    (ls.filterMap SessionLabel.dispatched).flatMap (MqttEvent.calls handle)
  state : s.handler.target s.manager.getState = announced ls
  foreign : ∀ pre client c post, ls = pre ++ .application client c :: post → client = clientAfter handle pre

section Runs

variable {handle : Option Nat} {answer : Nat → Int} {logger : EventLogger} {ls : List SessionLabel}
  {s s' : MqttSession} {l : SessionLabel}

namespace Dialogue

theorem init : Dialogue handle [] (sessionSystem handle answer logger).init where
  init_iff := ⟨fun _ => List.not_mem_nil, fun _ => rfl⟩
  client := rfl
  busy h := absurd rfl h
  handedOver := rfl
  own := rfl
  state := rfl
  foreign pre client c post h := by simp at h

/-- Behind `esp_mqtt_client_init`. -/
theorem client_of_busy (h : Dialogue handle ls s) (hbusy : s.handler ≠ .idle) : s.manager.client = handle := by
  rw [h.client]
  apply if_pos
  by_contra hnot
  have hinit := h.init_iff.mpr hnot
  rw [h.busy hbusy] at hinit
  cases hinit

theorem client_step (h : Dialogue handle ls s) (hs : MqttSession.Step handle answer s l s') :
    (s'.init = .clientInit ↔ .init .clientInit ∉ ls ++ [l]) ∧ s'.manager.client = clientAfter handle (ls ++ [l]) ∧
      (s'.handler ≠ .idle → s'.init = .finished) := by
  have hmem : SessionLabel.init .clientInit ∈ ls ++ [l] ↔
      SessionLabel.init .clientInit ∈ ls ∨ l = .init .clientInit := by
    simp [eq_comm]
  have hiff := h.init_iff
  have hclient := h.client
  unfold clientAfter at hclient ⊢
  simp only [hmem]
  cases hs with
  | clientInit hinit => exact ⟨by simp, by simp, fun hb => absurd (h.busy hb) (by rw [hinit]; decide)⟩
  | registerEvent hinit =>
    rw [hinit] at hiff
    refine ⟨by simpa using hiff, by simpa using hclient, fun hb => absurd (h.busy hb) (by rw [hinit]; decide)⟩
  | start hinit =>
    rw [hinit] at hiff
    exact ⟨by simpa using hiff, by simpa using hclient, fun _ => rfl⟩
  | event hinit _ _ => exact ⟨by simpa using hiff, by simpa using hclient, fun _ => hinit⟩
  | handler hbusy =>
    exact ⟨by simpa using hiff, by simpa [s.manager.client_runStmt] using hclient, fun _ => h.busy hbusy⟩
  | application => exact ⟨by simpa using hiff, by simpa [s.manager.client_application] using hclient, h.busy⟩

/-- Who calls on behalf of `eventHandler` has the handle of `init`. -/
theorem call_eq (h : Dialogue handle ls s) (hs : MqttSession.Step handle answer s l s') :
    l.call s.manager.client = l.call handle := by
  cases hs with
  | handler hbusy => rw [h.client_of_busy hbusy]
  | _ => rfl

theorem foreign_step (h : Dialogue handle ls s) (hs : MqttSession.Step handle answer s l s') :
    ∀ pre client c post, ls ++ [l] = pre ++ .application client c :: post → client = clientAfter handle pre := by
  intro pre client c post
  refine forall_split_concat.mpr ⟨?_, fun pre post => h.foreign pre client c post⟩ pre post
  rintro rfl
  cases hs
  exact h.client

theorem step (h : Dialogue handle ls s) (hs : MqttSession.Step handle answer s l s') :
    Dialogue handle (ls ++ [l]) s' := by
  obtain ⟨hinit, hclient, hbusy⟩ := h.client_step hs
  refine ⟨hinit, hclient, hbusy, ?_, ?_, ?_, h.foreign_step hs⟩
  · rw [hs.handedOver_eq, h.call_eq hs, filterMap_concat, h.handedOver]
  · rw [filterMap_concat, filterMap_concat, List.append_assoc, hs.rest_eq, ← List.append_assoc, h.own,
      List.flatMap_append]
  · rw [hs.target_eq, announced_concat, h.state]

end Dialogue

theorem dialogue_of_exec (h : (sessionSystem handle answer logger).exec ls = some s) : Dialogue handle ls s :=
  System.run_invariant _ (I := fun ls s => Dialogue handle ls s) Dialogue.init
    (fun _ _ _ _ hd hs => hd.step (MqttSession.step_of_next hs)) ls s h

/-- **`eventHandler` answers each event once.** However the tasks interleave, the client library is called as the
statements say, in their order; the calls of `eventHandler`, with those that it still has in front of it, are the
answers to the events in the order in which they came, all with the handle of `init`, and only a task that calls before
`init` has it uses `nullptr`; and the state is the one that the last event announced, up to a `setState` on the way. -/
theorem answers_each_event (handle : Option Nat) (answer : Nat → Int) (logger : EventLogger) (ls : List SessionLabel)
    (s : MqttSession) (h : (sessionSystem handle answer logger).exec ls = some s) :
    s.handedOver = ls.filterMap (SessionLabel.call handle) ∧
      ls.filterMap (SessionLabel.own handle) ++ s.handler.rest handle =
        (ls.filterMap SessionLabel.dispatched).flatMap (MqttEvent.calls handle) ∧
      (∀ pre client c post, ls = pre ++ .application client c :: post →
        client = if .init .clientInit ∈ pre then handle else none) ∧
      s.handler.target s.manager.getState = announced ls := by
  have hdialogue := dialogue_of_exec h
  exact ⟨hdialogue.handedOver, hdialogue.own, hdialogue.foreign, hdialogue.state⟩

/-- A task publishes between the statements of `CONNECTED`. -/
def connectedRun : List SessionLabel :=
  [.application none (.publish (ascii "/t") (ascii "y")), .init .clientInit, .init .registerEvent, .init .start,
    .event .connected, .handler .connectedSetState, .handler .connectedPublish, .handler .connectedSubscribe,
    .application (some 1) (.publish (ascii "/topic/qos1") (ascii "x"))]

theorem answers_each_event_connected :
    ∃ s, (sessionSystem (some 1) (fun n => n) .fresh).exec connectedRun = some s ∧
      s.handedOver.length = 4 ∧ s.handler.rest (some 1) = [.unsubscribe (some 1) (ascii "/topic/qos1")] ∧
      s.manager.getState = .connected := by
  have hrun : ((sessionSystem (some 1) (fun n => n) .fresh).exec connectedRun).isSome = true := by decide
  obtain ⟨s, hs⟩ := Option.isSome_iff_exists.mp hrun
  obtain ⟨hcalls, hown, -, hstate⟩ := answers_each_event (some 1) (fun n => n) .fresh connectedRun s hs
  have hhandler : s.handler = .connectedUnsubscribe := by
    have hend : ((sessionSystem (some 1) (fun n => n) .fresh).exec connectedRun).map MqttSession.handler =
        some .connectedUnsubscribe := by decide
    rw [hs] at hend
    exact Option.some.inj hend
  refine ⟨s, hs, by rw [hcalls]; decide, by rw [hhandler]; decide, ?_⟩
  rw [hhandler] at hstate
  exact hstate

/-! ## The dialogue ends -/

def ClientCall.isSubscribe : ClientCall → Bool
  | subscribe .. => true
  | _ => false

theorem length_calls (client : Option Nat) (events : List MqttEvent) :
    (events.flatMap (MqttEvent.calls client)).length = 3 * events.count .connected + events.count .subscribed := by
  induction events with
  | nil => rfl
  | cons e events ih =>
    rw [List.flatMap_cons, List.length_append, ih, List.count_cons, List.count_cons]
    cases e <;> simp [MqttEvent.calls] <;> omega

theorem countP_calls (client : Option Nat) (events : List MqttEvent) :
    (events.flatMap (MqttEvent.calls client)).countP ClientCall.isSubscribe = events.count .connected := by
  induction events with
  | nil => rfl
  | cons e events ih =>
    rw [List.flatMap_cons, List.countP_append, ih, List.count_cons, Nat.add_comm]
    cases e <;> rfl

/-- Each call is made by `eventHandler` or by an application task. -/
theorem countP_own_foreign (p : ClientCall → Bool) (ls : List SessionLabel) :
    (ls.filterMap (SessionLabel.call handle)).countP p =
      (ls.filterMap (SessionLabel.own handle)).countP p + (ls.filterMap SessionLabel.foreign).countP p := by
  induction ls using List.reverseRecOn with
  | nil => rfl
  | append_singleton ls l ih =>
    rw [filterMap_concat, filterMap_concat, filterMap_concat, List.countP_append, List.countP_append,
      List.countP_append, ih]
    have hone : (l.call handle).toList.countP p =
        (l.own handle).toList.countP p + l.foreign.toList.countP p := by
      cases l with
      | handler stmt =>
        show ((stmt.call handle).or none).toList.countP p = _
        rw [Option.or_none]
        rfl
      | application client c => exact (Nat.zero_add _).symm
      | _ => rfl
    omega

/-- **The dialogue ends.** As long as the client library dispatches no more `SUBSCRIBED` events than there were calls
to subscribe, `eventHandler` calls it at most four times for each connection, and once more for each subscription of an
application: its answers to acknowledgements bring no acknowledgements that it answers. -/
theorem dialogue_bounded (handle : Option Nat) (answer : Nat → Int) (logger : EventLogger) (ls : List SessionLabel)
    (s : MqttSession) (h : (sessionSystem handle answer logger).exec ls = some s)
    (hacknowledged : (ls.filterMap SessionLabel.dispatched).count .subscribed ≤
      s.handedOver.countP ClientCall.isSubscribe) :
    (ls.filterMap (SessionLabel.own handle)).length ≤ 4 * (ls.filterMap SessionLabel.dispatched).count .connected +
      (ls.filterMap SessionLabel.foreign).countP ClientCall.isSubscribe := by
  have hdialogue := dialogue_of_exec h
  have hlength := congrArg List.length hdialogue.own
  have hsubscribes := congrArg (List.countP ClientCall.isSubscribe) hdialogue.own
  rw [List.length_append, length_calls] at hlength
  rw [List.countP_append, countP_calls] at hsubscribes
  rw [hdialogue.handedOver, countP_own_foreign] at hacknowledged
  omega

/-- The subscription is acknowledged. -/
def acknowledgedRun : List SessionLabel := connectedRun ++ [.handler .connectedUnsubscribe, .event .subscribed]

theorem dialogue_bounded_acknowledged :
    ∃ s, (sessionSystem (some 1) (fun n => n) .fresh).exec acknowledgedRun = some s ∧
      (acknowledgedRun.filterMap (SessionLabel.own (some 1))).length ≤ 4 := by
  have hrun : ((sessionSystem (some 1) (fun n => n) .fresh).exec acknowledgedRun).isSome = true := by decide
  obtain ⟨s, hs⟩ := Option.isSome_iff_exists.mp hrun
  have hcalls := (dialogue_of_exec hs).handedOver
  exact ⟨s, hs, dialogue_bounded (some 1) (fun n => n) .fresh _ s hs (by rw [hcalls]; decide)⟩

/-! ## Subscriptions at the broker -/

/-- What the call does to the subscription to `filter`. -/
def ClientCall.subscription (filter : Bytes) : ClientCall → Option Bool
  | subscribe _ topic _ => if topic = filter then some true else none
  | unsubscribe _ topic => if topic = filter then some false else none
  | publish .. => none

/-- A broker that gets the calls in their order, but for those that the client library refuses, has a subscription to
`filter`. -/
def held (answer : Nat → Int) (filter : Bytes) (calls : List ClientCall) : Bool :=
  (calls.zipIdx.filterMap fun c => if answer c.2 < 0 then none else c.1.subscription filter).getLast?.getD false

theorem held_concat (answer : Nat → Int) (filter : Bytes) (calls : List ClientCall) (c : ClientCall) :
    held answer filter (calls ++ [c]) = if answer calls.length < 0 then held answer filter calls else
      (c.subscription filter).getD (held answer filter calls) := by
  unfold held
  rw [List.zipIdx_append, List.zipIdx_singleton, filterMap_concat, Nat.zero_add]
  split_ifs with hrefused
  · rw [Option.toList_none, List.append_nil]
  · cases c.subscription filter with
    | none => rw [Option.toList_none, List.append_nil, Option.getD_none]
    | some subscribed => rw [Option.toList_some, List.getLast?_concat, Option.getD_some, Option.getD_some]

/-- A subscription was there before, or this call makes it. -/
theorem held_of_concat {filter : Bytes} {calls : List ClientCall} {c : ClientCall}
    (h : held answer filter (calls ++ [c]) = true) :
    (held answer filter calls = true ∧ (c.subscription filter = some false → answer calls.length < 0)) ∨
      c.subscription filter = some true := by
  rw [held_concat] at h
  split_ifs at h with hrefused
  · exact Or.inl ⟨h, fun _ => hrefused⟩
  · cases hc : c.subscription filter with
    | none =>
      rw [hc] at h
      exact Or.inl ⟨h, fun hn => by cases hn⟩
    | some subscribed =>
      rw [hc] at h
      exact Or.inr (congrArg some h)

/-- Who is behind a subscription: `eventHandler` between its two statements, an application task, or an unsubscribe
that the client library refused. -/
inductive Behind (answer : Nat → Int) (ls : List SessionLabel) (s : MqttSession) (filter : Bytes) : Prop where
  | between (hhandler : s.handler = .connectedUnsubscribe) (hfilter : filter = ascii "/topic/qos1")
  | application {client : Option Nat} {topic : Bytes} (hmem : .application client (.subscribe topic) ∈ ls)
    (hfilter : cString topic = filter)
  | refused {n : Nat} {client : Option Nat} (hcall : s.handedOver[n]? = some (.unsubscribe client filter))
    (hanswer : answer n < 0)

theorem Behind.mono {filter : Bytes} (h : Behind answer ls s filter) (hcalls : s.handedOver <+: s'.handedOver)
    (hhandler : s.handler = .connectedUnsubscribe → filter = ascii "/topic/qos1" →
      s'.handler = .connectedUnsubscribe) : Behind answer (ls ++ [l]) s' filter := by
  cases h with
  | between hin hfilter => exact .between (hhandler hin hfilter) hfilter
  | application hmem hfilter => exact .application (List.mem_append_left _ hmem) hfilter
  | @refused n client hcall hanswer =>
    obtain ⟨more, hmore⟩ := hcalls
    have hlater : s'.handedOver[n]? = some (.unsubscribe client filter) := by
      rw [← hmore, List.getElem?_append_left (List.getElem?_eq_some_iff.mp hcall).1, hcall]
    exact .refused hlater hanswer

/-- Every subscription has somebody behind it. -/
def Explained (answer : Nat → Int) (ls : List SessionLabel) (s : MqttSession) : Prop :=
  ∀ filter, held answer filter s.handedOver = true → Behind answer ls s filter

theorem ClientCall.subscription_eq_some_false {filter : Bytes} {c : ClientCall}
    (h : c.subscription filter = some false) : ∃ client, c = .unsubscribe client filter := by
  cases c with
  | publish client topic data len qos retain => cases h
  | subscribe client topic qos =>
    obtain ⟨-, hs⟩ := Option.ite_none_right_eq_some.mp h
    cases hs
  | unsubscribe client topic =>
    obtain ⟨rfl, -⟩ := Option.ite_none_right_eq_some.mp h
    exact ⟨client, rfl⟩

theorem MqttStmt.subscription_call {stmt : MqttStmt} {client : Option Nat} {filter : Bytes} {c : ClientCall}
    (hc : stmt.call client = some c) (h : c.subscription filter = some true) :
    stmt = connectedSubscribe ∧ filter = ascii "/topic/qos1" := by
  cases stmt with
  | connectedSubscribe =>
    cases hc
    obtain ⟨hfilter, -⟩ := Option.ite_none_right_eq_some.mp h
    exact ⟨rfl, hfilter.symm⟩
  | connectedUnsubscribe =>
    cases hc
    obtain ⟨-, hs⟩ := Option.ite_none_right_eq_some.mp h
    cases hs
  | connectedPublish =>
    cases hc
    cases h
  | subscribedPublish =>
    cases hc
    cases h
  | _ => cases hc

theorem ApplicationCall.subscription_call {c : ApplicationCall} {client : Option Nat} {filter : Bytes}
    (h : (c.call client).subscription filter = some true) : ∃ topic, c = .subscribe topic ∧ cString topic = filter := by
  cases c with
  | publish topic data => cases h
  | subscribe topic =>
    obtain ⟨hfilter, -⟩ := Option.ite_none_right_eq_some.mp h
    exact ⟨topic, rfl, hfilter⟩
  | unsubscribe topic =>
    obtain ⟨-, hs⟩ := Option.ite_none_right_eq_some.mp h
    cases hs

theorem Explained.step (h : Explained answer ls s) (hs : MqttSession.Step handle answer s l s') :
    Explained answer (ls ++ [l]) s' := by
  intro filter hheld
  have hcalls := hs.handedOver_eq
  have hprefix : s.handedOver <+: s'.handedOver := hcalls ▸ List.prefix_append _ _
  rw [hcalls] at hheld
  cases hs with
  | handler hbusy =>
    have hcall : (SessionLabel.handler s.handler).call s.manager.client = s.handler.call s.manager.client :=
      Option.or_none
    rw [hcall] at hheld hcalls
    cases hc : s.handler.call s.manager.client with
    | none =>
      rw [hc, Option.toList_none, List.append_nil] at hheld
      exact (h filter hheld).mono hprefix (fun hin _ => by rw [hin] at hc; cases hc)
    | some c =>
      rw [hc, Option.toList_some] at hheld hcalls
      rcases held_of_concat hheld with ⟨hold, hrefused⟩ | hmade
      · by_cases hends : c.subscription filter = some false
        · obtain ⟨client, rfl⟩ := ClientCall.subscription_eq_some_false hends
          exact .refused (hcalls ▸ List.getElem?_concat_length) (hrefused hends)
        · refine (h filter hold).mono hprefix (fun hin hfilter => absurd ?_ hends)
          rw [hin] at hc
          cases hc
          exact if_pos hfilter.symm
      · obtain ⟨hsubscribe, hfilter⟩ := MqttStmt.subscription_call hc hmade
        exact .between (congrArg MqttStmt.following hsubscribe) hfilter
  | application =>
    rcases held_of_concat hheld with ⟨hold, -⟩ | hmade
    · exact (h filter hold).mono hprefix (fun hin _ => hin)
    · obtain ⟨topic, rfl, hfilter⟩ := ApplicationCall.subscription_call hmade
      exact .application (List.mem_append_right _ List.mem_cons_self) hfilter
  | event hinit hclient hidle =>
    have hold : held answer filter (s.handedOver ++ []) = true := hheld
    rw [List.append_nil] at hold
    exact (h filter hold).mono hprefix (fun hin _ => by rw [hidle] at hin; cases hin)
  | _ =>
    have hold : held answer filter (s.handedOver ++ []) = true := hheld
    rw [List.append_nil] at hold
    exact (h filter hold).mono hprefix (fun hin _ => hin)

theorem explained_of_exec (h : (sessionSystem handle answer logger).exec ls = some s) : Explained answer ls s :=
  System.run_invariant _ (I := fun ls s => Explained answer ls s) (fun _ hheld => by cases hheld)
    (fun _ _ _ _ he hs => he.step (MqttSession.step_of_next hs)) ls s h

/-- **No message of `eventHandler` comes back to it.** Where no application task subscribes and the client library
refuses no unsubscribe, the broker holds a subscription only for `"/topic/qos1"` and only while `eventHandler` is
between its `subscribe` and its `unsubscribe`; so neither of the messages that it publishes finds one, only those that
other tasks publish in between. -/
theorem own_publish_unheard (handle : Option Nat) (answer : Nat → Int) (logger : EventLogger) (ls : List SessionLabel)
    (s : MqttSession) (h : (sessionSystem handle answer logger).exec ls = some s)
    (happlication : ∀ client topic, .application client (.subscribe topic) ∉ ls)
    (htaken : ∀ n client topic, s.handedOver[n]? = some (.unsubscribe client topic) → 0 ≤ answer n) (filter : Bytes) :
    (held answer filter s.handedOver = true →
        s.handler = .connectedUnsubscribe ∧ filter = ascii "/topic/qos1") ∧
      (s.handler = .connectedPublish ∨ s.handler = .subscribedPublish → held answer filter s.handedOver = false) := by
  have hbetween : held answer filter s.handedOver = true →
      s.handler = .connectedUnsubscribe ∧ filter = ascii "/topic/qos1" := by
    intro hheld
    cases explained_of_exec h filter hheld with
    | between hhandler hfilter => exact ⟨hhandler, hfilter⟩
    | application hmem _ => exact absurd hmem (happlication _ _)
    | refused hcall hanswer => exact absurd (htaken _ _ _ hcall) (not_le.mpr hanswer)
  refine ⟨hbetween, fun hpublish => ?_⟩
  rw [← Bool.not_eq_true]
  intro hheld
  obtain ⟨hhandler, -⟩ := hbetween hheld
  rw [hhandler] at hpublish
  simp at hpublish

end Runs

/-- The message of the other task meets the subscription, that of `eventHandler` does not. -/
theorem own_publish_unheard_acknowledged :
    ∃ s t, (sessionSystem (some 1) (fun n => n) .fresh).exec connectedRun = some s ∧
      (sessionSystem (some 1) (fun n => n) .fresh).exec acknowledgedRun = some t ∧
      held (fun n => n) (ascii "/topic/qos1") s.handedOver = true ∧
      held (fun n => n) (ascii "/topic/qos1") t.handedOver = false := by
  have hruns : ((sessionSystem (some 1) (fun n => n) .fresh).exec connectedRun).isSome = true ∧
      ((sessionSystem (some 1) (fun n => n) .fresh).exec acknowledgedRun).isSome = true := by decide
  obtain ⟨s, hs⟩ := Option.isSome_iff_exists.mp hruns.1
  obtain ⟨t, ht⟩ := Option.isSome_iff_exists.mp hruns.2
  have hscalls := (dialogue_of_exec hs).handedOver
  have hhandler : t.handler = .subscribedPublish := by
    have hend : ((sessionSystem (some 1) (fun n => n) .fresh).exec acknowledgedRun).map MqttSession.handler =
        some .subscribedPublish := by decide
    rw [ht] at hend
    exact Option.some.inj hend
  have hnone : ∀ client topic, SessionLabel.application client (.subscribe topic) ∉ acknowledgedRun := by
    intro client topic hmem
    simp [acknowledgedRun, connectedRun] at hmem
  exact ⟨s, t, hs, ht, by rw [hscalls]; decide, (own_publish_unheard (some 1) (fun n => n) .fresh _ t ht hnone
    (fun n _ _ _ => Int.natCast_nonneg n) _).2 (Or.inr hhandler)⟩

end MultisensorStation.Connectivity
