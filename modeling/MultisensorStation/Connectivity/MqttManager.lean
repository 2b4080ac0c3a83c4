import MultisensorStation.Logger.EventLogger

/-!
# `MqttManager`

* `MqttManager` : the logged state, the handle of the client library and the calls made of it; `publish`, `subscribe`,
  `unsubscribe`, `eventHandler`;
* `MqttInput`, `MqttManager.run` : events, `init` and publishes of the application in any order, on a client library
  that answers what it likes; `publish_eq` : a message is handed over in every state;
* `OnlyWhileConnected` : nothing is published but after a `CONNECTED` that no `DISCONNECTED` followed;
* `silent_while_disconnected_iff` : only then the manager hands nothing over while it is not connected.
-/

namespace MultisensorStation.Connectivity
open MultisensorStation.Base MultisensorStation.Logger

/-- `mqttState_t` -/
inductive MqttState where
  | notInitialized
  | disconnected
  | connected
  deriving DecidableEq

def MqttState.asString : MqttState → Bytes
  | notInitialized => ascii "NOT_INITIALIZED"
  | disconnected => ascii "DISCONNECTED"
  | connected => ascii "CONNECTED"

/-- `esp_mqtt_event_id_t` -/
inductive MqttEvent where
  | connected
  | disconnected
  | subscribed
  | unsubscribed
  | published
  | data
  | error
  | other

/-- The functions of the client library, called with the handle of `init`. -/
inductive ClientCall where
  | publish (client : Option Nat) (topic data : Bytes) (len qos retain : Int)
  | subscribe (client : Option Nat) (topic : Bytes) (qos : Int)
  | unsubscribe (client : Option Nat) (topic : Bytes)
  deriving DecidableEq

def ClientCall.isPublish : ClientCall → Bool
  | publish .. => true
  | _ => false

/-- What came of one `publish`. -/
structure PublishReport where
  /-- the state when it was called -/
  state : MqttState
  returned : Int
  handedOver : List ClientCall
  deriving DecidableEq

structure MqttManager where
  object : StatefulObjectLogged MqttState
  logger : EventLogger
  /-- `nullptr` before `init` -/
  client : Option Nat
  /-- each with the state in which it was made -/
  calls : List (MqttState × ClientCall)
  reports : List PublishReport

namespace MqttManager

def fresh (logger : EventLogger) : MqttManager where
  object := ⟨ascii "MqttManager", .notInitialized, MqttState.asString⟩
  logger := logger
  client := none
  calls := []
  reports := []

def getState (m : MqttManager) : MqttState := m.object.state

def isConnected (m : MqttManager) : Bool := m.getState = .connected

def setState (newState : MqttState) (m : MqttManager) : MqttManager :=
  let (object, logger) := m.object.setState newState m.logger
  { m with object := object, logger := logger }

section Client
-- the answer of the client library to the `n`-th call
variable (answer : Nat → Int)

def clientCall (c : ClientCall) (m : MqttManager) : Int × MqttManager :=
  (answer m.calls.length, { m with calls := m.calls ++ [(m.getState, c)] })

def publish (topic data : Bytes) (m : MqttManager) : Int × MqttManager := Id.run do
  let mut msgId : Int := 0
  if !m.isConnected then
    msgId := -1
  -- there is no `else`: the `-1` of a manager that is not connected is overwritten
  let (answered, m') := m.clientCall answer (.publish m.client (cString topic) (cString data) 0 1 0)
  msgId := answered
  return (msgId, { m' with reports := m.reports ++ [⟨m.getState, msgId, (m'.calls.drop m.calls.length).map Prod.snd⟩] })

def subscribe (topic : Bytes) (m : MqttManager) : Int × MqttManager :=
  m.clientCall answer (.subscribe m.client (cString topic) 1)

def unsubscribe (topic : Bytes) (m : MqttManager) : Int × MqttManager :=
  m.clientCall answer (.unsubscribe m.client (cString topic))

def eventHandler (e : MqttEvent) (m : MqttManager) : MqttManager :=
  match e with
  | .connected =>
    let m := m.setState .connected
    let (_, m) := m.publish answer (ascii "/topic/qos1") (ascii "data_3")
    let (_, m) := m.subscribe answer (ascii "/topic/qos1")
    (m.unsubscribe answer (ascii "/topic/qos1")).2
  | .disconnected => m.setState .disconnected
  | .subscribed => (m.publish answer (ascii "/topic/qos1") (ascii "data")).2
  | .unsubscribed | .published | .data | .error | .other => m

end Client

end MqttManager

/-! ## Runs -/

inductive MqttInput where
  | init (handle : Option Nat)
  | event (e : MqttEvent)
  | publish (topic data : Bytes)

namespace MqttInput

/-- The state that an event announces. -/
def link : MqttInput → Option MqttState
  | event .connected => some .connected
  | event .disconnected => some .disconnected
  | _ => none

/-- A publish in the state that was there before the input. -/
def publishes : MqttInput → Bool
  | publish .. => true
  | event .subscribed => true
  | _ => false

end MqttInput

/-- Each publish comes after a `CONNECTED` event that no `DISCONNECTED` one followed. -/
def OnlyWhileConnected (inputs : List MqttInput) : Prop :=
  ∀ pre i post, inputs = pre ++ i :: post → i.publishes = true →
    (pre.filterMap MqttInput.link).getLast? = some .connected

namespace MqttManager

section Client
variable (answer : Nat → Int)

def input (m : MqttManager) : MqttInput → MqttManager
  | .init handle => { m with client := handle }
  | .event e => m.eventHandler answer e
  | .publish topic data => (m.publish answer topic data).2

def run (logger : EventLogger) (inputs : List MqttInput) : MqttManager := inputs.foldl (input answer) (fresh logger)

theorem run_append (logger : EventLogger) (pre post : List MqttInput) :
    run answer logger (pre ++ post) = post.foldl (input answer) (run answer logger pre) := by
  unfold run
  rw [List.foldl_append]

@[simp] theorem getState_setState (newState : MqttState) (m : MqttManager) : (m.setState newState).getState = newState :=
  StatefulObjectLogged.state_setState newState m.object m.logger

/-! ### What `publish` does, connected or not -/

section Publish
variable (topic data : Bytes) (m : MqttManager)

theorem publish_eq : m.publish answer topic data =
    (answer m.calls.length,
      { m with
        calls := m.calls ++ [(m.getState, .publish m.client (cString topic) (cString data) 0 1 0)]
        reports := m.reports ++ [⟨m.getState, answer m.calls.length,
          [.publish m.client (cString topic) (cString data) 0 1 0]⟩] }) := by
  unfold publish
  cases m.isConnected <;> simp [clientCall]

@[simp] theorem getState_publish : (m.publish answer topic data).2.getState = m.getState := by
  rw [publish_eq]
  rfl

@[simp] theorem client_publish : (m.publish answer topic data).2.client = m.client := by
  rw [publish_eq]

@[simp] theorem calls_publish : (m.publish answer topic data).2.calls =
    m.calls ++ [(m.getState, .publish m.client (cString topic) (cString data) 0 1 0)] := by
  rw [publish_eq]

/-- The message reaches the client library in any case. -/
@[simp] theorem reports_publish : (m.publish answer topic data).2.reports = m.reports ++ [⟨m.getState,
    answer m.calls.length, [.publish m.client (cString topic) (cString data) 0 1 0]⟩] := by
  rw [publish_eq]

end Publish

theorem getState_input (m : MqttManager) (i : MqttInput) : (m.input answer i).getState = i.link.getD m.getState := by
  cases i with
  | init handle => rfl
  | publish topic data => exact getState_publish answer topic data m
  | event e =>
    cases e with
    | connected =>
      show ((m.setState .connected).publish answer _ _).2.getState = _
      rw [getState_publish]
      exact getState_setState .connected m
    | disconnected => exact getState_setState .disconnected m
    | subscribed => exact getState_publish answer _ _ m
    | _ => rfl

theorem getState_run (logger : EventLogger) (inputs : List MqttInput) :
    (run answer logger inputs).getState = (inputs.filterMap MqttInput.link).getLast?.getD .notInitialized := by
  induction inputs using List.reverseRecOn with
  | nil => rfl
  | append_singleton inputs i ih =>
    rw [run_append, List.foldl_cons, List.foldl_nil, getState_input, ih, List.filterMap_append]
    cases hi : i.link with
    | none => simp [hi]
    | some state => simp [hi]

/-! ### Publishes made while connected -/

/-- Nothing was published in another state. -/
structure OnlyConnected (m : MqttManager) : Prop where
  reports : ∀ r ∈ m.reports, r.state = .connected
  calls : ∀ c ∈ m.calls, c.2.isPublish = true → c.1 = .connected

theorem OnlyConnected.fresh (logger : EventLogger) : OnlyConnected (fresh logger) :=
  ⟨fun _ hr => absurd hr List.not_mem_nil, fun _ hc => absurd hc List.not_mem_nil⟩

variable {m : MqttManager}

theorem OnlyConnected.setState (h : OnlyConnected m) (newState : MqttState) : OnlyConnected (m.setState newState) :=
  ⟨h.reports, h.calls⟩

theorem OnlyConnected.clientCall (h : OnlyConnected m) {c : ClientCall}
    (hc : c.isPublish = true → m.getState = .connected) : OnlyConnected (m.clientCall answer c).2 := by
  refine ⟨h.reports, ?_⟩
  intro d hd
  rcases List.mem_append.mp hd with hold | hnew
  · exact h.calls d hold
  · rw [List.mem_singleton.mp hnew]
    exact hc

theorem OnlyConnected.publish (h : OnlyConnected m) (hm : m.getState = .connected) (topic data : Bytes) :
    OnlyConnected (m.publish answer topic data).2 := by
  constructor
  · rw [reports_publish, List.forall_mem_append, List.forall_mem_singleton]
    exact ⟨h.reports, hm⟩
  · rw [calls_publish, List.forall_mem_append, List.forall_mem_singleton]
    exact ⟨h.calls, fun _ => hm⟩

theorem OnlyConnected.input (h : OnlyConnected m) {i : MqttInput}
    (hi : i.publishes = true → m.getState = .connected) : OnlyConnected (m.input answer i) := by
  cases i with
  | init handle => exact ⟨h.reports, h.calls⟩
  | publish topic data => exact h.publish answer (hi rfl) topic data
  | event e =>
    cases e with
    | connected =>
      have hpublished := (h.setState .connected).publish answer (getState_setState .connected m)
        (ascii "/topic/qos1") (ascii "data_3")
      apply OnlyConnected.clientCall
      · apply hpublished.clientCall answer
        intro hp
        cases hp
      · intro hp
        cases hp
    | disconnected => exact h.setState .disconnected
    | subscribed => exact h.publish answer (hi rfl) _ _
    | _ => exact h

/-! ### A publish made while not connected -/

theorem handedOver_input {i : MqttInput} (hi : i.publishes = true) :
    ∃ r ∈ (m.input answer i).reports, r.state = m.getState ∧ r.handedOver ≠ [] := by
  have hpublish : ∀ topic data, ∃ r ∈ (m.publish answer topic data).2.reports,
      r.state = m.getState ∧ r.handedOver ≠ [] := by
    intro topic data
    rw [reports_publish]
    exact ⟨_, List.mem_append_right _ List.mem_cons_self, rfl, List.cons_ne_nil _ _⟩
  cases i with
  | init handle => cases hi
  | publish topic data => exact hpublish topic data
  | event e =>
    cases e with
    | subscribed => exact hpublish _ _
    | _ => cases hi

theorem reports_input (i : MqttInput) : m.reports <+: (m.input answer i).reports := by
  have hpublish : ∀ topic data (m : MqttManager), m.reports <+: (m.publish answer topic data).2.reports := by
    intro topic data m
    rw [reports_publish]
    exact List.prefix_append _ _
  cases i with
  | init handle => exact List.prefix_refl _
  | publish topic data => exact hpublish topic data m
  | event e =>
    cases e with
    | connected => exact hpublish _ _ (m.setState .connected)
    | subscribed => exact hpublish _ _ m
    | _ => exact List.prefix_refl _

theorem reports_foldl (inputs : List MqttInput) (m : MqttManager) :
    m.reports <+: (inputs.foldl (input answer) m).reports := by
  induction inputs generalizing m with
  | nil => exact List.prefix_refl _
  | cons i inputs ih => exact (reports_input answer i).trans (ih (m.input answer i))

end Client

theorem OnlyConnected.run (answer : Nat → Int) (logger : EventLogger) {inputs : List MqttInput}
    (h : OnlyWhileConnected inputs) : OnlyConnected (run answer logger inputs) := by
  induction inputs using List.reverseRecOn with
  | nil => exact OnlyConnected.fresh logger
  | append_singleton inputs i ih =>
    have hbefore : OnlyWhileConnected inputs := by
      intro pre j post heq
      exact h pre j (post ++ [i]) (by rw [heq, List.append_assoc, List.cons_append])
    rw [run_append]
    apply (ih hbefore).input answer
    intro hi
    rw [getState_run, h inputs i [] rfl hi]
    rfl

/-- **When nothing is published while disconnected.** For every sequence of events and publishes and every client
library: each publish outside of the state `CONNECTED` returns `-1` without handing anything over, and the library is
asked to publish in this state only, exactly when there is no publish outside of it. -/
theorem silent_while_disconnected_iff (answer : Nat → Int) (logger : EventLogger) (inputs : List MqttInput) :
    ((∀ r ∈ (run answer logger inputs).reports, r.state ≠ .connected → r.returned = -1 ∧ r.handedOver = []) ∧
        ∀ c ∈ (run answer logger inputs).calls, c.2.isPublish = true → c.1 = .connected) ↔
      OnlyWhileConnected inputs := by
  constructor
  · rintro ⟨hsilent, -⟩ pre i post rfl hi
    obtain ⟨r, hr, hstate, hhanded⟩ := handedOver_input answer (m := run answer logger pre) hi
    have hmem : r ∈ (run answer logger (pre ++ i :: post)).reports := by
      rw [run_append]
      exact (reports_foldl answer post _).subset hr
    by_contra hlink
    apply hhanded
    apply (hsilent r hmem _).2
    rw [hstate, getState_run]
    cases hlast : (pre.filterMap MqttInput.link).getLast? with
    | none => simp
    | some state =>
      rw [hlast] at hlink
      exact fun heq => hlink (congrArg some heq)
  · intro h
    have hrun := OnlyConnected.run answer logger h
    exact ⟨fun r hr hne => absurd (hrun.reports r hr) hne, hrun.calls⟩

/-- A message published before the connection is queued in the client library, which numbers it 7. -/
theorem published_before_connected :
    let m := run (fun _ => 7) EventLogger.fresh [.init (some 1), .publish (ascii "/t") (ascii "x")]
    m.reports = [⟨.notInitialized, 7, [.publish (some 1) (ascii "/t") (ascii "x") 0 1 0]⟩] ∧
      ¬ ∀ r ∈ m.reports, r.state ≠ .connected → r.returned = -1 ∧ r.handedOver = [] := by
  decide

end MqttManager

end MultisensorStation.Connectivity
