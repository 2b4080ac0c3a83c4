import MultisensorStation.Base.Simulation
import MultisensorStation.Logger.ConcurrentLogging

/-!
# Many objects and many threads

Any number of threads that call `setState` on any number of `StatefulObjectLogged` objects with one logger, one
statement a step, the three steps of `logStateChange` included.

* `ObjectStmt`, `SharedObjects`, `objectsSystem` : the statements of a thread, the objects with their logger, the steps;
* `objectsSimulation` : what the logger sees are concurrent calls of `logStateChange`;
* `changesFrom` : the changes that a sequence of values makes; `logged`, `loggedBy` : the lines of a run, of all
  objects and of one;
* `History` : what every step keeps of an object that only one thread sets;
* `each_change_logged` : the changes of such an object are logged, each with its own value and in their order,
  whatever the other threads do.
-/

namespace MultisensorStation.Logger
open MultisensorStation.Base MultisensorStation.Patterns

/-- What a thread executes next in `setState` on the object `i`. -/
inductive ObjectStmt (S : Type) where
  | idle
  | assign (i : Nat) (newState : S)
  | getStateAsString (i : Nat)
  | pushLine (i : Nat) (state : Bytes)
  | isMax
  | printLatestLogs
  deriving DecidableEq

structure SharedObjects (S : Type) where
  objects : Nat → StatefulObjectLogged S
  logger : EventLogger
  threads : Nat → ObjectStmt S

inductive ObjectsLabel (S : Type) where
  /-- the call, with the comparison of the two states -/
  | call (t i : Nat) (newState : S)
  | assign (t i : Nat) (newState : S)
  | getStateAsString (t i : Nat)
  /-- the critical section of `logStateChange` -/
  | pushLine (t i : Nat) (state : Bytes)
  | isMax (t : Nat)
  | printLatestLogs (t : Nat)

namespace SharedObjects

variable {S : Type} [DecidableEq S]

def goto (s : SharedObjects S) (t : Nat) (stmt : ObjectStmt S) : SharedObjects S :=
  { s with threads := Function.update s.threads t stmt }

def assign (s : SharedObjects S) (i : Nat) (newState : S) : SharedObjects S :=
  { s with objects := Function.update s.objects i { s.objects i with state := newState } }

def next (s : SharedObjects S) : ObjectsLabel S → Option (SharedObjects S)
  | .call t i newState =>
    if s.threads t = .idle then
      some (if (s.objects i).state ≠ newState then s.goto t (.assign i newState) else s)
    else none
  | .assign t i newState =>
    if s.threads t = .assign i newState then some ((s.assign i newState).goto t (.getStateAsString i)) else none
  | .getStateAsString t i =>
    if s.threads t = .getStateAsString i then
      some (s.goto t (.pushLine i ((s.objects i).getStateAsString (s.objects i).state)))
    else none
  | .pushLine t i state =>
    if s.threads t = .pushLine i state then
      some ({ s with logger := s.logger.pushLine (s.objects i).id state }.goto t .isMax)
    else none
  | .isMax t =>
    if s.threads t = .isMax then some (s.goto t (if s.logger.logs.isMax then .printLatestLogs else .idle)) else none
  | .printLatestLogs t =>
    if s.threads t = .printLatestLogs then some ({ s with logger := s.logger.printLatestLogs }.goto t .idle) else none

end SharedObjects

def objectsSystem {S : Type} [DecidableEq S] (objects : Nat → StatefulObjectLogged S) :
    System (SharedObjects S) (ObjectsLabel S) :=
  ⟨⟨objects, .fresh, fun _ => .idle⟩, SharedObjects.next⟩

/-! ## What the logger sees -/

def ObjectStmt.asLogStmt {S : Type} : ObjectStmt S → LogStmt
  | .isMax => .isMax
  | .printLatestLogs => .printLatestLogs
  | _ => .idle

def SharedObjects.asLogState {S : Type} (s : SharedObjects S) : LogState :=
  ⟨s.logger, fun t => (s.threads t).asLogStmt⟩

section Steps
variable {S : Type} (objects : Nat → StatefulObjectLogged S)

def ObjectsLabel.asLogLabel : ObjectsLabel S → List LogLabel
  | .pushLine t i state => [.push t (objects i).id state]
  | .isMax t => [.isMax t]
  | .printLatestLogs t => [.printLatestLogs t]
  | _ => []

/-- Only the states of the objects change. -/
structure SameObjects (s : SharedObjects S) : Prop where
  id : ∀ i, (s.objects i).id = (objects i).id
  getStateAsString : ∀ i, (s.objects i).getStateAsString = (objects i).getStateAsString

variable {objects} {s s' : SharedObjects S} {t : Nat}

@[simp] theorem SharedObjects.threads_goto_self {stmt : ObjectStmt S} : (s.goto t stmt).threads t = stmt :=
  Function.update_self ..

theorem SharedObjects.threads_goto_other {stmt : ObjectStmt S} {u : Nat} (h : u ≠ t) :
    (s.goto t stmt).threads u = s.threads u := Function.update_of_ne h ..

theorem SharedObjects.asLogState_goto (stmt : ObjectStmt S) :
    (s.goto t stmt).asLogState = s.asLogState.goto t stmt.asLogStmt := by
  unfold asLogState LogState.goto
  congr 1
  funext u
  by_cases hu : u = t
  · rw [hu, threads_goto_self, Function.update_self]
  · rw [threads_goto_other hu, Function.update_of_ne hu]

/-- A step that the logger does not see. -/
theorem SharedObjects.asLogState_goto_of_idle {stmt : ObjectStmt S} (hbefore : (s.threads t).asLogStmt = .idle)
    (hafter : stmt.asLogStmt = .idle) : (s.goto t stmt).asLogState = s.asLogState := by
  rw [asLogState_goto, hafter]
  unfold LogState.goto
  have hsame : Function.update s.asLogState.threads t .idle = s.asLogState.threads := by
    rw [← hbefore]
    exact Function.update_eq_self ..
  rw [hsame]

@[simp] theorem SharedObjects.objects_assign_self [DecidableEq S] (i : Nat) (v : S) :
    (s.assign i v).objects i = { s.objects i with state := v } := Function.update_self ..

theorem SharedObjects.objects_assign_other [DecidableEq S] {i j : Nat} (v : S) (h : j ≠ i) :
    (s.assign i v).objects j = s.objects j := Function.update_of_ne h ..

theorem SameObjects.assign [DecidableEq S] (h : SameObjects objects s) (i : Nat) (v : S) :
    SameObjects objects (s.assign i v) := by
  constructor
  · intro j
    by_cases hj : j = i
    · subst hj
      rw [SharedObjects.objects_assign_self]
      exact h.id j
    · rw [SharedObjects.objects_assign_other v hj, h.id]
  · intro j
    by_cases hj : j = i
    · subst hj
      rw [SharedObjects.objects_assign_self]
      exact h.getStateAsString j
    · rw [SharedObjects.objects_assign_other v hj, h.getStateAsString]

/-- The steps, with the statement that the thread stood at. -/
inductive ObjectsStep [DecidableEq S] (s : SharedObjects S) : ObjectsLabel S → SharedObjects S → Prop where
  | same {t i : Nat} {v : S} (hidle : s.threads t = .idle) (hstate : (s.objects i).state = v) :
      ObjectsStep s (.call t i v) s
  | call {t i : Nat} {v : S} (hidle : s.threads t = .idle) (hstate : (s.objects i).state ≠ v) :
      ObjectsStep s (.call t i v) (s.goto t (.assign i v))
  | assign {t i : Nat} {v : S} (hstmt : s.threads t = .assign i v) :
      ObjectsStep s (.assign t i v) ((s.assign i v).goto t (.getStateAsString i))
  | getStateAsString {t i : Nat} (hstmt : s.threads t = .getStateAsString i) :
      ObjectsStep s (.getStateAsString t i)
        (s.goto t (.pushLine i ((s.objects i).getStateAsString (s.objects i).state)))
  | pushLine {t i : Nat} {state : Bytes} (hstmt : s.threads t = .pushLine i state) :
      ObjectsStep s (.pushLine t i state)
        ({ s with logger := s.logger.pushLine (s.objects i).id state }.goto t .isMax)
  | isMax {t : Nat} (hstmt : s.threads t = .isMax) :
      ObjectsStep s (.isMax t) (s.goto t (if s.logger.logs.isMax then .printLatestLogs else .idle))
  | printLatestLogs {t : Nat} (hstmt : s.threads t = .printLatestLogs) :
      ObjectsStep s (.printLatestLogs t) ({ s with logger := s.logger.printLatestLogs }.goto t .idle)

theorem objectsStep_of_next [DecidableEq S] {l : ObjectsLabel S} (h : s.next l = some s') : ObjectsStep s l s' := by
  cases l with
  | call t i v =>
    obtain ⟨hidle, hs⟩ := Option.ite_none_right_eq_some.mp h
    obtain rfl := Option.some.inj hs
    split_ifs with hstate
    · exact .call hidle hstate
    · exact .same hidle (not_not.mp hstate)
  | assign t i v =>
    obtain ⟨hstmt, hs⟩ := Option.ite_none_right_eq_some.mp h
    exact Option.some.inj hs ▸ .assign hstmt
  | getStateAsString t i =>
    obtain ⟨hstmt, hs⟩ := Option.ite_none_right_eq_some.mp h
    exact Option.some.inj hs ▸ .getStateAsString hstmt
  | pushLine t i state =>
    obtain ⟨hstmt, hs⟩ := Option.ite_none_right_eq_some.mp h
    exact Option.some.inj hs ▸ .pushLine hstmt
  | isMax t =>
    obtain ⟨hstmt, hs⟩ := Option.ite_none_right_eq_some.mp h
    exact Option.some.inj hs ▸ .isMax hstmt
  | printLatestLogs t =>
    obtain ⟨hstmt, hs⟩ := Option.ite_none_right_eq_some.mp h
    exact Option.some.inj hs ▸ .printLatestLogs hstmt

theorem SameObjects.step [DecidableEq S] {l : ObjectsLabel S} (h : SameObjects objects s) (hs : ObjectsStep s l s') :
    SameObjects objects s' := by
  cases hs with
  | @assign t i v hstmt => exact ⟨(h.assign i v).id, (h.assign i v).getStateAsString⟩
  | _ => exact ⟨h.id, h.getStateAsString⟩

theorem asLogState_of_step [DecidableEq S] {l : ObjectsLabel S} (h : SameObjects objects s) (hs : ObjectsStep s l s') :
    (l.asLogLabel objects).foldlM LogState.next s.asLogState = some s'.asLogState := by
  cases hs with
  | same hidle hstate => rfl
  | call hidle hstate =>
    rw [SharedObjects.asLogState_goto_of_idle (by rw [hidle]; rfl) rfl]
    rfl
  | @assign t i v hstmt =>
    have hlog : (s.assign i v).asLogState = s.asLogState := rfl
    rw [SharedObjects.asLogState_goto_of_idle (by rw [show (s.assign i v).threads t = _ from hstmt]; rfl) rfl, hlog]
    rfl
  | getStateAsString hstmt =>
    rw [SharedObjects.asLogState_goto_of_idle (by rw [hstmt]; rfl) rfl]
    rfl
  | @pushLine t i state hstmt =>
    have hidle : s.asLogState.threads t = .idle := congrArg ObjectStmt.asLogStmt hstmt
    rw [SharedObjects.asLogState_goto]
    simp only [ObjectsLabel.asLogLabel, List.foldlM_cons, List.foldlM_nil, LogState.next, hidle, if_true, h.id i]
    rfl
  | @isMax t hstmt =>
    have hmax : s.asLogState.threads t = .isMax := congrArg ObjectStmt.asLogStmt hstmt
    rw [SharedObjects.asLogState_goto]
    simp only [ObjectsLabel.asLogLabel, List.foldlM_cons, List.foldlM_nil, LogState.next, hmax, if_true]
    show some (s.asLogState.goto t (if s.logger.logs.isMax then .printLatestLogs else .idle)) = _
    split_ifs <;> rfl
  | @printLatestLogs t hstmt =>
    have hprint : s.asLogState.threads t = .printLatestLogs := congrArg ObjectStmt.asLogStmt hstmt
    rw [SharedObjects.asLogState_goto]
    simp only [ObjectsLabel.asLogLabel, List.foldlM_cons, List.foldlM_nil, LogState.next, hprint, if_true]
    rfl

def objectsSimulation [DecidableEq S] (objects : Nat → StatefulObjectLogged S) :
    Simulation (objectsSystem objects) loggingSystem where
  abs := SharedObjects.asLogState
  trace := ObjectsLabel.asLogLabel objects
  Inv := SameObjects objects
  inv_init := ⟨fun _ => rfl, fun _ => rfl⟩
  abs_init := rfl
  inv_step := fun _ _ _ hi hl => hi.step (objectsStep_of_next hl)
  abs_step := fun _ _ _ hi hl => asLogState_of_step hi (objectsStep_of_next hl)

end Steps

/-! ## The history of one object -/

section History
variable {S : Type} [DecidableEq S]

/-- The values that change the state, when the object is set to each of them in turn. -/
def changesFrom (state : S) : List S → List S
  | [] => []
  | v :: vs => if state = v then changesFrom v vs else v :: changesFrom v vs

theorem changesFrom_concat (state v : S) (vs : List S) :
    changesFrom state (vs ++ [v]) = changesFrom state vs ++ if vs.getLast?.getD state = v then [] else [v] := by
  induction vs generalizing state with
  | nil => rfl
  | cons w vs ih =>
    have hlast : (w :: vs).getLast?.getD state = vs.getLast?.getD w := by
      cases vs with
      | nil => rfl
      | cons u vs => simp [List.getLast?_cons]
    rw [List.cons_append, changesFrom, changesFrom, ih w, hlast]
    split_ifs <;> simp

variable (objects : Nat → StatefulObjectLogged S) (i : Nat)

/-- The line that is added, with its object. -/
def ObjectsLabel.logged : ObjectsLabel S → Option (Nat × Bytes)
  | .pushLine _ j state => some (j, EventLogger.line (objects j).id state)
  | _ => none

/-- The lines of a run in the order of their critical sections, each with its object. -/
def logged (ls : List (ObjectsLabel S)) : List (Nat × Bytes) := ls.filterMap (ObjectsLabel.logged objects)

/-- The lines of one object. -/
def loggedBy (ls : List (ObjectsLabel S)) : List Bytes := ((logged objects ls).filter (·.1 = i)).map Prod.snd

def ObjectsLabel.called : ObjectsLabel S → Option S
  | .call _ j v => if j = i then some v else none
  | _ => none

/-- The values that the object was set to, oldest first. -/
def called (ls : List (ObjectsLabel S)) : List S := ls.filterMap (ObjectsLabel.called i)

namespace ObjectStmt

/-- The thread is inside `setState` of the object, in front of its line. -/
def On : ObjectStmt S → Prop
  | .assign j _ => j = i
  | .getStateAsString j => j = i
  | .pushLine j _ => j = i
  | _ => False

/-- The state that the object has when the thread has assigned. -/
def target (state : S) : ObjectStmt S → S
  | .assign j v => if j = i then v else state
  | _ => state

/-- The line that the thread still has to log. -/
def pending (object : StatefulObjectLogged S) : ObjectStmt S → List Bytes
  | .assign j v => if j = i then [EventLogger.line object.id (object.getStateAsString v)] else []
  | .getStateAsString j =>
    if j = i then [EventLogger.line object.id (object.getStateAsString object.state)] else []
  | .pushLine j state => if j = i then [EventLogger.line object.id state] else []
  | _ => []

end ObjectStmt

/-- What holds of an object that only the thread `owner` sets. -/
structure History (owner : Nat) (ls : List (ObjectsLabel S)) (s : SharedObjects S) : Prop where
  others : ∀ t ≠ owner, ¬ (s.threads t).On i
  state : (called i ls).getLast?.getD (objects i).state = (s.threads owner).target i (s.objects i).state
  lines : loggedBy objects i ls ++ (s.threads owner).pending i (s.objects i) =
    (changesFrom (objects i).state (called i ls)).map
      (fun v => EventLogger.line (objects i).id ((objects i).getStateAsString v))

variable {objects i} {owner : Nat} {ls : List (ObjectsLabel S)} {s s' : SharedObjects S} {l : ObjectsLabel S}

omit [DecidableEq S] in
theorem called_concat (ls : List (ObjectsLabel S)) (l : ObjectsLabel S) :
    called i (ls ++ [l]) = called i ls ++ (l.called i).toList := filterMap_concat _ ls l

omit [DecidableEq S] in
theorem logged_concat (ls : List (ObjectsLabel S)) (l : ObjectsLabel S) :
    logged objects (ls ++ [l]) = logged objects ls ++ (l.logged objects).toList := filterMap_concat _ ls l

omit [DecidableEq S] in
theorem loggedBy_concat (ls : List (ObjectsLabel S)) (l : ObjectsLabel S) :
    loggedBy objects i (ls ++ [l]) =
      loggedBy objects i ls ++ (((l.logged objects).toList).filter (·.1 = i)).map Prod.snd := by
  unfold loggedBy
  rw [logged_concat, List.filter_append, List.map_append]

/-- A step of another thread, which stays away from the object. -/
theorem History.of_other (h : History objects i owner ls s) {t : Nat} {b : ObjectStmt S} (ht : t ≠ owner)
    (hb : ¬ b.On i) (hthreads : s'.threads = Function.update s.threads t b)
    (hobject : s'.objects i = s.objects i) (hcalled : l.called i = none)
    (hlogged : ((l.logged objects).toList).filter (·.1 = i) = []) : History objects i owner (ls ++ [l]) s' := by
  have howner : s'.threads owner = s.threads owner := by
    rw [hthreads, Function.update_of_ne ht.symm]
  constructor
  · intro u hu
    rw [hthreads]
    by_cases hut : u = t
    · rwa [hut, Function.update_self]
    · rw [Function.update_of_ne hut]
      exact h.others u hu
  · rw [called_concat, hcalled, Option.toList_none, List.append_nil, howner, hobject]
    exact h.state
  · rw [loggedBy_concat, hlogged, List.map_nil, List.append_nil, called_concat, hcalled, Option.toList_none,
      List.append_nil, howner, hobject]
    exact h.lines

/-- A step of its own thread. -/
theorem History.of_owner (h : History objects i owner ls s) {b : ObjectStmt S}
    (hthreads : s'.threads = Function.update s.threads owner b)
    (hstate : (called i (ls ++ [l])).getLast?.getD (objects i).state = b.target i (s'.objects i).state)
    (hlines : loggedBy objects i (ls ++ [l]) ++ b.pending i (s'.objects i) =
      (changesFrom (objects i).state (called i (ls ++ [l]))).map
        (fun v => EventLogger.line (objects i).id ((objects i).getStateAsString v))) :
    History objects i owner (ls ++ [l]) s' := by
  constructor
  · intro t ht
    rw [hthreads, Function.update_of_ne ht]
    exact h.others t ht
  · rw [hthreads, Function.update_self]
    exact hstate
  · rw [hthreads, Function.update_self]
    exact hlines

/-- A step of its own thread that is no call of `setState` of it. -/
theorem History.of_quiet (h : History objects i owner ls s) {b : ObjectStmt S}
    (hthreads : s'.threads = Function.update s.threads owner b) (hcalled : l.called i = none)
    (htarget : b.target i (s'.objects i).state = (s.threads owner).target i (s.objects i).state)
    (hpending : (((l.logged objects).toList).filter (·.1 = i)).map Prod.snd ++ b.pending i (s'.objects i) =
      (s.threads owner).pending i (s.objects i)) : History objects i owner (ls ++ [l]) s' := by
  apply h.of_owner hthreads
  · rw [called_concat, hcalled, Option.toList_none, List.append_nil, htarget]
    exact h.state
  · rw [loggedBy_concat, List.append_assoc, hpending, called_concat, hcalled, Option.toList_none, List.append_nil]
    exact h.lines

/-- `setState` with the value that the object has. -/
theorem History.call_same (h : History objects i owner ls s) (hidle : s.threads owner = .idle) {v : S}
    (hv : (s.objects i).state = v) : History objects i owner (ls ++ [.call owner i v]) s := by
  have hback : s.threads = Function.update s.threads owner .idle := by rw [← hidle, Function.update_eq_self]
  have hstate := h.state
  have hlines := h.lines
  rw [hidle] at hstate hlines
  have hlast : (called i ls).getLast?.getD (objects i).state = v := hstate.trans hv
  apply h.of_owner hback
  · simpa [called_concat, ObjectsLabel.called, ObjectStmt.target] using hv.symm
  · rw [called_concat]
    simp only [ObjectsLabel.called, if_true, Option.toList_some]
    rw [changesFrom_concat, if_pos hlast, List.append_nil, ← hlines, loggedBy_concat]
    simp [ObjectsLabel.logged]

/-- `setState` with another value. -/
theorem History.call_new (h : History objects i owner ls s) (hsame : SameObjects objects s)
    (hidle : s.threads owner = .idle) {v : S} (hv : (s.objects i).state ≠ v) :
    History objects i owner (ls ++ [.call owner i v]) (s.goto owner (.assign i v)) := by
  have hstate := h.state
  have hlines := h.lines
  rw [hidle] at hstate hlines
  have hlast : (called i ls).getLast?.getD (objects i).state ≠ v := fun heq => hv (hstate.symm.trans heq)
  apply h.of_owner (b := .assign i v) rfl
  · simp [called_concat, ObjectsLabel.called, ObjectStmt.target]
  · rw [called_concat]
    simp only [ObjectsLabel.called, if_true, Option.toList_some]
    rw [changesFrom_concat, if_neg hlast, List.map_append, ← hlines, loggedBy_concat]
    simp [ObjectsLabel.logged, ObjectStmt.pending, SharedObjects.goto, hsame.id, hsame.getStateAsString]

/-- A step keeps the history of an object, if only its owner calls `setState` of it. -/
theorem History.step (h : History objects i owner ls s) (hsame : SameObjects objects s)
    (hcall : ∀ t v, l = .call t i v → t = owner) (hs : ObjectsStep s l s') : History objects i owner (ls ++ [l]) s' := by
  -- the thread that makes the step, and whether the step is about the object
  cases hs with
  | @same t j v hidle hv =>
    by_cases hj : j = i
    · subst hj
      obtain rfl := hcall t v rfl
      exact h.call_same hidle hv
    · have hback : s.threads = Function.update s.threads t .idle := by rw [← hidle, Function.update_eq_self]
      by_cases ht : t = owner
      · subst ht
        exact h.of_quiet (b := .idle) hback (if_neg hj) (by rw [hidle]) (by rw [hidle]; rfl)
      · exact h.of_other (b := .idle) ht (fun hon => hon) hback rfl (if_neg hj) rfl
  | @call t j v hidle hv =>
    by_cases hj : j = i
    · subst hj
      obtain rfl := hcall t v rfl
      exact h.call_new hsame hidle hv
    · by_cases ht : t = owner
      · subst ht
        refine h.of_quiet (b := .assign j v) rfl (if_neg hj) ?_ ?_
        · simp [hidle, ObjectStmt.target, SharedObjects.goto, hj]
        · simp [hidle, ObjectsLabel.logged, ObjectStmt.pending, hj]
      · exact h.of_other (b := .assign j v) ht hj rfl rfl (if_neg hj) rfl
  | @assign t j v hstmt =>
    by_cases ht : t = owner
    · subst ht
      refine h.of_quiet (b := .getStateAsString j) rfl rfl ?_ ?_
      · by_cases hj : j = i
        · subst hj
          simp [hstmt, ObjectStmt.target, SharedObjects.goto]
        · simp [hstmt, ObjectStmt.target, SharedObjects.goto, SharedObjects.objects_assign_other v (Ne.symm hj), hj]
      · by_cases hj : j = i
        · subst hj
          simp [hstmt, ObjectsLabel.logged, ObjectStmt.pending, SharedObjects.goto]
        · simp [hstmt, ObjectsLabel.logged, ObjectStmt.pending, hj]
    · have hj : j ≠ i := fun hj => h.others t ht (by rw [hstmt]; exact hj)
      exact h.of_other (b := .getStateAsString j) ht hj rfl (SharedObjects.objects_assign_other v (Ne.symm hj)) rfl rfl
  | @getStateAsString t j hstmt =>
    by_cases ht : t = owner
    · subst ht
      refine h.of_quiet (b := .pushLine j _) rfl rfl ?_ ?_
      · simp [hstmt, ObjectStmt.target, SharedObjects.goto]
      · by_cases hj : j = i
        · subst hj
          simp [hstmt, ObjectsLabel.logged, ObjectStmt.pending, SharedObjects.goto]
        · simp [hstmt, ObjectsLabel.logged, ObjectStmt.pending, hj]
    · have hj : j ≠ i := fun hj => h.others t ht (by rw [hstmt]; exact hj)
      exact h.of_other (b := .pushLine j _) ht hj rfl rfl rfl rfl
  | @pushLine t j state hstmt =>
    by_cases ht : t = owner
    · subst ht
      refine h.of_quiet (b := .isMax) rfl rfl ?_ ?_
      · simp [hstmt, ObjectStmt.target, SharedObjects.goto]
      · by_cases hj : j = i
        · subst hj
          simp [hstmt, ObjectsLabel.logged, ObjectStmt.pending, hsame.id]
        · simp [hstmt, ObjectsLabel.logged, ObjectStmt.pending, hj]
    · have hj : j ≠ i := fun hj => h.others t ht (by rw [hstmt]; exact hj)
      exact h.of_other (b := .isMax) ht (fun hon => hon) rfl rfl rfl (by simp [ObjectsLabel.logged, hj])
  | @isMax t hstmt =>
    have haway : ∀ b : Bool, ¬ (if b then ObjectStmt.printLatestLogs else .idle : ObjectStmt S).On i := by
      rintro (_ | _) hon <;> exact hon
    by_cases ht : t = owner
    · subst ht
      refine h.of_quiet rfl rfl ?_ ?_
      · split_ifs <;> simp [hstmt, ObjectStmt.target, SharedObjects.goto]
      · split_ifs <;> simp [hstmt, ObjectsLabel.logged, ObjectStmt.pending]
    · exact h.of_other ht (haway _) rfl rfl rfl rfl
  | @printLatestLogs t hstmt =>
    by_cases ht : t = owner
    · subst ht
      refine h.of_quiet (b := .idle) rfl rfl ?_ ?_
      · simp [hstmt, ObjectStmt.target, SharedObjects.goto]
      · simp [hstmt, ObjectsLabel.logged, ObjectStmt.pending]
    · exact h.of_other (b := .idle) ht (fun hon => hon) rfl rfl rfl rfl

theorem history_of_exec (h : (objectsSystem objects).exec ls = some s)
    (howner : ∀ t v, ObjectsLabel.call t i v ∈ ls → t = owner) : History objects i owner ls s := by
  induction ls using List.reverseRecOn generalizing s with
  | nil =>
    obtain rfl := Option.some.inj h
    exact ⟨fun _ _ hon => hon, rfl, rfl⟩
  | append_singleton ls l ih =>
    obtain ⟨s₁, hs₁, hl⟩ := (objectsSystem objects).exec_concat_eq_some.mp h
    have hbefore := ih hs₁ (fun t v hmem => howner t v (List.mem_append_left _ hmem))
    apply hbefore.step ((objectsSimulation objects).inv hs₁) _ (objectsStep_of_next hl)
    rintro t v rfl
    exact howner t v (List.mem_append_right _ List.mem_cons_self)

omit [DecidableEq S] in
theorem pushes_asLogLabel (objects : Nat → StatefulObjectLogged S) (ls : List (ObjectsLabel S)) :
    (pushes (ls.flatMap (ObjectsLabel.asLogLabel objects))).map Prod.snd = (logged objects ls).map Prod.snd := by
  induction ls using List.reverseRecOn with
  | nil => rfl
  | append_singleton ls l ih =>
    rw [List.flatMap_append, List.flatMap_singleton, logged_concat, List.map_append, ← ih]
    unfold pushes
    rw [List.filterMap_append, List.map_append]
    cases l <;> rfl

/-- **Every change is logged.** Any number of threads set any number of objects, in any interleaving of their
statements. The buffer holds the last 30 lines in the order of their critical sections; and for every object that only
one thread sets, the lines of the object, with the one that this thread still has to log if it is inside `setState`,
are its changes: each with the value that it assigned, in their order, none twice and none left out, whatever the
other threads do. -/
theorem each_change_logged (objects : Nat → StatefulObjectLogged S) (ls : List (ObjectsLabel S)) (s : SharedObjects S)
    (h : (objectsSystem objects).exec ls = some s) :
    s.logger.logs.Observed (((logged objects ls).map Prod.snd).rtake 30) ∧
      ∀ i owner, (∀ t v, ObjectsLabel.call t i v ∈ ls → t = owner) →
        loggedBy objects i ls ++ (s.threads owner).pending i (s.objects i) =
            (changesFrom (objects i).state (called i ls)).map
              (fun v => EventLogger.line (objects i).id ((objects i).getStateAsString v)) ∧
          (called i ls).getLast?.getD (objects i).state = (s.threads owner).target i (s.objects i).state := by
  refine ⟨?_, fun i owner howner => ?_⟩
  · have hlog := logging_of_exec ((objectsSimulation objects).exec h)
    have hobs := hlog.observed
    rw [show (objectsSimulation objects).trace = ObjectsLabel.asLogLabel objects from rfl, pushes_asLogLabel] at hobs
    exact hobs
  · have hhistory := history_of_exec h howner
    exact ⟨hhistory.lines, hhistory.state⟩

end History

/-- An MQTT manager with its one thread, and a Wi-Fi manager that two threads set. -/
def twoManagers : Nat → StatefulObjectLogged Bool := fun i =>
  ⟨if i = 0 then ascii "MqttManager" else ascii "WifiManager", false,
    fun connected => if connected then ascii "CONNECTED" else ascii "DISCONNECTED"⟩

/-- Threads 2 and 3 overtake each other; the line of thread 1 is not touched by that. -/
theorem each_change_logged_two_managers :
    let run : List (ObjectsLabel Bool) := [.call 2 1 true, .call 1 0 true, .assign 2 1 true, .call 3 1 false,
      .assign 1 0 true, .assign 3 1 false, .getStateAsString 2 1, .getStateAsString 1 0,
      .pushLine 2 1 (ascii "DISCONNECTED"), .pushLine 1 0 (ascii "CONNECTED"), .isMax 1]
    ∃ s, (objectsSystem twoManagers).exec run = some s ∧
      loggedBy twoManagers 0 run ++ (s.threads 1).pending 0 (s.objects 0) =
        [EventLogger.line (ascii "MqttManager") (ascii "CONNECTED")] := by
  intro run
  have hrun : ((objectsSystem twoManagers).exec run).isSome = true := by decide
  obtain ⟨s, hs⟩ := Option.isSome_iff_exists.mp hrun
  refine ⟨s, hs, ?_⟩
  exact ((each_change_logged twoManagers run s hs).2 0 1 (by simp [run])).1

end MultisensorStation.Logger
