import EvServer.Lib.Runs
import Mathlib.Data.Fintype.Basic

/-!
# The connections of the charging stations (`JsonCentralSystemServer`)

The server keeps one connection for a charging station, under the ID of the station.  A
WebSocket that opens looks for one that is there already, closes it, and then registers
itself; between these steps others may open and close.  A WebSocket that is closed
removes what is registered for its station, whether it is its own connection or not.

`Reaches` says that a station with a live registered WebSocket is reached through a live
one.  A step breaks it just when a WebSocket that has been closed while it was being
opened takes the place of a live one, or when a registered WebSocket is closed that is
not the last live one of its station.
-/

namespace EvServer

namespace JsonCentralSystemServer

variable {W K : Type}

/-- Where a WebSocket stands in `onOpen`. -/
inductive OpenPc (W : Type)
  /-- Not opened yet. -/
  | idle
  /-- `initialize` is under way. -/
  | initializing
  /-- `checkWSConnectionAlreadyExists` is going to close the existing WebSocket. -/
  | replacing (existingWSWrapper : W)
  /-- `checkWSConnectionAlreadyExists` comes back. -/
  | registering
  | done
  deriving DecidableEq, Repr

/-- The WebSockets of a server, and the map from the IDs of stations to connections.  A
WebSocket is registered once its `jsonWSConnection` is set, and stays so. -/
structure Registry (W K : Type) where
  closed : W → Bool := fun _ => false
  registered : W → Bool := fun _ => false
  jsonWSConnections : K → Option W := fun _ => none

/-- The registry, and where the WebSockets stand. -/
structure Connections (W K : Type) where
  registry : Registry W K := {}
  pc : W → OpenPc W := fun _ => .idle

/-- What happens to the WebSockets; `ping` says whether a WebSocket that is not closed can be
pinged. -/
inductive WSEvent (W K : Type)
  | open (wsWrapper : W)
  | initialized (wsWrapper : W) (ping : Bool)
  | initializeFails (wsWrapper : W)
  | replace (wsWrapper : W)
  | register (wsWrapper : W)
  /-- The close event, or a message that finds no connection. -/
  | close (wsWrapper : W)
  /-- The turn of `checkAndCleanupWebSockets` for a station. -/
  | cleanup (id : K) (ping : Bool)
  deriving DecidableEq, Repr

namespace Registry

variable [DecidableEq W] [DecidableEq K] (getID : W → K)

/-- The WebSocket is registered and not closed. -/
def IsLive (s : Registry W K) (wsWrapper : W) : Prop :=
  s.registered wsWrapper = true ∧ s.closed wsWrapper = false

/-- `closeWebSocket`; `ws.end` calls the close handler at once, which finds nothing left to
do. -/
def closeWebSocket (s : Registry W K) (wsWrapper : W) : Registry W K :=
  { s with
    closed := Function.update s.closed wsWrapper true
    jsonWSConnections :=
      if s.registered wsWrapper then
        Function.update s.jsonWSConnections (getID wsWrapper) none
      else s.jsonWSConnections }

/-- `setJsonWSConnection`, and the connection in the wrapper. -/
def setJsonWSConnection (s : Registry W K) (wsWrapper : W) : Registry W K :=
  { s with
    registered := Function.update s.registered wsWrapper true
    jsonWSConnections := Function.update s.jsonWSConnections (getID wsWrapper) (some wsWrapper) }

/-- The WebSocket of the station that is not closed yet, if any. -/
def existing (s : Registry W K) (wsWrapper : W) : Option W :=
  (s.jsonWSConnections (getID wsWrapper)).filter fun existingWSWrapper =>
    !s.closed existingWSWrapper

end Registry

namespace Connections

variable [DecidableEq W] [DecidableEq K] (getID : W → K)

/-- The WebSocket that an event closes. -/
def closing (s : Connections W K) : WSEvent W K → Option W
  | .initialized wsWrapper ping =>
      if s.registry.closed wsWrapper || ping then none else s.registry.existing getID wsWrapper
  | .initializeFails wsWrapper => some wsWrapper
  | .replace wsWrapper =>
      match s.pc wsWrapper with
      | .replacing existingWSWrapper => some existingWSWrapper
      | _ => none
  | .close wsWrapper => some wsWrapper
  | .cleanup id ping =>
      (s.registry.jsonWSConnections id).filter fun wsWrapper =>
        s.registry.closed wsWrapper || !ping
  | _ => none

/-- The registry after an event. -/
def registryAfter (s : Connections W K) (event : WSEvent W K) : Registry W K :=
  match event with
  | .register wsWrapper => s.registry.setJsonWSConnection getID wsWrapper
  | event =>
      ((s.closing getID event).map (s.registry.closeWebSocket getID)).getD s.registry

/-- Where the WebSocket of an event stands after it; `none` when it cannot happen. -/
def pcAfter (s : Connections W K) : WSEvent W K → Option (W → OpenPc W)
  | .open wsWrapper =>
      if s.pc wsWrapper = .idle then some (Function.update s.pc wsWrapper .initializing) else none
  | .initialized wsWrapper ping =>
      if s.pc wsWrapper = .initializing then
        some (Function.update s.pc wsWrapper
          -- Check if WS is still opened
          (if s.registry.closed wsWrapper then .done
          else
            match s.registry.existing getID wsWrapper with
            | some existingWSWrapper =>
                -- Close the old WS and keep the new incoming one
                if ping then .replacing existingWSWrapper else .registering
            | none => .registering))
      else none
  | .initializeFails wsWrapper =>
      if s.pc wsWrapper = .initializing then some (Function.update s.pc wsWrapper .done) else none
  | .replace wsWrapper =>
      match s.pc wsWrapper with
      | .replacing _ => some (Function.update s.pc wsWrapper .registering)
      | _ => none
  | .register wsWrapper =>
      if s.pc wsWrapper = .registering then some (Function.update s.pc wsWrapper .done) else none
  | .close wsWrapper => if s.pc wsWrapper = .idle then none else some s.pc
  | .cleanup _ _ => some s.pc

/-- The state after an event; `none` when it cannot happen. -/
def next (s : Connections W K) (event : WSEvent W K) : Option (Connections W K) :=
  (s.pcAfter getID event).map fun pc => ⟨s.registryAfter getID event, pc⟩

/-- A step of the server. -/
def Step (s : Connections W K) (event : WSEvent W K) (s' : Connections W K) : Prop :=
  s.next getID event = some s'

end Connections

/-! ## What a step does -/

namespace Registry

variable (getID : W → K)

/-- A station with a live registered WebSocket is reached through a live one. -/
def Reaches (s : Registry W K) : Prop :=
  ∀ w, s.IsLive w → ∃ w', s.jsonWSConnections (getID w) = some w' ∧ s.IsLive w'

/-- No other live WebSocket of its station is registered. -/
def IsLast (s : Registry W K) (w : W) : Prop :=
  ∀ w', s.IsLive w' → w' ≠ w → getID w' ≠ getID w

/-- What is kept for a station is a registered WebSocket of the station. -/
def Files (s : Registry W K) : Prop :=
  ∀ id w, s.jsonWSConnections id = some w → s.registered w = true ∧ getID w = id

variable [DecidableEq W] [DecidableEq K] {getID} {s : Registry W K} {w w' : W} {id : K}

theorem isLive_closeWebSocket :
    (s.closeWebSocket getID w).IsLive w' ↔ s.IsLive w' ∧ w' ≠ w := by
  unfold IsLive closeWebSocket
  rcases eq_or_ne w' w with rfl | other
  · simp
  · simp [other]

theorem isLive_setJsonWSConnection :
    (s.setJsonWSConnection getID w).IsLive w' ↔ s.IsLive w' ∨ w' = w ∧ s.closed w = false := by
  unfold IsLive setJsonWSConnection
  rcases eq_or_ne w' w with rfl | other
  · simp
  · simp [other]

theorem Files.closeWebSocket (files : s.Files getID) :
    (s.closeWebSocket getID w).Files getID := by
  intro id w' kept
  refine files id w' ?_
  unfold Registry.closeWebSocket at kept
  dsimp only at kept
  split at kept
  · rcases eq_or_ne id (getID w) with rfl | other
    · rw [Function.update_self] at kept
      cases kept
    · rwa [Function.update_of_ne other] at kept
  · exact kept

theorem Files.setJsonWSConnection (files : s.Files getID) :
    (s.setJsonWSConnection getID w).Files getID := by
  intro id w' kept
  unfold Registry.setJsonWSConnection at kept ⊢
  dsimp only at kept ⊢
  rcases eq_or_ne id (getID w) with rfl | other
  · rw [Function.update_self, Option.some.injEq] at kept
    rw [← kept, Function.update_self]
    exact ⟨rfl, rfl⟩
  · rw [Function.update_of_ne other] at kept
    obtain ⟨registered, same⟩ := files id w' kept
    refine ⟨?_, same⟩
    rw [Function.update_apply, registered, ite_self]

/-- **A WebSocket is closed.**  The stations stay reached just when it is not registered, or is
the last live one of its station. -/
theorem reaches_closeWebSocket_iff (files : s.Files getID) (reaches : s.Reaches getID) :
    (s.closeWebSocket getID w).Reaches getID ↔
      (s.registered w = true → s.IsLast getID w) := by
  constructor
  · intro after registered w' live other same
    obtain ⟨kept, hkept, -⟩ := after w' (isLive_closeWebSocket.mpr ⟨live, other⟩)
    unfold Registry.closeWebSocket at hkept
    dsimp only at hkept
    rw [if_pos registered, same, Function.update_self] at hkept
    cases hkept
  · intro last w' live
    obtain ⟨live, other⟩ := isLive_closeWebSocket.mp live
    obtain ⟨kept, hkept, keptLive⟩ := reaches w' live
    obtain ⟨registered, same⟩ := files _ _ hkept
    by_cases isRegistered : s.registered w
    · have elsewhere := last isRegistered w' live other
      refine ⟨kept, ?_, isLive_closeWebSocket.mpr ⟨keptLive, ?_⟩⟩
      · unfold Registry.closeWebSocket
        rw [if_pos isRegistered]
        exact (Function.update_of_ne elsewhere _ _).trans hkept
      · rintro rfl
        exact elsewhere same.symm
    · refine ⟨kept, ?_, isLive_closeWebSocket.mpr ⟨keptLive, ?_⟩⟩
      · unfold Registry.closeWebSocket
        rw [if_neg isRegistered]
        exact hkept
      · rintro rfl
        exact isRegistered registered

/-- **A WebSocket registers.**  The stations stay reached just when it is still open, or none
of its station is live. -/
theorem reaches_setJsonWSConnection_iff (reaches : s.Reaches getID) :
    (s.setJsonWSConnection getID w).Reaches getID ↔
      (s.closed w = true → s.IsLast getID w) := by
  constructor
  · intro after isClosed w' live _ same
    obtain ⟨kept, hkept, keptLive⟩ := after w' (isLive_setJsonWSConnection.mpr (.inl live))
    unfold Registry.setJsonWSConnection at hkept
    dsimp only at hkept
    rw [same, Function.update_self, Option.some.injEq] at hkept
    rw [← hkept] at keptLive
    have isOpen : s.closed w = false := keptLive.2
    rw [isClosed] at isOpen
    cases isOpen
  · intro takes w' live
    by_cases same : getID w' = getID w
    · have isOpen : s.closed w = false := by
        rcases isLive_setJsonWSConnection.mp live with old | ⟨-, isOpen⟩
        · by_contra isClosed
          have isClosed : s.closed w = true := by simpa using isClosed
          refine takes isClosed w' old ?_ same
          rintro rfl
          rw [old.2] at isClosed
          cases isClosed
        · exact isOpen
      refine ⟨w, ?_, isLive_setJsonWSConnection.mpr (.inr ⟨rfl, isOpen⟩)⟩
      rw [same]
      exact Function.update_self ..
    · have live : s.IsLive w' := by
        rcases isLive_setJsonWSConnection.mp live with live | ⟨rfl, -⟩
        · exact live
        · exact absurd rfl same
      obtain ⟨kept, hkept, keptLive⟩ := reaches w' live
      exact ⟨kept, (Function.update_of_ne same _ _).trans hkept,
        isLive_setJsonWSConnection.mpr (.inl keptLive)⟩

end Registry

namespace Connections

variable [DecidableEq W] [DecidableEq K] {getID : W → K}
variable {s s' : Connections W K} {event : WSEvent W K}

/-- **The condition** on a step.  A WebSocket that registers is still open, or no live one of
its station is registered; and a registered WebSocket that is closed leaves no other live
one of its station behind. -/
def KeepsReached (getID : W → K) (s : Connections W K) (event : WSEvent W K) : Prop :=
  (∀ w, event = .register w → s.registry.closed w = true → s.registry.IsLast getID w) ∧
    ∀ w ∈ s.closing getID event, s.registry.registered w = true → s.registry.IsLast getID w

theorem registry_of_step (step : s.Step getID event s') :
    s'.registry = s.registryAfter getID event := by
  obtain ⟨pc, -, rfl⟩ := Option.map_eq_some_iff.mp step
  rfl

/-- An event that registers no WebSocket does nothing but close one, if any. -/
theorem registryAfter_of_ne (registersNot : ∀ w, event ≠ .register w) :
    s.registryAfter getID event =
      ((s.closing getID event).map (s.registry.closeWebSocket getID)).getD s.registry := by
  cases event with
  | register w => exact absurd rfl (registersNot w)
  | «open» | initialized | initializeFails | replace | close | cleanup => rfl

theorem files_step (files : s.registry.Files getID) (step : s.Step getID event s') :
    s'.registry.Files getID := by
  rw [registry_of_step step]
  by_cases registers : ∃ w, event = .register w
  · obtain ⟨w, rfl⟩ := registers
    exact files.setJsonWSConnection
  · rw [registryAfter_of_ne (not_exists.mp registers)]
    cases s.closing getID event with
    | none => exact files
    | some w => exact files.closeWebSocket

/-- **One step.**  The stations stay reached just when the step meets the condition. -/
theorem reaches_step_iff (files : s.registry.Files getID) (reaches : s.registry.Reaches getID)
    (step : s.Step getID event s') :
    s'.registry.Reaches getID ↔ s.KeepsReached getID event := by
  rw [registry_of_step step]
  by_cases registers : ∃ w, event = .register w
  · obtain ⟨w, rfl⟩ := registers
    rw [show s.registryAfter getID (.register w) = s.registry.setJsonWSConnection getID w from rfl,
      Registry.reaches_setJsonWSConnection_iff reaches]
    constructor
    · intro takes
      refine ⟨fun w' same => ?_, fun w' closes => ?_⟩
      · cases same
        exact takes
      · cases closes
    · intro keeps
      exact keeps.1 w rfl
  · have registersNot := not_exists.mp registers
    rw [registryAfter_of_ne registersNot]
    unfold KeepsReached
    cases hclosing : s.closing getID event with
    | none =>
        refine iff_of_true reaches ⟨fun w same => absurd same (registersNot w), fun w closes => ?_⟩
        cases closes
    | some w =>
        refine (Registry.reaches_closeWebSocket_iff files reaches).trans ⟨fun last => ?_, ?_⟩
        · refine ⟨fun w same => absurd same (registersNot w), fun w' closes => ?_⟩
          cases closes
          exact last
        · intro keeps
          exact keeps.2 w rfl

/-- **The stations are reached.**  In every run whose steps meet the condition, a station that
has a live registered WebSocket is reached through a live one; and the next step keeps it
so just when it meets the condition. -/
theorem reaches_of_run {events : List (WSEvent W K)}
    (run : Transition.Run (Transition.guarded (KeepsReached getID) (Step getID)) {} events s) :
    s.registry.Reaches getID ∧ ∀ event s', s.Step getID event s' →
      (s'.registry.Reaches getID ↔ s.KeepsReached getID event) := by
  have inv : s.registry.Files getID ∧ s.registry.Reaches getID := by
    refine run.invariant (I := fun s => s.registry.Files getID ∧ s.registry.Reaches getID)
      ⟨?_, ?_⟩ ?_
    · intro id w kept
      cases kept
    · rintro w ⟨registered, -⟩
      cases registered
    intro s event s' inv step
    exact ⟨files_step inv.1 step.2, (reaches_step_iff inv.1 inv.2 step.2).mpr step.1⟩
  exact ⟨inv.2, fun event s' step => reaches_step_iff inv.1 inv.2 step⟩

/-! ## Two WebSockets of one station -/

instance [Fintype W] (s : Registry W K) (w : W) : Decidable (s.IsLast getID w) :=
  inferInstanceAs (Decidable (∀ w', s.registered w' = true ∧ s.closed w' = false → w' ≠ w →
    getID w' ≠ getID w))

instance [Fintype W] (s : Connections W K) (event : WSEvent W K) :
    Decidable (s.KeepsReached getID event) :=
  inferInstanceAs (Decidable ((∀ w, event = .register w → _) ∧
    ∀ w ∈ s.closing getID event, _))

/-- The first WebSocket opens; then the second one does, and replaces it. -/
def exampleReplacement : List (WSEvent (Fin 2) Unit) :=
  [.open 0, .initialized 0 true, .register 0, .cleanup () true,
    .open 1, .initialized 1 true, .replace 1, .register 1]

/-- One after the other, they keep the station reached. -/
theorem reaches_of_run_replacement :
    ∃ s : Connections (Fin 2) Unit,
      Transition.Run (Transition.guarded (KeepsReached fun _ => ()) (Step fun _ => ())) {}
        exampleReplacement s ∧
      s.registry.jsonWSConnections () = some 1 ∧ s.registry.Reaches fun _ => () := by
  have reached : (Transition.follow (next fun _ => ())
      (fun s event _ => s.KeepsReached (fun _ => ()) event) ({} : Connections (Fin 2) Unit)
      exampleReplacement).map (fun s => s.registry.jsonWSConnections ()) = some (some 1) := by
    decide +kernel
  obtain ⟨s, hs, kept⟩ := Option.map_eq_some_iff.mp reached
  have run : Transition.Run (Transition.guarded (KeepsReached fun _ => ()) (Step fun _ => ())) {}
      exampleReplacement s :=
    .of_follow (fun _ _ _ computed admitted => ⟨admitted, computed⟩) hs
  exact ⟨s, run, kept, (reaches_of_run run).1⟩

/-- Both open at once, so neither finds the other; then the first one closes.  The second one
is live and registered, and the station has no connection. -/
theorem not_reaches_after_close :
    ∃ s : Connections (Fin 2) Unit,
      Transition.Run (Step fun _ => ()) {}
        [.open 0, .open 1, .initialized 0 true, .initialized 1 true, .register 0, .register 1,
          .close 0] s ∧
      s.registry.IsLive 1 ∧ s.registry.jsonWSConnections () = none := by
  have reached : (Transition.follow (next fun _ => ()) (fun _ _ _ => True)
      ({} : Connections (Fin 2) Unit)
      [.open 0, .open 1, .initialized 0 true, .initialized 1 true, .register 0, .register 1,
        .close 0]).map (fun s => (s.registry.registered 1, s.registry.closed 1,
          s.registry.jsonWSConnections ())) = some (true, false, none) := by
    decide +kernel
  obtain ⟨s, hs, holds⟩ := Option.map_eq_some_iff.mp reached
  rw [Prod.mk.injEq, Prod.mk.injEq] at holds
  exact ⟨s, .of_follow (fun _ _ _ computed _ => computed) hs, ⟨holds.1, holds.2.1⟩, holds.2.2⟩

end Connections

end JsonCentralSystemServer

end EvServer
