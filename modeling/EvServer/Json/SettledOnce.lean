import EvServer.Json.CallPromises

/-!
# A call is settled once

What a step does to the promise of a CALL is what the event is to it, as long as nothing has
been settled; so at the end of a run the CALL has been settled with the first such event.  The
answers that are sent are counted against the CALLs that are received.
-/

namespace EvServer

namespace WSConnection

variable {J : Type} {stringify : Frame J → String} {tenantSubdomain : String}
variable {s s' : State J} {event : Event J} {events : List (Event J)}

namespace State

/-! ## What a step does to a promise -/

namespace Effect

/-- A promise stays, but for what has become of it. -/
theorem kept (effect : Effect stringify tenantSubdomain s s' event) {n : ℕ} {promise : Promise J}
    (isPromise : s.promises[n]? = some promise) :
    ∃ promise' : Promise J, s'.promises[n]? = some promise' ∧
      promise'.messageID = promise.messageID ∧ promise'.content = promise.content ∧
      promise'.messageToSend = promise.messageToSend := by
  cases effect with
  | calls _ promises =>
      rw [promises, getElem?_concat_eq_some.mpr (.inl isPromise)]
      exact ⟨promise, rfl, rfl, rfl, rfl⟩
  | answers _ _ _ promises =>
      rw [promises, getElem?_concat_eq_some.mpr (.inl isPromise)]
      exact ⟨promise, rfl, rfl, rfl, rfl⟩
  | settles _ pending _ _ promises =>
      rw [promises, List.getElem?_set]
      split
      next same =>
        subst same
        obtain rfl := Option.some.inj (pending.1.symm.trans isPromise)
        rw [if_pos (List.getElem?_eq_some_iff.mp isPromise).1]
        exact ⟨_, rfl, rfl, rfl, rfl⟩
      next => exact ⟨promise, isPromise, rfl, rfl, rfl⟩
  | passes _ _ promises =>
      rw [promises]
      exact ⟨promise, isPromise, rfl, rfl, rfl⟩

/-- A message that is sent makes a promise. -/
theorem length (effect : Effect stringify tenantSubdomain s s' event) :
    s'.promises.length = s.promises.length + if event.sends then 1 else 0 := by
  cases effect with
  | calls _ promises =>
      rw [promises]
      exact List.length_append
  | answers _ _ _ promises =>
      rw [promises]
      exact List.length_append
  | settles sends _ _ _ promises =>
      rw [promises, List.length_set, sends]
      rfl
  | passes sends _ promises =>
      rw [promises, sends]
      rfl

/-- The promise of a CALL was there, or the CALL is sent. -/
theorem made (effect : Effect stringify tenantSubdomain s s' event) {n : ℕ} {promise : Promise J}
    {command : String} {data : J} (isPromise : s'.promises[n]? = some promise)
    (isCall : promise.content = .call command data) :
    (∃ promise' : Promise J, s.promises[n]? = some promise' ∧
      promise'.messageID = promise.messageID ∧ promise'.content = promise.content) ∨
    n = s.promises.length ∧ ∃ sending, event = .call promise.messageID command data sending := by
  cases effect with
  | calls _ promises =>
      rw [promises, getElem?_concat_eq_some] at isPromise
      rcases isPromise with old | ⟨rfl, rfl⟩
      · exact .inl ⟨promise, old, rfl, rfl⟩
      · cases isCall
        exact .inr ⟨rfl, _, rfl⟩
  | answers isAnswer _ _ promises =>
      rw [promises, getElem?_concat_eq_some] at isPromise
      rcases isPromise with old | ⟨rfl, rfl⟩
      · exact .inl ⟨promise, old, rfl, rfl⟩
      · rw [isCall] at isAnswer
        cases isAnswer
  | settles _ pending _ _ promises =>
      rw [promises, List.getElem?_set] at isPromise
      split at isPromise
      next same =>
        subst same
        obtain ⟨_, ⟨⟩⟩ := Option.ite_none_right_eq_some.mp isPromise
        exact .inl ⟨_, pending.1, rfl, rfl⟩
      next => exact .inl ⟨promise, isPromise, rfl, rfl⟩
  | passes _ _ promises =>
      rw [promises] at isPromise
      exact .inl ⟨promise, isPromise, rfl, rfl⟩

/-- **What an event does to a CALL**: it settles it, if it is something to the CALL and nothing
has been before. -/
theorem settlementsOf_eq (effect : Effect stringify tenantSubdomain s s' event) (inv : s.Sound)
    {n : ℕ} {promise : Promise J} {command : String} {data : J}
    (isPromise : s.promises[n]? = some promise) (isCall : promise.content = .call command data) :
    s'.settlementsOf n =
      if s.settlementsOf n = [] then
        (event.settlement tenantSubdomain n promise.messageID command
          promise.messageToSend).toList
      else s.settlementsOf n := by
  have pending : s.settlementsOf n = [] → s.Pending n promise command := fun none =>
    ⟨isPromise, ⟨data, isCall⟩, (inv.processed n promise isPromise).mp none⟩
  have unchanged : event.settlement tenantSubdomain n promise.messageID command
      promise.messageToSend = none ∨ s.settlementsOf n ≠ [] →
      s'.settlementsOf n = s.settlementsOf n → s'.settlementsOf n =
        if s.settlementsOf n = [] then
          (event.settlement tenantSubdomain n promise.messageID command
            promise.messageToSend).toList
        else s.settlementsOf n := by
    intro nothing same
    split
    next none =>
      rw [same, none, nothing.resolve_right (not_not_intro none)]
      rfl
    next => exact same
  cases effect with
  | calls _ _ _ settled => exact unchanged (.inl rfl) (settlementsOf_congr settled n)
  | answers _ _ _ _ _ settled =>
      refine unchanged (.inl rfl) ?_
      have inside := (List.getElem?_eq_some_iff.mp isPromise).1
      rw [settlementsOf_concat settled, if_neg (Nat.ne_of_gt inside), List.append_nil]
  | @settles _ k promise' command' settlement _ waits own others _ _ settled =>
      rcases eq_or_ne n k with rfl | other
      · obtain rfl := Option.some.inj (waits.1.symm.trans isPromise)
        obtain ⟨_, isCall'⟩ := waits.2.1
        cases isCall.symm.trans isCall'
        have none := (inv.processed n _ isPromise).mpr waits.2.2
        rw [settlementsOf_concat settled, if_pos rfl, if_pos none, none, own]
        rfl
      · refine unchanged ?_ ?_
        · rw [or_iff_not_imp_right]
          exact fun none => others n promise command (pending (not_not.mp none)) other
        · rw [settlementsOf_concat settled, if_neg (Ne.symm other), List.append_nil]
  | passes _ nothing _ _ settled =>
      refine unchanged ?_ (settlementsOf_congr settled n)
      rw [or_iff_not_imp_right]
      exact fun none => nothing n promise command (pending (not_not.mp none))

end Effect

end State

/-! ## The promises and the events of a run -/

/-- One more event. -/
theorem called_concat {n : ℕ} {messageID command : String} {data : J} {after : List (Event J)} :
    Called (events ++ [event]) n messageID command data after ↔
      (∃ after', Called events n messageID command data after' ∧ after = after' ++ [event]) ∨
      (n = events.countP Event.sends ∧ after = [] ∧
        ∃ sending, event = .call messageID command data sending) := by
  constructor
  · rintro ⟨before, sending, split, counted⟩
    rcases List.eq_nil_or_concat after with rfl | ⟨after', last, rfl⟩
    · obtain ⟨rfl, same⟩ := List.append_inj' split rfl
      cases same
      exact .inr ⟨counted.symm, rfl, sending, rfl⟩
    · rw [List.concat_eq_append] at split ⊢
      rw [← List.cons_append, ← List.append_assoc] at split
      obtain ⟨rfl, same⟩ := List.append_inj' split rfl
      cases same
      exact .inl ⟨after', ⟨before, sending, rfl, counted⟩, rfl⟩
  · rintro (⟨after', ⟨before, sending, rfl, counted⟩, rfl⟩ | ⟨rfl, rfl, sending, rfl⟩)
    · exact ⟨before, sending, List.append_assoc .., counted⟩
    · exact ⟨events, sending, rfl, rfl⟩

/-- The promises are those of the events. -/
structure Tracks (stringify : Frame J → String) (tenantSubdomain : String)
    (events : List (Event J)) (s : State J) : Prop where
  sound : s.Sound
  length : s.promises.length = events.countP Event.sends
  calls : ∀ n messageID command data after, Called events n messageID command data after →
    ∃ promise : Promise J, s.promises[n]? = some promise ∧ promise.messageID = messageID ∧
      promise.content = .call command data ∧
      promise.messageToSend = stringify (.call messageID command data) ∧
      s.settlementsOf n = (after.findSome? (Event.settlement tenantSubdomain n messageID command
        (stringify (.call messageID command data)))).toList
  called : ∀ n promise command data, s.promises[n]? = some promise →
    promise.content = .call command data →
    ∃ after, Called events n promise.messageID command data after

theorem Tracks.start : Tracks stringify tenantSubdomain [] ({} : State J) where
  sound :=
    { processed := nofun
      made := fun _ _ => rfl
      timer := nofun
      waits := nofun
      pending := fun _ _ _ => iff_of_false nofun fun ⟨_, ⟨isPromise, _⟩, _⟩ => nomatch isPromise }
  length := rfl
  calls := by
    rintro n messageID command data after ⟨before, sending, split, _⟩
    exact absurd split.symm (List.append_ne_nil_of_right_ne_nil before (List.cons_ne_nil _ _))
  called := nofun

/-- What has been found among the events, and the next one. -/
theorem toList_findSome?_concat {f : Event J → Option (Settlement J)} {after : List (Event J)} :
    ((after ++ [event]).findSome? f).toList =
      if (after.findSome? f).toList = [] then (f event).toList
      else (after.findSome? f).toList := by
  rw [List.findSome?_append, List.findSome?_singleton]
  cases after.findSome? f with
  | none => rfl
  | some settlement => rfl

/-- **One more step.** -/
theorem Tracks.step (tracks : Tracks stringify tenantSubdomain events s)
    (distinct : s.DistinctIds event) (clear : s.ClearOfPending event)
    (step : s.Step stringify tenantSubdomain event s') :
    Tracks stringify tenantSubdomain (events ++ [event]) s' := by
  have effect := State.next_spec tracks.sound distinct clear step
  refine ⟨tracks.sound.step effect, ?_, ?_, ?_⟩
  · rw [effect.length, tracks.length, List.countP_append, List.countP_singleton]
  · intro n messageID command data after called
    rcases called_concat.mp called with ⟨after', called', rfl⟩ | ⟨rfl, rfl, sending, rfl⟩
    · obtain ⟨promise, isPromise, rfl, isCall, sent, settled⟩ :=
        tracks.calls n messageID command data after' called'
      obtain ⟨promise', isPromise', sameID, sameContent, sameMessage⟩ := effect.kept isPromise
      refine ⟨promise', isPromise', sameID, sameContent.trans isCall, sameMessage.trans sent, ?_⟩
      rw [effect.settlementsOf_eq tracks.sound isPromise isCall, toList_findSome?_concat, ← settled,
        sent]
    · rw [← tracks.length]
      cases effect with
      | calls _ promises _ settled =>
          refine ⟨_, promises ▸ List.getElem?_concat_length, rfl, rfl, rfl, ?_⟩
          rw [State.settlementsOf_congr settled]
          exact tracks.sound.made _ (Nat.le_refl _)
      | settles sends => cases sends
      | passes sends => cases sends
  · intro n promise command data isPromise isCall
    rcases effect.made isPromise isCall with ⟨promise', old, sameID, sameContent⟩ | ⟨rfl, new⟩
    · obtain ⟨after, called⟩ := tracks.called n promise' command data old (sameContent.trans isCall)
      rw [sameID] at called
      exact ⟨after ++ [event], called_concat.mpr (.inl ⟨after, called, rfl⟩)⟩
    · exact ⟨[], called_concat.mpr (.inr ⟨tracks.length, rfl, new⟩)⟩

/-! ## The answers -/

/-- Settling a promise sends nothing. -/
theorem State.settle_frame {n : ℕ} {settlement : Settlement J} :
    (s.settle n settlement).sent = s.sent ∧ (s.settle n settlement).requests = s.requests := by
  unfold State.settle
  split
  · split <;> exact ⟨rfl, rfl⟩
  · exact ⟨rfl, rfl⟩

/-- A message is handed to the socket. -/
theorem State.sendMessage_frame {messageID : String} {content : Content J} {sending : Sending} :
    (s.sendMessage stringify messageID content sending).sent =
        s.sent ++ [content.frame messageID] ∧
      (s.sendMessage stringify messageID content sending).requests = s.requests := by
  unfold State.sendMessage
  split
  · exact ⟨rfl, rfl⟩
  · exact State.settle_frame

/-- A CALL is answered once. -/
theorem State.answer_frame {messageID : String} {outcome : Except (OCPPError J) J}
    {sending : Sending} :
    (∃ frame : Frame J, (∀ id, frame.answers id = decide (messageID = id)) ∧
      (s.answer stringify messageID outcome sending).sent = s.sent ++ [frame]) ∧
    (s.answer stringify messageID outcome sending).requests = s.requests := by
  cases outcome with
  | ok result =>
      obtain ⟨sent, requests⟩ := @State.sendMessage_frame J stringify s messageID
        (.callResult result) sending
      exact ⟨⟨_, fun _ => rfl, sent⟩, requests⟩
  | error error =>
      obtain ⟨sent, requests⟩ := @State.sendMessage_frame J stringify s messageID
        (.callError error) sending
      exact ⟨⟨_, fun _ => rfl, sent⟩, requests⟩

/-- **The answers after a step.** -/
theorem answered_step {messageID : String} {received : ℕ}
    (answered : s.sent.countP (Frame.answers messageID) +
      s.requests.countP (IncomingCall.waits messageID) = received)
    (step : s.Step stringify tenantSubdomain event s') :
    s'.sent.countP (Frame.answers messageID) +
      s'.requests.countP (IncomingCall.waits messageID) =
        received + if event.arrives messageID then 1 else 0 := by
  have unchanged : s'.sent = s.sent ∧ s'.requests = s.requests → event.arrives messageID = false →
      s'.sent.countP (Frame.answers messageID) +
        s'.requests.countP (IncomingCall.waits messageID) =
          received + if event.arrives messageID then 1 else 0 := by
    rintro ⟨sent, requests⟩ other
    rw [sent, requests, answered, other]
    rfl
  unfold State.Step at step
  cases event with
  | call id command data sending =>
      cases step
      obtain ⟨sent, requests⟩ := @State.sendMessage_frame J stringify s id (.call command data)
        sending
      rw [sent, requests, List.countP_append, List.countP_singleton, ← answered]
      rfl
  | received message ocppMessage =>
      cases step
      cases ocppMessage with
      | call id command commandPayload =>
          change s.sent.countP _ + (s.requests ++ [_]).countP _ = _
          rw [List.countP_append, List.countP_singleton, ← Nat.add_assoc, answered]
          rfl
      | callResult id commandPayload =>
          refine unchanged ?_ rfl
          rw [State.receivedMessage]
          split
          · exact State.settle_frame
          · exact ⟨rfl, rfl⟩
      | callError id commandPayload errorDetails =>
          refine unchanged ?_ rfl
          rw [State.receivedMessage]
          split
          · exact State.settle_frame
          · exact ⟨rfl, rfl⟩
      | other messageType id => exact unchanged ⟨rfl, rfl⟩ rfl
  | handled n outcome sending =>
      obtain ⟨request, found, rfl⟩ := Option.map_eq_some_iff.mp step
      obtain ⟨isRequest, waits⟩ := Option.filter_eq_some_iff.mp found
      obtain ⟨inside, isRequest⟩ := List.getElem?_eq_some_iff.mp isRequest
      obtain ⟨⟨frame, own, sent⟩, requests⟩ := @State.answer_frame J stringify
        { s with
          requests := s.requests.set n
            { request with
              handled := true } } request.messageID outcome sending
      rw [sent, requests, List.countP_append, List.countP_singleton, own, List.countP_set inside,
        isRequest]
      have own : request.waits messageID = decide (request.messageID = messageID) := by
        rw [IncomingCall.waits, waits, Bool.true_and]
      have done : ({ request with handled := true } : IncomingCall J).waits messageID = false := rfl
      have le : (if request.waits messageID then 1 else 0) ≤
          s.requests.countP (IncomingCall.waits messageID) := by
        split
        next counted =>
          exact List.countP_pos_iff.mpr ⟨request, isRequest ▸ List.getElem_mem inside, counted⟩
        next => exact Nat.zero_le _
      rw [done]
      rw [own] at le ⊢
      change _ = received + 0
      simp only [Bool.false_eq_true, if_false]
      omega
  | timeout n =>
      obtain ⟨promise, found, rfl⟩ := Option.map_eq_some_iff.mp step
      exact unchanged State.settle_frame rfl

/-! ## Runs -/

/-- What a run tracks, and the answers it has sent. -/
theorem tracks_of_run (run : Transition.Run (Transition.guarded State.ClearOfPending
      (Transition.guarded State.DistinctIds (State.Step stringify tenantSubdomain))) {} events s) :
    Tracks stringify tenantSubdomain events s ∧
      ∀ messageID, s.sent.countP (Frame.answers messageID) +
        s.requests.countP (IncomingCall.waits messageID) =
          events.countP (Event.arrives messageID) := by
  induction run with
  | refl => exact ⟨.start, fun _ => rfl⟩
  | snoc _ step ih =>
      obtain ⟨clear, distinct, step⟩ := step
      refine ⟨ih.1.step distinct clear step, fun messageID => ?_⟩
      rw [List.countP_append, List.countP_singleton]
      exact answered_step (ih.2 messageID) step

/-- A CALL that is not settled is settled by its timer. -/
theorem Tracks.timeout (tracks : Tracks stringify tenantSubdomain events s) {n : ℕ}
    {messageID command : String} {data : J} {after : List (Event J)}
    (called : Called events n messageID command data after) (none : s.settlementsOf n = []) :
    ∃ s', s.Step stringify tenantSubdomain (.timeout n) s' ∧
      s'.settlementsOf n = [.rejected (.error (timeoutMessage tenantSubdomain messageID
        (stringify (.call messageID command data))))] := by
  obtain ⟨promise, isPromise, rfl, isCall, sent, _⟩ := tracks.calls _ _ _ _ _ called
  have waits := (tracks.sound.processed n promise isPromise).mp none
  have armed := (tracks.sound.timer promise (List.mem_of_getElem? isPromise)).mpr waits
  refine ⟨s.rejectCallback n
    (.error (timeoutMessage tenantSubdomain promise.messageID promise.messageToSend)), ?_, ?_⟩
  · rw [State.Step, State.next, isPromise, Option.filter_some_pos armed]
    rfl
  · rw [State.rejectCallback, State.settle_of_not_processed isPromise waits,
      State.settlementsOf_concat rfl, none, if_pos rfl, sent]
    rfl

/-- The pending requests. -/
theorem Tracks.ocppRequests (tracks : Tracks stringify tenantSubdomain events s) {n : ℕ}
    {messageID command : String} : s.ocppRequests messageID = some ⟨n, command⟩ ↔
      (∃ data after, Called events n messageID command data after) ∧ s.settlementsOf n = [] := by
  rw [tracks.sound.pending]
  constructor
  · rintro ⟨promise, ⟨isPromise, ⟨data, isCall⟩, waits⟩, rfl⟩
    refine ⟨⟨data, ?_⟩, (tracks.sound.processed n promise isPromise).mpr waits⟩
    exact tracks.called n promise command data isPromise isCall
  · rintro ⟨⟨data, after, called⟩, none⟩
    obtain ⟨promise, isPromise, same, isCall, _⟩ := tracks.calls _ _ _ _ _ called
    have waits := (tracks.sound.processed n promise isPromise).mp none
    exact ⟨promise, ⟨isPromise, ⟨data, isCall⟩, waits⟩, same⟩

/-- **A CALL is settled once**, by the first of its answers and its timeout, as long as no CALL is
answered under the message ID of a pending one. -/
theorem settles_of_run (run : Transition.Run (Transition.guarded State.ClearOfPending
      (Transition.guarded State.DistinctIds (State.Step stringify tenantSubdomain))) {} events s) :
    Settles stringify tenantSubdomain events s := by
  obtain ⟨tracks, answered⟩ := tracks_of_run run
  refine ⟨?_, ?_, fun _ _ _ => tracks.ocppRequests, answered⟩
  · intro n messageID command data after called
    obtain ⟨promise, _, _, _, _, settled⟩ := tracks.calls n messageID command data after called
    exact settled
  · exact fun n messageID command data after called none => tracks.timeout called none

/-! ## Two exchanges -/

/-- The JSON of an object without fields. -/
def emptyObject : String := "\x7b\x7d"

/-- The JSON of a message, the data being JSON already and no text with a quote in it. -/
def Frame.toJson : Frame String → String
  | .call messageID command data => s!"[2,\"{messageID}\",\"{command}\",{data}]"
  | .callResult messageID data => s!"[3,\"{messageID}\",{data}]"
  | .callError messageID code message details =>
      let details := details.getD emptyObject
      s!"[4,\"{messageID}\",\"{code}\",\"{message}\",{details}]"

/-- A CALL is sent and answered twice, another one not at all, and a CALL is received and
answered. -/
def exchange : List (Event String) :=
  let heartbeat := .call "1" "Heartbeat" emptyObject
  let answer := .callResult "a7" emptyObject
  [.call "a7" "Reset" emptyObject .sent, .call "a8" "ClearCache" emptyObject .sent,
    .received "[2,\"1\",\"Heartbeat\",\x7b\x7d]" heartbeat,
    .received "[3,\"a7\",\x7b\x7d]" answer, .handled 0 (.ok emptyObject) .sent, .timeout 1,
    .received "[3,\"a7\",\x7b\x7d]" answer]

theorem settles_of_run_exchange : ∃ s, Settles Frame.toJson "tenant" exchange s := by
  obtain ⟨s, followed⟩ := Option.isSome_iff_exists.mp (by decide +kernel :
    (Transition.follow (State.next Frame.toJson "tenant")
      (fun s event _ => s.ClearOfPending event ∧ s.DistinctIds event) {} exchange).isSome = true)
  refine ⟨s, settles_of_run (Transition.Run.of_follow ?_ followed)⟩
  exact fun _ _ _ step admits => ⟨admits.1, admits.2, step⟩

/-- A CALL is received under the message ID of a CALL that is pending, and answered before it. -/
def collision : List (Event String) :=
  let heartbeat := .call "1" "Heartbeat" emptyObject
  [.call "1" "Reset" emptyObject .sent, .received "[2,\"1\",\"Heartbeat\",\x7b\x7d]" heartbeat,
    .handled 0 (.ok emptyObject) .sent,
    .received "[3,\"1\",\x7b\x7d]" (.callResult "1" emptyObject)]

theorem not_settles_collision : ∃ s, Transition.Run (Transition.guarded State.DistinctIds
      (State.Step Frame.toJson "tenant")) {} collision s ∧
    ¬ Settles Frame.toJson "tenant" collision s := by
  obtain ⟨s, followed, lost⟩ := Option.map_eq_some_iff.mp (by decide +kernel :
    (Transition.follow (State.next Frame.toJson "tenant")
      (fun s event _ => s.DistinctIds event) {} collision).map (fun s => s.settlementsOf 0) =
        some [])
  refine ⟨s, Transition.Run.of_follow (fun _ _ _ step distinct => ⟨distinct, step⟩) followed, ?_⟩
  intro settles
  have settled := settles.settled 0 "1" "Reset" emptyObject _ ⟨[], .sent, rfl, rfl⟩
  rw [lost] at settled
  cases settled

end WSConnection

end EvServer
