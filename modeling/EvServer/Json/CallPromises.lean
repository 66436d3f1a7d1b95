import EvServer.Json.WSConnection

/-!
# The promises of the calls

A step sends a CALL, answers one, settles a CALL, or leaves the promises.  The invariant says
that the entries of `ocppRequests` are the CALLs that wait for their answers, and that these are
the ones with a timer.
-/

namespace EvServer

namespace WSConnection

variable {J : Type} {stringify : Frame J → String} {tenantSubdomain : String}
variable {s s' : State J} {event : Event J} {events : List (Event J)}

/-- The elements of a list with one more at the end. -/
theorem getElem?_concat_eq_some {α : Type} {l : List α} {a b : α} {n : ℕ} :
    (l ++ [a])[n]? = some b ↔ l[n]? = some b ∨ n = l.length ∧ a = b := by
  rw [List.getElem?_append]
  split
  next inside =>
    simp only [Nat.ne_of_lt inside, false_and, or_false]
  next outside =>
    rw [List.getElem?_singleton, List.getElem?_eq_none (Nat.le_of_not_lt outside)]
    simp only [reduceCtorEq, false_or, Option.ite_none_right_eq_some, Option.some.injEq]
    refine and_congr_left fun _ => ?_
    omega

namespace State

/-- The CALL of the promise waits for its answer. -/
def Pending (s : State J) (n : ℕ) (promise : Promise J) (command : String) : Prop :=
  s.promises[n]? = some promise ∧ (∃ data, promise.content = .call command data) ∧
    promise.messageProcessed = false

/-- The invariant. -/
structure Sound (s : State J) : Prop where
  /-- A promise is processed when it has been settled. -/
  processed : ∀ n promise, s.promises[n]? = some promise →
    (s.settlementsOf n = [] ↔ promise.messageProcessed = false)
  /-- What has been settled is a promise. -/
  made : ∀ n, s.promises.length ≤ n → s.settlementsOf n = []
  /-- The promises that are not processed are those of CALLs, and they have their timers. -/
  timer : ∀ promise ∈ s.promises, promise.requestTimeout = true ↔ promise.messageProcessed = false
  waits : ∀ promise ∈ s.promises, promise.messageProcessed = false → promise.content.isCall = true
  /-- The requests are the CALLs that wait for their answers. -/
  pending : ∀ n messageID command, s.ocppRequests messageID = some ⟨n, command⟩ ↔
    ∃ promise, s.Pending n promise command ∧ promise.messageID = messageID

/-- What a step does to the promises, the requests and the settlements. -/
inductive Effect (stringify : Frame J → String) (tenantSubdomain : String) (s s' : State J) :
    Event J → Prop
  /-- A CALL is sent, under a message ID that is not pending. -/
  | calls {messageID command : String} {data : J} {sending : Sending} :
      (∀ n promise command, s.Pending n promise command → promise.messageID ≠ messageID) →
      s'.promises = s.promises ++
        [{ messageID := messageID
           content := .call command data
           messageToSend := stringify (.call messageID command data)
           requestTimeout := true }] →
      s'.ocppRequests =
        Function.update s.ocppRequests messageID (some ⟨s.promises.length, command⟩) →
      s'.settled = s.settled →
      Effect stringify tenantSubdomain s s' (.call messageID command data sending)
  /-- A CALL is answered; the promise of the answer is settled. -/
  | answers {n : ℕ} {outcome : Except (OCPPError J) J} {sending : Sending} {promise : Promise J}
      {settlement : Settlement J} :
      promise.content.isCall = false → promise.messageProcessed = true →
      promise.requestTimeout = false → s'.promises = s.promises ++ [promise] →
      s'.ocppRequests = s.ocppRequests →
      s'.settled = s.settled ++ [(s.promises.length, settlement)] →
      Effect stringify tenantSubdomain s s' (.handled n outcome sending)
  /-- A CALL that waits is settled, as the event is its answer or its timeout. -/
  | settles {event : Event J} {n : ℕ} {promise : Promise J} {command : String}
      {settlement : Settlement J} :
      event.sends = false → s.Pending n promise command →
      event.settlement tenantSubdomain n promise.messageID command promise.messageToSend =
        some settlement →
      (∀ m promise' command', s.Pending m promise' command' → m ≠ n →
        event.settlement tenantSubdomain m promise'.messageID command' promise'.messageToSend =
          none) →
      s'.promises = s.promises.set n
        { promise with
          messageProcessed := true
          requestTimeout := false } →
      s'.ocppRequests = Function.update s.ocppRequests promise.messageID none →
      s'.settled = s.settled ++ [(n, settlement)] → Effect stringify tenantSubdomain s s' event
  /-- The event is nothing to the CALLs that wait. -/
  | passes {event : Event J} :
      event.sends = false →
      (∀ m promise' command', s.Pending m promise' command' →
        event.settlement tenantSubdomain m promise'.messageID command' promise'.messageToSend =
          none) →
      s'.promises = s.promises → s'.ocppRequests = s.ocppRequests → s'.settled = s.settled →
      Effect stringify tenantSubdomain s s' event

/-! ## What a step does -/

/-- The promise of an entry of the requests. -/
theorem Sound.of_ocppRequests (inv : s.Sound) {messageID : String} {request : OCPPRequest}
    (h : s.ocppRequests messageID = some request) :
    ∃ promise, s.Pending request.promise promise request.command ∧
      promise.messageID = messageID :=
  (inv.pending request.promise messageID request.command).mp h

/-- A message ID is that of one CALL that waits. -/
theorem Sound.eq_of_messageID (inv : s.Sound) {n m : ℕ} {promise promise' : Promise J}
    {command command' : String} (hn : s.Pending n promise command)
    (hm : s.Pending m promise' command') (same : promise'.messageID = promise.messageID) :
    m = n := by
  have hn := (inv.pending n promise.messageID command).mpr ⟨promise, hn, rfl⟩
  have hm := (inv.pending m promise.messageID command').mpr ⟨promise', hm, same⟩
  rw [hn, Option.some.injEq, OCPPRequest.mk.injEq] at hm
  exact hm.1.symm

/-- Settling a promise that has not been processed. -/
theorem settle_of_not_processed {n : ℕ} {promise : Promise J} {settlement : Settlement J}
    (h : s.promises[n]? = some promise) (waits : promise.messageProcessed = false) :
    s.settle n settlement =
      { s with
        promises := s.promises.set n
          { promise with
            messageProcessed := true
            requestTimeout := false }
        ocppRequests := Function.update s.ocppRequests promise.messageID none
        settled := s.settled ++ [(n, settlement)] } := by
  unfold settle
  rw [h]
  exact if_neg (waits ▸ Bool.false_ne_true)

/-- Settling a CALL that waits, by an event that is nothing to the others. -/
theorem Pending.settle {n : ℕ} {promise : Promise J} {command : String}
    {settlement : Settlement J} (pending : s.Pending n promise command)
    (sends : event.sends = false)
    (own : event.settlement tenantSubdomain n promise.messageID command promise.messageToSend =
      some settlement)
    (others : ∀ m promise' command', s.Pending m promise' command' → m ≠ n →
      event.settlement tenantSubdomain m promise'.messageID command' promise'.messageToSend =
        none) :
    Effect stringify tenantSubdomain s (s.settle n settlement) event := by
  rw [settle_of_not_processed pending.1 pending.2.2]
  exact .settles sends pending own others rfl rfl rfl

/-- A message that is no CALL is sent, under a message ID that is not pending. -/
theorem sendMessage_spec {messageID : String} (content : Content J) (sending : Sending)
    (clear : s.ocppRequests messageID = none) (isAnswer : content.isCall = false) :
    let after := s.sendMessage stringify messageID content sending
    (∃ promise : Promise J, promise.content.isCall = false ∧ promise.messageProcessed = true ∧
      promise.requestTimeout = false ∧ after.promises = s.promises ++ [promise]) ∧
    after.ocppRequests = s.ocppRequests ∧
    after.settled = s.settled ++ [(s.promises.length, .resolved none)] := by
  intro after
  have last : (s.send stringify messageID content sending).promises[s.promises.length]? =
      some
        { messageID := messageID
          content := content
          messageToSend := stringify (content.frame messageID)
          requestTimeout := content.isCall } := List.getElem?_concat_length
  have stored : s.store messageID content = s.ocppRequests := by
    cases content with
    | call command data => cases isAnswer
    | callResult data => rfl
    | callError error => rfl
  have after_eq : after = (s.send stringify messageID content sending).settle s.promises.length
      (.resolved none) := if_neg (isAnswer ▸ Bool.false_ne_true)
  rw [after_eq, settle_of_not_processed last rfl]
  refine ⟨⟨⟨messageID, content, stringify (content.frame messageID), true, false⟩, isAnswer, rfl,
    rfl, ?_⟩, ?_, rfl⟩
  · change (s.promises ++ [_]).set s.promises.length _ = _
    rw [List.set_append_right _ _ (Nat.le_refl _), Nat.sub_self, List.set_cons_zero]
  · change Function.update (s.store messageID content) messageID none = _
    rw [stored, ← clear, Function.update_eq_self]

/-- A CALL is answered, under a message ID that is not pending. -/
theorem answer_spec {t : State J} {n : ℕ} {messageID : String}
    {outcome : Except (OCPPError J) J} {sending : Sending} (promises : t.promises = s.promises)
    (ocppRequests : t.ocppRequests = s.ocppRequests) (settled : t.settled = s.settled)
    (free : s.ocppRequests messageID = none) :
    Effect stringify tenantSubdomain s (t.answer stringify messageID outcome sending)
      (.handled n outcome sending) := by
  rw [← ocppRequests] at free
  cases outcome with
  | ok result =>
      obtain ⟨⟨promise, isAnswer, processed, timer, made⟩, kept, resolved⟩ :=
        sendMessage_spec (.callResult result) sending free rfl
      rw [promises] at made resolved
      rw [ocppRequests] at kept
      rw [settled] at resolved
      exact .answers isAnswer processed timer made kept resolved
  | error error =>
      obtain ⟨⟨promise, isAnswer, processed, timer, made⟩, kept, resolved⟩ :=
        sendMessage_spec (.callError error) sending free rfl
      rw [promises] at made resolved
      rw [ocppRequests] at kept
      rw [settled] at resolved
      exact .answers isAnswer processed timer made kept resolved

/-- An answer is received: what is settled is the CALL that waits under its message ID. -/
theorem Sound.receives (inv : s.Sound) {messageID : String}
    {settlement : String → Settlement J} (sends : event.sends = false)
    (answers : ∀ n id command messageToSend,
      event.settlement tenantSubdomain n id command messageToSend =
        if messageID = id then some (settlement command) else none)
    (known : ∀ request, s.ocppRequests messageID = some request →
      s' = s.settle request.promise (settlement request.command))
    (unknown : s.ocppRequests messageID = none → ∃ message, s' = s.log message) :
    Effect stringify tenantSubdomain s s' event := by
  cases found : s.ocppRequests messageID with
  | none =>
      obtain ⟨message, rfl⟩ := unknown found
      refine .passes sends ?_ rfl rfl rfl
      intro m promise command pending
      rw [answers]
      refine if_neg fun same => ?_
      rw [(inv.pending m messageID command).mpr ⟨promise, pending, same.symm⟩] at found
      cases found
  | some request =>
      obtain ⟨promise, pending, same⟩ := inv.of_ocppRequests found
      rw [known request found]
      refine pending.settle sends ((answers _ _ _ _).trans (if_pos same.symm)) ?_
      intro m promise' command' pending' other
      rw [answers]
      refine if_neg fun same' => other ?_
      exact inv.eq_of_messageID pending pending' (same'.symm.trans same.symm)

/-- The timer that is set is that of a CALL. -/
theorem Sound.pending_of_timer (inv : s.Sound) {n : ℕ} {promise : Promise J}
    (isPromise : s.promises[n]? = some promise) (armed : promise.requestTimeout = true) :
    ∃ command, s.Pending n promise command := by
  have mem := List.mem_of_getElem? isPromise
  have waits := (inv.timer promise mem).mp armed
  have isCall := inv.waits promise mem waits
  cases content : promise.content with
  | call command data => exact ⟨command, isPromise, ⟨data, content⟩, waits⟩
  | callResult data => cases content ▸ isCall
  | callError error => cases content ▸ isCall

/-- **What a step does.** -/
theorem next_spec (inv : s.Sound) (distinct : s.DistinctIds event) (clear : s.ClearOfPending event)
    (step : s.Step stringify tenantSubdomain event s') :
    Effect stringify tenantSubdomain s s' event := by
  unfold Step at step
  cases event with
  | call messageID command data sending =>
      cases step
      refine .calls ?_ rfl rfl rfl
      rintro n promise command' ⟨isPromise, ⟨data', isCall⟩, _⟩
      refine distinct promise (List.mem_of_getElem? isPromise) ?_
      rw [isCall]
      rfl
  | received message ocppMessage =>
      cases step
      cases ocppMessage with
      | call messageID command commandPayload => exact .passes rfl (fun _ _ _ _ => rfl) rfl rfl rfl
      | callResult messageID commandPayload =>
          refine inv.receives rfl (fun _ _ _ _ => rfl) ?_ ?_
          · intro request found
            rw [receivedMessage, found]
            rfl
          · intro none
            rw [receivedMessage, none]
            exact ⟨_, rfl⟩
      | callError messageID commandPayload errorDetails =>
          refine inv.receives rfl (fun _ _ _ _ => rfl) ?_ ?_
          · intro request found
            rw [receivedMessage, found]
            rfl
          · intro none
            rw [receivedMessage, none]
            exact ⟨_, rfl⟩
      | other messageType messageID => exact .passes rfl (fun _ _ _ _ => rfl) rfl rfl rfl
  | handled n outcome sending =>
      obtain ⟨request, found, rfl⟩ := Option.map_eq_some_iff.mp step
      have free := clear request (Option.filter_eq_some_iff.mp found).1
      exact answer_spec rfl rfl rfl free
  | timeout n =>
      obtain ⟨promise, found, rfl⟩ := Option.map_eq_some_iff.mp step
      obtain ⟨isPromise, armed⟩ := Option.filter_eq_some_iff.mp found
      obtain ⟨command, pending⟩ := inv.pending_of_timer isPromise armed
      refine pending.settle rfl (if_pos rfl) ?_
      exact fun m promise' command' pending other => if_neg (Ne.symm other)

/-! ## The invariant -/

theorem settlementsOf_concat {k : ℕ} {settlement : Settlement J}
    (settled : s'.settled = s.settled ++ [(k, settlement)]) (n : ℕ) :
    s'.settlementsOf n = s.settlementsOf n ++ if k = n then [settlement] else [] := by
  unfold settlementsOf
  rw [settled, List.filterMap_append]
  by_cases same : k = n <;> simp [same]

theorem settlementsOf_congr (settled : s'.settled = s.settled) (n : ℕ) :
    s'.settlementsOf n = s.settlementsOf n := by
  unfold settlementsOf
  rw [settled]

/-- The CALLs that wait, with one more promise. -/
theorem pending_concat {promise promise' : Promise J} {n : ℕ} {command : String}
    (promises : s'.promises = s.promises ++ [promise']) :
    s'.Pending n promise command ↔ s.Pending n promise command ∨
      (n = s.promises.length ∧ promise' = promise) ∧
        (∃ data, promise.content = .call command data) ∧ promise.messageProcessed = false := by
  unfold Pending
  rw [promises, getElem?_concat_eq_some, or_and_right]

/-- A CALL is sent. -/
theorem Sound.calls (inv : s.Sound) {messageID command messageToSend : String} {data : J}
    (clear : ∀ n promise command, s.Pending n promise command → promise.messageID ≠ messageID)
    (promises : s'.promises = s.promises ++
      [{ messageID := messageID
         content := .call command data
         messageToSend := messageToSend
         requestTimeout := true }])
    (ocppRequests : s'.ocppRequests =
      Function.update s.ocppRequests messageID (some ⟨s.promises.length, command⟩))
    (settled : s'.settled = s.settled) : s'.Sound where
  processed := by
    intro n promise isPromise
    rw [promises, getElem?_concat_eq_some] at isPromise
    rw [settlementsOf_congr settled]
    rcases isPromise with old | ⟨rfl, rfl⟩
    · exact inv.processed n promise old
    · exact iff_of_true (inv.made _ (Nat.le_refl _)) rfl
  made := by
    intro n outside
    rw [promises, List.length_append] at outside
    rw [settlementsOf_congr settled]
    exact inv.made n (Nat.le_of_add_right_le outside)
  timer := by
    intro promise mem
    rw [promises, List.mem_append, List.mem_singleton] at mem
    rcases mem with old | rfl
    · exact inv.timer promise old
    · exact iff_of_true rfl rfl
  waits := by
    intro promise mem
    rw [promises, List.mem_append, List.mem_singleton] at mem
    rcases mem with old | rfl
    · exact inv.waits promise old
    · exact fun _ => rfl
  pending := by
    intro n id command'
    simp only [pending_concat promises]
    rw [ocppRequests]
    rcases eq_or_ne id messageID with rfl | other
    · rw [Function.update_self, Option.some.injEq, OCPPRequest.mk.injEq]
      constructor
      · rintro ⟨rfl, rfl⟩
        exact ⟨_, .inr ⟨⟨rfl, rfl⟩, ⟨data, rfl⟩, rfl⟩, rfl⟩
      · rintro ⟨promise, old | ⟨⟨rfl, rfl⟩, ⟨data', isCall⟩, _⟩, same⟩
        · exact absurd same (clear n promise command' old)
        · cases isCall
          exact ⟨rfl, rfl⟩
    · rw [Function.update_of_ne other, inv.pending]
      refine exists_congr fun promise => and_congr_left fun same => ?_
      refine (or_iff_left ?_).symm
      rintro ⟨⟨_, rfl⟩, _⟩
      exact other same.symm

/-- A CALL is answered. -/
theorem Sound.answers (inv : s.Sound) {promise : Promise J} {settlement : Settlement J}
    (isAnswer : promise.content.isCall = false) (processed : promise.messageProcessed = true)
    (timer : promise.requestTimeout = false) (promises : s'.promises = s.promises ++ [promise])
    (ocppRequests : s'.ocppRequests = s.ocppRequests)
    (settled : s'.settled = s.settled ++ [(s.promises.length, settlement)]) : s'.Sound where
  processed := by
    intro n promise' isPromise
    rw [promises, getElem?_concat_eq_some] at isPromise
    rw [settlementsOf_concat settled]
    rcases isPromise with old | ⟨rfl, rfl⟩
    · have inside := (List.getElem?_eq_some_iff.mp old).1
      rw [if_neg (Nat.ne_of_gt inside), List.append_nil]
      exact inv.processed n promise' old
    · rw [if_pos rfl, processed]
      simp
  made := by
    intro n outside
    rw [promises, List.length_append, List.length_singleton] at outside
    rw [settlementsOf_concat settled, if_neg (Nat.ne_of_lt outside), List.append_nil]
    exact inv.made n (Nat.le_of_add_right_le outside)
  timer := by
    intro promise' mem
    rw [promises, List.mem_append, List.mem_singleton] at mem
    rcases mem with old | rfl
    · exact inv.timer promise' old
    · rw [timer, processed]
      decide
  waits := by
    intro promise' mem waits
    rw [promises, List.mem_append, List.mem_singleton] at mem
    rcases mem with old | rfl
    · exact inv.waits promise' old waits
    · cases processed.symm.trans waits
  pending := by
    intro n messageID command
    simp only [pending_concat promises]
    rw [ocppRequests, inv.pending]
    refine exists_congr fun promise' => and_congr_left fun _ => ?_
    refine (or_iff_left ?_).symm
    rintro ⟨⟨_, rfl⟩, _, waits⟩
    cases processed.symm.trans waits

/-- A CALL is settled. -/
theorem Sound.settles (inv : s.Sound) {n : ℕ} {promise : Promise J} {command : String}
    {settlement : Settlement J} (pending : s.Pending n promise command)
    (promises : s'.promises = s.promises.set n
      { promise with
        messageProcessed := true
        requestTimeout := false })
    (ocppRequests : s'.ocppRequests = Function.update s.ocppRequests promise.messageID none)
    (settled : s'.settled = s.settled ++ [(n, settlement)]) : s'.Sound where
  processed := by
    intro m promise' isPromise
    rw [promises, List.getElem?_set] at isPromise
    rw [settlementsOf_concat settled]
    split at isPromise
    next same =>
      obtain ⟨_, ⟨⟩⟩ := Option.ite_none_right_eq_some.mp isPromise
      rw [if_pos same]
      simp
    next other =>
      rw [if_neg other, List.append_nil]
      exact inv.processed m promise' isPromise
  made := by
    intro m outside
    rw [promises, List.length_set] at outside
    have inside := (List.getElem?_eq_some_iff.mp pending.1).1
    rw [settlementsOf_concat settled, if_neg (by omega), List.append_nil]
    exact inv.made m outside
  timer := by
    intro promise' mem
    rw [promises] at mem
    rcases List.mem_or_eq_of_mem_set mem with old | rfl
    · exact inv.timer promise' old
    · exact iff_of_false Bool.false_ne_true nofun
  waits := by
    intro promise' mem
    rw [promises] at mem
    rcases List.mem_or_eq_of_mem_set mem with old | rfl
    · exact inv.waits promise' old
    · exact nofun
  pending := by
    have kept : ∀ m promise' command', s'.Pending m promise' command' ↔
        m ≠ n ∧ s.Pending m promise' command' := by
      intro m promise' command'
      unfold Pending
      rw [promises, List.getElem?_set]
      split
      next same =>
        refine iff_of_false ?_ fun h => h.1 same.symm
        rintro ⟨isPromise, _, waits⟩
        obtain ⟨_, ⟨⟩⟩ := Option.ite_none_right_eq_some.mp isPromise
        cases waits
      next other => exact (and_iff_right (Ne.symm other)).symm
    intro m messageID command'
    simp only [kept]
    rw [ocppRequests]
    rcases eq_or_ne messageID promise.messageID with rfl | other
    · rw [Function.update_self]
      refine iff_of_false nofun ?_
      rintro ⟨promise', ⟨other, pending'⟩, same⟩
      exact other (inv.eq_of_messageID pending pending' same)
    · rw [Function.update_of_ne other, inv.pending]
      refine exists_congr fun promise' => and_congr_left fun same => ?_
      refine (and_iff_right_of_imp ?_).symm
      rintro pending' rfl
      have eq := Option.some.inj (pending'.1.symm.trans pending.1)
      rw [← same, eq] at other
      exact other rfl

/-- **A step preserves the invariant.** -/
theorem Sound.step (inv : s.Sound) (effect : Effect stringify tenantSubdomain s s' event) :
    s'.Sound := by
  cases effect with
  | calls clear promises ocppRequests settled => exact inv.calls clear promises ocppRequests settled
  | answers isAnswer processed timer promises ocppRequests settled =>
      exact inv.answers isAnswer processed timer promises ocppRequests settled
  | settles _ pending _ _ promises ocppRequests settled =>
      exact inv.settles pending promises ocppRequests settled
  | passes _ _ promises ocppRequests settled =>
      refine ⟨?_, ?_, ?_, ?_, ?_⟩
      · simp only [promises, settlementsOf_congr settled]
        exact inv.processed
      · simp only [promises, settlementsOf_congr settled]
        exact inv.made
      · rw [promises]
        exact inv.timer
      · rw [promises]
        exact inv.waits
      · unfold Pending
        rw [promises, ocppRequests]
        exact inv.pending

end State

end WSConnection

end EvServer
