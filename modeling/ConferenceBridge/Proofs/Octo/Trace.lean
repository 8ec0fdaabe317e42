import ConferenceBridge.Octo.History

/-!
# Traces by their calls

A trace says what events do to a tentacle, but only the calls among them do anything. This module
reads the tentacle and the tentacle's own notices off the calls, for a list of events and for a
whole history.
-/

namespace ConferenceBridge

/-- Whether a notice reports that a tentacle was torn down. -/
def Notice.isExpiry : Notice → Bool
  | .tentacleExpired _ => true
  | _ => false

namespace Tentacle

/-- What a tentacle reports on several calls in order. -/
def noticesAlong (conference : String) (tentacle : Tentacle) : List Call → List Notice
  | [] => []
  | call :: rest =>
    tentacle.noticesOf conference call ++ (tentacle.apply call).noticesAlong conference rest

/-- Several calls in a row are made one part after the other. -/
theorem applyAll_append (tentacle : Tentacle) (first later : List Call) :
    tentacle.applyAll (first ++ later) = (tentacle.applyAll first).applyAll later :=
  List.foldl_append

/-- The notices of calls in a row are those of the first part and then those of the later one. -/
theorem noticesAlong_append (conference : String) (tentacle : Tentacle) (first later : List Call) :
    tentacle.noticesAlong conference (first ++ later) =
      tentacle.noticesAlong conference first ++
        (tentacle.applyAll first).noticesAlong conference later := by
  induction first generalizing tentacle with
  | nil => rfl
  | cons call rest ih =>
    simp only [List.cons_append, noticesAlong, ih, List.append_assoc]
    rfl

/-- A tentacle reports nothing but that it was torn down. -/
theorem isExpiry_of_mem_noticesOf {conference : String} {tentacle : Tentacle} {call : Call}
    {notice : Notice} (h : notice ∈ tentacle.noticesOf conference call) :
    notice.isExpiry = true := by
  cases call with
  | expire =>
    have hnotice : notice = .tentacleExpired conference := by
      simp only [noticesOf] at h
      split at h <;> simp_all
    rw [hnotice]
    rfl
  | setRelays | addExtension | addPayloadType | setSources => simp [noticesOf] at h

end Tentacle

namespace Octo

/-- The call that an event makes. -/
def Event.call? : Event → Option Call
  | .call made => some made
  | .notice _ => none

/-- The calls among events. -/
def callsOf (events : List Event) : List Call := events.filterMap Event.call?

/-- No events make no calls. -/
@[simp] theorem callsOf_nil : callsOf [] = [] := rfl

/-- A call in front of events is made before theirs. -/
@[simp] theorem callsOf_cons_call (call : Call) (rest : List Event) :
    callsOf (.call call :: rest) = call :: callsOf rest := rfl

/-- A notice in front of events adds nothing to their calls. -/
@[simp] theorem callsOf_cons_notice (notice : Notice) (rest : List Event) :
    callsOf (.notice notice :: rest) = callsOf rest := rfl

/-- The calls of the first events come before those of the later ones. -/
@[simp] theorem callsOf_append (first later : List Event) :
    callsOf (first ++ later) = callsOf first ++ callsOf later :=
  List.filterMap_append

/-- Events that are all calls make just these. -/
@[simp] theorem callsOf_map_call {α : Type} (call : α → Call) (list : List α) :
    callsOf (list.map fun item => .call (call item)) = list.map call := by
  induction list with
  | nil => rfl
  | cons item rest ih => rw [List.map_cons, callsOf_cons_call, ih, List.map_cons]

/-- A call is made by events if it is one of them. -/
@[simp] theorem mem_callsOf {events : List Event} {call : Call} :
    call ∈ callsOf events ↔ .call call ∈ events := by
  simp only [callsOf, List.mem_filterMap]
  constructor
  · rintro ⟨event, hmem, hcall⟩
    cases event with
    | call made => simpa [Event.call?] using (Option.some.inj hcall) ▸ hmem
    | notice => cases hcall
  · exact fun hmem => ⟨.call call, hmem, rfl⟩

/-- The notice that an event is. -/
def Event.notice? : Event → Option Notice
  | .call _ => none
  | .notice reported => some reported

/-- The notices among events. -/
def noticesAmong (events : List Event) : List Notice := events.filterMap Event.notice?

/-- There are no notices among no events. -/
@[simp] theorem noticesAmong_nil : noticesAmong [] = [] := rfl

/-- A call in front of events adds nothing to the notices among them. -/
@[simp] theorem noticesAmong_cons_call (call : Call) (rest : List Event) :
    noticesAmong (.call call :: rest) = noticesAmong rest := rfl

/-- A notice in front of events comes before those among them. -/
@[simp] theorem noticesAmong_cons_notice (notice : Notice) (rest : List Event) :
    noticesAmong (.notice notice :: rest) = notice :: noticesAmong rest := rfl

/-- The notices among the first events come before those among the later ones. -/
@[simp] theorem noticesAmong_append (first later : List Event) :
    noticesAmong (first ++ later) = noticesAmong first ++ noticesAmong later :=
  List.filterMap_append

/-- Events leave the tentacle as their calls do, whatever came before them. -/
theorem foldl_extend_tentacle (conference : String) (start : Trace) (events : List Event) :
    (events.foldl (Trace.extend conference) start).tentacle =
      start.tentacle.applyAll (callsOf events) := by
  induction events generalizing start with
  | nil => rfl
  | cons event rest ih =>
    rw [List.foldl_cons, ih]
    cases event <;> rfl

/-- The calls of events come after the calls made before. -/
theorem foldl_extend_calls (conference : String) (start : Trace) (events : List Event) :
    (events.foldl (Trace.extend conference) start).calls = start.calls ++ callsOf events := by
  induction events generalizing start with
  | nil => simp
  | cons event rest ih =>
    rw [List.foldl_cons, ih]
    cases event <;> simp [Trace.extend]

/-- The tentacle has nothing to report of its own unless it is torn down. -/
theorem foldl_extend_notices (conference : String) (start : Trace) {events : List Event}
    (h : .call .expire ∉ events) :
    (events.foldl (Trace.extend conference) start).notices =
      start.notices ++ noticesAmong events := by
  induction events generalizing start with
  | nil => simp
  | cons event rest ih =>
    obtain ⟨hevent, hrest⟩ := not_or.1 fun hmem => h (List.mem_cons.2 hmem)
    rw [List.foldl_cons, ih _ hrest]
    cases event with
    | notice reported => simp [Trace.extend]
    | call call =>
      have hnothing : start.tentacle.noticesOf conference call = [] := by
        cases call with
        | expire => exact absurd rfl hevent
        | setRelays | addExtension | addPayloadType | setSources => rfl
      simp [Trace.extend, hnothing]

/-- If the events themselves report no teardown, the teardowns reported are those of the
tentacle. -/
theorem foldl_extend_expiryNotices (conference : String) (start : Trace) {events : List Event}
    (hevents : ∀ notice, .notice notice ∈ events → notice.isExpiry = false) :
    (events.foldl (Trace.extend conference) start).notices.filter Notice.isExpiry =
      start.notices.filter Notice.isExpiry ++
        start.tentacle.noticesAlong conference (callsOf events) := by
  induction events generalizing start with
  | nil => simp [Tentacle.noticesAlong]
  | cons event rest ih =>
    rw [List.foldl_cons, ih _ fun notice hnotice => hevents notice (List.mem_cons_of_mem _ hnotice)]
    cases event with
    | call call =>
      have hkept : (start.tentacle.noticesOf conference call).filter Notice.isExpiry =
          start.tentacle.noticesOf conference call :=
        List.filter_eq_self.2 fun _ h => Tentacle.isExpiry_of_mem_noticesOf h
      simp [Trace.extend, Tentacle.noticesAlong, hkept]
    | notice notice =>
      have hnone : notice.isExpiry = false := hevents notice List.mem_cons_self
      simp [Trace.extend, hnone]

/-- A trace ends with the tentacle that the calls of its events lead to. -/
theorem trace_tentacle (conference : String) (tentacle : Tentacle) (events : List Event) :
    (trace conference tentacle events).tentacle = tentacle.applyAll (callsOf events) :=
  foldl_extend_tentacle conference _ events

/-- The calls of a trace are those of its events. -/
theorem trace_calls (conference : String) (tentacle : Tentacle) (events : List Event) :
    (trace conference tentacle events).calls = callsOf events :=
  (foldl_extend_calls conference _ events).trans (List.nil_append _)

/-- Without an expiry the notices of a trace are those among its events. -/
theorem trace_notices (conference : String) (tentacle : Tentacle) {events : List Event}
    (h : .call .expire ∉ events) :
    (trace conference tentacle events).notices = noticesAmong events :=
  (foldl_extend_notices conference _ h).trans (List.nil_append _)

/-- If the events themselves report no teardown, a trace reports the teardowns of its tentacle. -/
theorem trace_expiryNotices (conference : String) (tentacle : Tentacle) {events : List Event}
    (hevents : ∀ notice, .notice notice ∈ events → notice.isExpiry = false) :
    (trace conference tentacle events).notices.filter Notice.isExpiry =
      tentacle.noticesAlong conference (callsOf events) :=
  (foldl_extend_expiryNotices conference _ hevents).trans (List.nil_append _)

/-- What a step itself reports is about channels and declarations, never about a teardown that took
place. -/
theorem Operation.isExpiry_eq_false {tentacle : Tentacle} {operation : Operation} {notice : Notice}
    (h : .notice notice ∈ operation.events tentacle) : notice.isExpiry = false := by
  cases operation with
  | call made => simp [Operation.events] at h
  | reconcile audio video =>
    simp only [Operation.events, Octo.events] at h
    split at h
    · have hnotice : notice = .tearingDown := by simpa using h
      rw [hnotice]
      rfl
    · simp only [extensionEvents, payloadEvents, List.mem_append, List.mem_cons, List.mem_map,
        Event.notice.injEq, reduceCtorEq, List.not_mem_nil, or_false, and_false, exists_false] at h
      rcases h with rfl | ⟨entry, _, hentry⟩
      · rfl
      · unfold declarationEvent at hentry
        split at hentry
        · cases hentry
        · cases hentry
          rfl

/-- A history leaves the tentacle as its calls do. -/
theorem history_tentacle (conference : String) (tentacle : Tentacle)
    (operations : List Operation) :
    (history conference tentacle operations).tentacle =
      tentacle.applyAll (history conference tentacle operations).calls := by
  induction operations generalizing tentacle with
  | nil => rfl
  | cons operation rest ih =>
    simp only [history, Tentacle.applyAll_append]
    rw [ih, Operation.run, trace_tentacle, trace_calls]

/-- The teardowns that a history reports are those that the tentacle reports on its calls. -/
theorem history_expiryNotices (conference : String) (tentacle : Tentacle)
    (operations : List Operation) :
    (history conference tentacle operations).notices.filter Notice.isExpiry =
      tentacle.noticesAlong conference (history conference tentacle operations).calls := by
  induction operations generalizing tentacle with
  | nil => rfl
  | cons operation rest ih =>
    simp only [history, List.filter_append, Tentacle.noticesAlong_append]
    rw [ih, Operation.run, trace_expiryNotices _ _ fun _ => Operation.isExpiry_eq_false,
      trace_tentacle, trace_calls]

end Octo

end ConferenceBridge
