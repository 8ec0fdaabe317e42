import ConferenceBridge.Proofs.Declaration
import ConferenceBridge.Proofs.Octo.Added

/-!
# What tentacles may hold

Limits say what may stand in a tentacle. A call within limits keeps a tentacle within them, so it is
enough to look at the calls of each step. Steps that were validated make calls with well-formed
payload types and sources, and a reconciliation stays within the narrower limits of its channels.
-/

namespace ConferenceBridge

/-- What is asked of everything that a tentacle holds. -/
structure Limits where
  /-- What is asked of header extensions. -/
  extension : HeaderExtension → Prop
  /-- What is asked of payload types. -/
  payloadType : PayloadType → Prop
  /-- What is asked of sources, those in groups included. -/
  source : Source → Prop

namespace Limits

/-- Payload types and sources have to be usable on the wire, whoever set them. -/
def onWire : Limits where
  extension _ := True
  payloadType := PayloadType.WellFormed
  source := Source.InBounds

/-- Header extensions are as channels declare them, too, and payload types go with the media type of
one of the channels. -/
def ofChannels : Limits where
  extension := HeaderExtension.InBounds
  payloadType payload := payload.WellFormed ∧ (payload.media = .audio ∨ payload.media = .video)
  source := Source.InBounds

end Limits

/-- A call that brings only what is within limits. -/
def Call.Within (limits : Limits) : Call → Prop
  | .addExtension number uri => limits.extension { number, uri }
  | .addPayloadType payload => limits.payloadType payload
  | .setSources audio video groups =>
    (∀ source ∈ audio, limits.source source) ∧ (∀ source ∈ video, limits.source source) ∧
      ∀ group ∈ groups, ∀ source ∈ group.sources, limits.source source
  | .expire | .setRelays _ => True

/-- A call within the limits of channels is within those of the wire. -/
theorem Call.Within.onWire {call : Call} (h : call.Within .ofChannels) : call.Within .onWire := by
  cases call with
  | addExtension => exact True.intro
  | addPayloadType => exact h.1
  | setSources => exact h
  | expire | setRelays => exact True.intro

namespace Tentacle

/-- A tentacle all of whose entries are within limits. Payload types stand under their numbers. -/
structure Within (limits : Limits) (tentacle : Tentacle) : Prop where
  /-- The header extensions are within the limits. -/
  extensions : ∀ number uri, tentacle.extensions.get? number = some uri →
    limits.extension { number, uri }
  /-- The payload types are within the limits, each under its own number. -/
  payloadTypes : ∀ number payload, tentacle.payloadTypes.get? number = some payload →
    payload.number = number ∧ limits.payloadType payload
  /-- The sources of sound are within the limits. -/
  audioSources : ∀ source ∈ tentacle.audioSources, limits.source source
  /-- The sources of pictures are within the limits. -/
  videoSources : ∀ source ∈ tentacle.videoSources, limits.source source
  /-- The sources in groups are within the limits. -/
  videoGroups : ∀ group ∈ tentacle.videoGroups, ∀ source ∈ group.sources, limits.source source

variable {limits : Limits}

/-- A new tentacle holds nothing. -/
theorem within_fresh : fresh.Within limits where
  extensions _ _ h := by cases h
  payloadTypes _ _ h := by cases h
  audioSources _ h := by cases h
  videoSources _ h := by cases h
  videoGroups _ h := by cases h

/-- A call within the limits keeps the tentacle within them. -/
theorem Within.apply {tentacle : Tentacle} (h : tentacle.Within limits) {call : Call}
    (hcall : call.Within limits) : (tentacle.apply call).Within limits := by
  cases call with
  | expire =>
    exact { h with
      audioSources := by simp [Tentacle.apply]
      videoSources := by simp [Tentacle.apply]
      videoGroups := by simp [Tentacle.apply] }
  | setRelays relays => exact { h with }
  | addExtension added uri =>
    refine { h with extensions := fun number other hother => ?_ }
    rw [extensions_apply, Option.or_eq_some_iff] at hother
    rcases hother with hkept | ⟨_, hnew⟩
    · exact h.extensions number other hkept
    · obtain ⟨rfl, hsame⟩ := Option.ite_none_right_eq_some.1 hnew
      cases hsame
      exact hcall
  | addPayloadType payload =>
    refine { h with payloadTypes := fun number other hother => ?_ }
    rw [payloadTypes_apply, Option.or_eq_some_iff] at hother
    rcases hother with hkept | ⟨_, hnew⟩
    · exact h.payloadTypes number other hkept
    · obtain ⟨hnumber, hsame⟩ := Option.ite_none_right_eq_some.1 hnew
      cases hsame
      exact ⟨hnumber, hcall⟩
  | setSources audio video groups =>
    exact { h with
      audioSources := hcall.1
      videoSources := hcall.2.1
      videoGroups := hcall.2.2 }

/-- Calls within the limits keep the tentacle within them. -/
theorem Within.applyAll {tentacle : Tentacle} (h : tentacle.Within limits) {calls : List Call}
    (hcalls : ∀ call ∈ calls, call.Within limits) : (tentacle.applyAll calls).Within limits := by
  induction calls generalizing tentacle with
  | nil => exact h
  | cons call rest ih =>
    obtain ⟨hcall, hrest⟩ := List.forall_mem_cons.1 hcalls
    exact ih (h.apply hcall) hrest

end Tentacle

namespace Octo

/-- A merged header extension was declared by one of the channels. -/
theorem declared_of_mem_mergedExtensions {audio video : OctoChannel} {number : Int} {uri : String}
    (h : (number, uri) ∈ (mergedExtensions audio video).entries) :
    { number, uri } ∈ audio.extensions ++ video.extensions := by
  rw [Registry.mem_entries_iff, mergedExtensions, Registry.get?_ofFirsts] at h
  obtain ⟨extension, hdeclared, hsame⟩ := List.mem_map.1 (Entries.mem_of_find? h)
  cases hsame
  exact hdeclared

/-- The calls of a reconciliation are within the limits of its channels. -/
theorem events_within {audio video : OctoChannel} (haudio : audio.InBounds)
    (hvideo : video.InBounds) (configured : Table Int String) {call : Call}
    (h : .call call ∈ events configured audio video) : call.Within .ofChannels := by
  unfold events at h
  split at h
  · have hcall : call = .expire := by simpa using h
    rw [hcall]
    exact True.intro
  · simp only [List.mem_append, List.mem_cons, List.not_mem_nil, or_false, reduceCtorEq, false_or,
      Event.call.injEq] at h
    rcases h with ((rfl | hextension) | hpayload) | rfl
    · exact True.intro
    · obtain ⟨⟨number, uri⟩, hmem, hcall⟩ := List.mem_map.1 hextension
      cases hcall
      have hdeclared := declared_of_mem_mergedExtensions (List.mem_filter.1 hmem).1
      exact (List.mem_append.1 hdeclared).elim (haudio.extensions _) (hvideo.extensions _)
    · obtain ⟨payload, hcall, hbuilt⟩ := mem_payloadEvents_iff_declared.1 hpayload
      rw [hcall]
      rcases hbuilt with ⟨declaration, hdeclared, hbuild, _⟩ | ⟨declaration, hdeclared, hbuild⟩
      · have hbounds := haudio.payloadTypes declaration hdeclared
        exact ⟨PayloadDeclaration.wellFormed_of_build? hbounds.channels hbuild,
          Or.inl (PayloadDeclaration.media_of_build? hbuild)⟩
      · have hbounds := hvideo.payloadTypes declaration hdeclared
        exact ⟨PayloadDeclaration.wellFormed_of_build? hbounds.channels hbuild,
          Or.inr (PayloadDeclaration.media_of_build? hbuild)⟩
    · exact ⟨haudio.sources, hvideo.sources, hvideo.groups⟩

/-- A step whose declarations were accepted by their schemas. A payload type is added as it was
built from an accepted declaration. -/
def Operation.Validated : Operation → Prop
  | .reconcile audio video =>
    OctoChannel.schema.Accepts audio ∧ OctoChannel.schema.Accepts video
  | .call (.addPayloadType payload) =>
    ∃ declaration media, PayloadDeclaration.schema.Accepts declaration ∧
      declaration.build? media = some payload
  | .call (.setSources audio video groups) =>
    (∀ source ∈ audio, Source.schema.Accepts source) ∧
      (∀ source ∈ video, Source.schema.Accepts source) ∧
        ∀ group ∈ groups, SourceGroup.schema.Accepts group
  | .call .expire | .call (.setRelays _) | .call (.addExtension _ _) => True

/-- A step that adds a header extension or a payload type without a reconciliation. -/
def Operation.AddsDirectly : Operation → Prop
  | .call (.addExtension _ _) | .call (.addPayloadType _) => True
  | _ => False

/-- The calls of a step are among its events. -/
theorem Operation.mem_run_calls {conference : String} {tentacle : Tentacle}
    {operation : Operation} {call : Call} :
    call ∈ (operation.run conference tentacle).calls ↔
      .call call ∈ operation.events tentacle := by
  rw [Operation.run, trace_calls, mem_callsOf]

/-- A validated step makes calls within the limits of the wire, and within those of channels if it
adds nothing directly. -/
theorem Operation.Validated.within {operation : Operation} (h : operation.Validated)
    {tentacle : Tentacle} {call : Call} (hcall : .call call ∈ operation.events tentacle) :
    call.Within .onWire ∧ (¬operation.AddsDirectly → call.Within .ofChannels) := by
  cases operation with
  | reconcile audio video =>
    have hbounds := events_within (OctoChannel.schema_ensures.of_accepts h.1)
      (OctoChannel.schema_ensures.of_accepts h.2) tentacle.extensions hcall
    exact ⟨hbounds.onWire, fun _ => hbounds⟩
  | call made =>
    have hmade : call = made := by simpa [Operation.events] using hcall
    subst hmade
    cases call with
    | expire | setRelays => exact ⟨True.intro, fun _ => True.intro⟩
    | addExtension => exact ⟨True.intro, fun hdirect => (hdirect True.intro).elim⟩
    | addPayloadType payload =>
      obtain ⟨declaration, media, haccepted, hbuild⟩ := h
      have hbounds := PayloadDeclaration.schema_ensures.of_accepts haccepted
      exact ⟨PayloadDeclaration.wellFormed_of_build? hbounds.channels hbuild,
        fun hdirect => (hdirect True.intro).elim⟩
    | setSources audio video groups =>
      have hsources : (∀ source ∈ audio, source.InBounds) ∧ (∀ source ∈ video, source.InBounds) ∧
          ∀ group ∈ groups, group.InBounds :=
        ⟨fun source hmem => Source.schema_ensures.of_accepts (h.1 source hmem),
          fun source hmem => Source.schema_ensures.of_accepts (h.2.1 source hmem),
          fun group hmem => SourceGroup.schema_ensures.of_accepts (h.2.2 group hmem)⟩
      exact ⟨hsources, fun _ => hsources⟩

/-- A history whose steps make calls within limits does so as a whole. -/
theorem history_calls_within {limits : Limits} (conference : String) {operations : List Operation}
    (h : ∀ operation ∈ operations, ∀ tentacle call,
      .call call ∈ operation.events tentacle → call.Within limits) (tentacle : Tentacle) :
    ∀ call ∈ (history conference tentacle operations).calls, call.Within limits := by
  induction operations generalizing tentacle with
  | nil => simp [history]
  | cons operation rest ih =>
    obtain ⟨hfirst, hrest⟩ := List.forall_mem_cons.1 h
    intro call hcall
    rcases List.mem_append.1 hcall with hnow | hlater
    · exact hfirst tentacle call (Operation.mem_run_calls.1 hnow)
    · exact ih hrest _ call hlater

/-- After any validated steps a new tentacle holds only well-formed payload types and sources. If
header extensions and payload types came from reconciliations alone, they are all as channels
declare them. -/
theorem history_within_limits (conference : String) {operations : List Operation}
    (h : ∀ operation ∈ operations, operation.Validated) :
    (history conference .fresh operations).tentacle.Within .onWire ∧
      ((∀ operation ∈ operations, ¬operation.AddsDirectly) →
        (history conference .fresh operations).tentacle.Within .ofChannels) := by
  rw [history_tentacle]
  constructor
  · refine Tentacle.within_fresh.applyAll (history_calls_within conference ?_ _)
    exact fun operation hmem _ _ hcall => ((h operation hmem).within hcall).1
  · intro hdirect
    refine Tentacle.within_fresh.applyAll (history_calls_within conference ?_ _)
    exact fun operation hmem _ _ hcall =>
      ((h operation hmem).within hcall).2 (hdirect operation hmem)

/-- A retransmission format for pictures, whose association is declared with a sign and a zero. -/
theorem history_within_limits_retransmission :
    let source : Source := { ssrc := 7, name := none, parameters := .empty }
    let audio : OctoChannel :=
      { id := none, expire := 60, relays := .empty,
        extensions := [{ number := 1, uri := "urn:level" }], payloadTypes := [],
        sources := [source], groups := [] }
    let video : OctoChannel :=
      { id := none, expire := 60, relays := .empty, extensions := [],
        payloadTypes := [{
          number := 97, name := "RTX", clockRate := 90000, channels := 1,
          parameters := Table.empty.insert "apt" " +096", feedback := [] }],
        sources := [], groups := [{ semantics := "FID", sources := [source] }] }
    let operations : List Operation :=
      [.reconcile audio video, .call .expire, .call (.setSources [source] [] [])]
    (∀ operation ∈ operations, operation.Validated) ∧
      (∀ operation ∈ operations, ¬operation.AddsDirectly) ∧
      (history "meeting" .fresh operations).tentacle.Within .ofChannels ∧
      ((history "meeting" .fresh operations).tentacle.payloadTypes.get? 97).map
        PayloadType.associated = some (.ok (some 96)) := by
  intro source audio video operations
  have hsource : Source.schema.Accepts source := ⟨.object [("ssrc", .integer 7)], rfl⟩
  have haudio : OctoChannel.schema.Accepts audio :=
    ⟨.object [("expire", .integer 60),
      ("rtp_header_extensions",
        .array [.object [("id", .integer 1), ("uri", .string "urn:level")]]),
      ("sources", .array [.object [("ssrc", .integer 7)]])], rfl⟩
  have hvideo : OctoChannel.schema.Accepts video :=
    ⟨.object [("expire", .integer 60),
      ("payload_types", .array [.object [("id", .integer 97), ("name", .string "RTX"),
        ("clockrate", .integer 90000), ("parameters", .object [("apt", .string " +096")])]]),
      ("source_groups", .array [.object [("semantics", .string "FID"),
        ("sources", .array [.object [("ssrc", .integer 7)]])]])], rfl⟩
  have hvalidated : ∀ operation ∈ operations, operation.Validated := by
    simp [operations, Operation.Validated, haudio, hvideo, hsource]
  have hdirect : ∀ operation ∈ operations, ¬operation.AddsDirectly := by
    simp [operations, Operation.AddsDirectly]
  exact ⟨hvalidated, hdirect, (history_within_limits "meeting" hvalidated).2 hdirect, rfl⟩

end Octo

end ConferenceBridge
