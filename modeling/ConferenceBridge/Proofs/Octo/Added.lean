import ConferenceBridge.Proofs.Octo.FromCalls
import ConferenceBridge.Proofs.Octo.Merging

/-!
# Payload types that are added

A reconciliation adds every payload type that the video channel declares, and those of the audio
channel whose key the video channel does not declare. A key of both channels counts as one for
pictures, so what the audio channel says under it is lost.
-/

namespace ConferenceBridge.Octo

/-- Whether a channel declares a payload type that is usable for the channel's own media type. -/
def Declared (audio video : OctoChannel) (payload : PayloadType) : Prop :=
  (∃ declaration ∈ audio.payloadTypes, declaration.build? .audio = some payload) ∨
    ∃ declaration ∈ video.payloadTypes, declaration.build? .video = some payload

/-- A declaration is reported as the payload type that it builds. -/
theorem declarationEvent_eq_call_iff {declaration : PayloadDeclaration} {media : MediaType}
    {call : Call} :
    declarationEvent declaration media = .call call ↔
      ∃ payload, call = .addPayloadType payload ∧ declaration.build? media = some payload := by
  unfold declarationEvent
  cases declaration.build? media with
  | none => simp
  | some payload => simp [eq_comm]

/-- The events of payload types are those of the declarations that are merged under some key. -/
theorem mem_payloadEvents_iff_merged {audio video : OctoChannel} {call : Call} :
    .call call ∈ payloadEvents audio video ↔
      ∃ key declaration media,
        (mergedDeclarations audio video).get? key = some (declaration, media) ∧
          ∃ payload, call = .addPayloadType payload ∧
            declaration.build? media = some payload := by
  simp only [payloadEvents, Registry.values, List.map_map, List.mem_map, Function.comp_apply]
  constructor
  · rintro ⟨⟨key, declaration, media⟩, hentry, hevent⟩
    exact ⟨key, declaration, media, (Registry.mem_entries_iff _).1 hentry,
      declarationEvent_eq_call_iff.1 hevent⟩
  · rintro ⟨key, declaration, media, hget, hevent⟩
    exact ⟨(key, declaration, media), (Registry.mem_entries_iff _).2 hget,
      declarationEvent_eq_call_iff.2 hevent⟩

/-- The events of payload types are those of the video channel, and those of the audio channel under
keys that the video channel does not declare. -/
theorem mem_payloadEvents_iff_declared {audio video : OctoChannel} {call : Call} :
    .call call ∈ payloadEvents audio video ↔
      ∃ payload, call = .addPayloadType payload ∧
        ((∃ declaration ∈ audio.payloadTypes, declaration.build? .audio = some payload ∧
          declaration.key ∉ declaredKeys video) ∨
        ∃ declaration ∈ video.payloadTypes, declaration.build? .video = some payload) := by
  rw [mem_payloadEvents_iff_merged]
  constructor
  · rintro ⟨key, declaration, media, hget, payload, hcall, hbuild⟩
    refine ⟨payload, hcall, ?_⟩
    obtain ⟨rfl, hmedia, ⟨rfl, hdeclared⟩ | ⟨rfl, hdeclared⟩⟩ :=
      declared_of_get?_mergedDeclarations hget
    · exact Or.inr ⟨declaration, hdeclared, hbuild⟩
    · refine Or.inl ⟨declaration, hdeclared, hbuild, fun hkey => ?_⟩
      rw [mergedMedia, if_pos hkey] at hmedia
      cases hmedia
  · rintro ⟨payload, hcall, ⟨declaration, hdeclared, hbuild, hkey⟩ |
      ⟨declaration, hdeclared, hbuild⟩⟩
    · obtain ⟨merged, hsame, hget⟩ := exists_get?_mergedDeclarations (Or.inl hdeclared)
      rw [mergedMedia, if_neg hkey] at hget
      rw [← PayloadDeclaration.build?_congr hsame] at hbuild
      exact ⟨_, merged, .audio, hget, payload, hcall, hbuild⟩
    · have hkey : declaration.key ∈ declaredKeys video := List.mem_map_of_mem hdeclared
      obtain ⟨merged, hsame, hget⟩ := exists_get?_mergedDeclarations (Or.inr hdeclared)
      rw [mergedMedia, if_pos hkey] at hget
      rw [← PayloadDeclaration.build?_congr hsame] at hbuild
      exact ⟨_, merged, .video, hget, payload, hcall, hbuild⟩

/-- Payload types are added only by the events of payload types. -/
theorem addPayloadType_mem_calls_iff (conference : String) (tentacle : Tentacle)
    {audio video : OctoChannel} (haudio : 0 < audio.expire) (hvideo : 0 < video.expire)
    (payload : PayloadType) :
    .addPayloadType payload ∈ (reconcile conference tentacle audio video).calls ↔
      .call (.addPayloadType payload) ∈ payloadEvents audio video := by
  have hextension : .call (.addPayloadType payload) ∉
      extensionEvents tentacle.extensions audio video := by
    intro hmem
    obtain ⟨entry, _, hentry⟩ := List.mem_map.1 hmem
    cases hentry
  rw [reconcile_calls conference tentacle haudio hvideo]
  simp [hextension]

/-- After a reconciliation, the numbers in use are those from before and those that were added. -/
theorem isSome_get?_payloadTypes_reconcile (conference : String) (tentacle : Tentacle)
    (audio video : OctoChannel) (number : Int) :
    ((reconcile conference tentacle audio video).tentacle.payloadTypes.get? number).isSome ↔
      (tentacle.payloadTypes.get? number).isSome ∨
        ∃ payload, .addPayloadType payload ∈ (reconcile conference tentacle audio video).calls ∧
          payload.number = number := by
  rw [reconcile, trace_tentacle, trace_calls, Tentacle.payloadTypes_applyAll, Option.isSome_or,
    Bool.or_eq_true, List.findSome?_isSome_iff]
  refine or_congr Iff.rfl ⟨?_, ?_⟩
  · rintro ⟨call, hcall, hsome⟩
    cases call with
    | addPayloadType payload =>
      refine ⟨payload, hcall, ?_⟩
      by_contra hnumber
      simp [Call.payloadType?, hnumber] at hsome
    | _ => simp [Call.payloadType?] at hsome
  · rintro ⟨payload, hcall, hnumber⟩
    exact ⟨_, hcall, by simp [Call.payloadType?, hnumber]⟩

/-- Exactly the payload types of the video channel are added, and those of the audio channel under
keys that the video channel does not declare. So all usable declarations of both channels are kept
just if every one for sound has its payload type under such a key. -/
theorem declared_added_iff (conference : String) (tentacle : Tentacle) {audio video : OctoChannel}
    (haudio : 0 < audio.expire) (hvideo : 0 < video.expire) :
    (∀ payload, .addPayloadType payload ∈ (reconcile conference tentacle audio video).calls ↔
      (∃ declaration ∈ audio.payloadTypes, declaration.build? .audio = some payload ∧
        declaration.key ∉ declaredKeys video) ∨
      ∃ declaration ∈ video.payloadTypes, declaration.build? .video = some payload) ∧
    ((∀ payload, Declared audio video payload →
        .addPayloadType payload ∈ (reconcile conference tentacle audio video).calls ∧
        ((reconcile conference tentacle audio video).tentacle.payloadTypes.get?
          payload.number).isSome) ↔
      ∀ payload, (∃ declaration ∈ audio.payloadTypes, declaration.build? .audio = some payload) →
        ∃ declaration ∈ audio.payloadTypes, declaration.build? .audio = some payload ∧
          declaration.key ∉ declaredKeys video) := by
  have hadded : ∀ payload,
      .addPayloadType payload ∈ (reconcile conference tentacle audio video).calls ↔
        (∃ declaration ∈ audio.payloadTypes, declaration.build? .audio = some payload ∧
          declaration.key ∉ declaredKeys video) ∨
        ∃ declaration ∈ video.payloadTypes, declaration.build? .video = some payload := by
    intro payload
    rw [addPayloadType_mem_calls_iff conference tentacle haudio hvideo,
      mem_payloadEvents_iff_declared]
    simp
  refine ⟨hadded, ⟨fun hall payload haudible => ?_, fun hapart payload hdeclared => ?_⟩⟩
  · obtain ⟨declaration, hmem, hbuild⟩ := haudible
    have hcall := (hall payload (Or.inl ⟨declaration, hmem, hbuild⟩)).1
    -- What the video channel declares has another media type.
    rcases (hadded payload).1 hcall with hfound | ⟨other, _, hother⟩
    · exact hfound
    · have hsound := PayloadDeclaration.media_of_build? hbuild
      have hpicture := PayloadDeclaration.media_of_build? hother
      rw [hsound] at hpicture
      cases hpicture
  · have hcall : .addPayloadType payload ∈
        (reconcile conference tentacle audio video).calls :=
      (hadded payload).2 (hdeclared.imp_left (hapart payload))
    refine ⟨hcall, ?_⟩
    rw [isSome_get?_payloadTypes_reconcile]
    exact Or.inr ⟨payload, hcall, rfl⟩

/-- A payload type of sound that both channels declare is not added at all. -/
theorem declared_lost_of_shared_key :
    let opus : PayloadDeclaration :=
      { number := 111, name := "opus", clockRate := 48000, channels := 2, parameters := .empty,
        feedback := [] }
    let payload : PayloadType :=
      { number := 111, encoding := "opus", media := .audio, clockRate := 48000, channels := 2,
        parameters := .empty, feedback := [] }
    let channel : OctoChannel :=
      { id := none, expire := 60, relays := .empty, extensions := [], payloadTypes := [opus],
        sources := [], groups := [] }
    0 < channel.expire ∧ Declared channel channel payload ∧
      .addPayloadType payload ∉ (reconcile "meeting" .fresh channel channel).calls ∧
      (reconcile "meeting" .fresh channel channel).tentacle.payloadTypes = .empty := by
  intro opus payload channel
  have hexpire : 0 < channel.expire := by decide
  have hsound : opus.build? .audio = some payload := by decide +kernel
  have hpicture : opus.build? .video = none := by decide +kernel
  refine ⟨hexpire, Or.inl ⟨opus, List.mem_singleton_self opus, hsound⟩, ?_, by decide +kernel⟩
  rw [(declared_added_iff "meeting" .fresh hexpire hexpire).1 payload]
  rintro (⟨declaration, hmem, _, hkey⟩ | ⟨declaration, hmem, hbuild⟩)
  · exact hkey (List.mem_map_of_mem hmem)
  · rw [List.mem_singleton.1 hmem, hpicture] at hbuild
    cases hbuild

end ConferenceBridge.Octo
