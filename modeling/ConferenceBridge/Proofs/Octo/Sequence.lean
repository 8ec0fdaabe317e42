import ConferenceBridge.Proofs.Octo.Merging
import ConferenceBridge.Proofs.RelaySet

/-!
# The sequence of calls

What a reconciliation does is known from the declarations before any of it is done: the relays are
set, header extensions are added unless their numbers are configured already, each key that is
declared has a payload type or a notice, and the sources are set. The definitions below pick these
from the channels without merging anything, and the theorems show that they are what is called and
reported, in this order.
-/

namespace ConferenceBridge.Octo

/-! ### What is picked from the channels -/

/-- The header extensions that a tentacle lacks: the first declaration of each number that is not
configured. -/
def newExtensions (tentacle : Tentacle) (audio video : OctoChannel) : List HeaderExtension :=
  let declared := audio.extensions ++ video.extensions
  ((declared.map HeaderExtension.number).eraseDups.filter
    fun number => !tentacle.hasExtension number).filterMap
      fun number => declared.find? fun extension => extension.number == number

/-- The keys that both channels declare, without repetitions, in order of first declaration. -/
def distinctKeys (audio video : OctoChannel) : List PayloadKey :=
  (declaredKeys audio ++ declaredKeys video).eraseDups

/-- The last declaration of a key by a channel. -/
def lastDeclaration? (channel : OctoChannel) (key : PayloadKey) : Option PayloadDeclaration :=
  channel.payloadTypes.reverse.find? fun declaration => declaration.key == key

/-- The declaration that counts for a key, and its media type: the last one of the video channel, or
the last one of the audio channel if the video channel has none. -/
def keptDeclaration? (audio video : OctoChannel) (key : PayloadKey) :
    Option (PayloadDeclaration × MediaType) :=
  ((lastDeclaration? video key).map fun declaration => (declaration, .video)).or
    ((lastDeclaration? audio key).map fun declaration => (declaration, .audio))

/-- The declarations that count, in order of the first declarations of their keys. -/
def keptDeclarations (audio video : OctoChannel) : List (PayloadDeclaration × MediaType) :=
  (distinctKeys audio video).filterMap (keptDeclaration? audio video)

/-- The payload types that are built. -/
def builtPayloads (audio video : OctoChannel) : List PayloadType :=
  (keptDeclarations audio video).filterMap fun kept => kept.1.build? kept.2

/-- The declarations that count and are not built. -/
def unusableDeclarations (audio video : OctoChannel) : List PayloadDeclaration :=
  ((keptDeclarations audio video).filter fun kept => (kept.1.build? kept.2).isNone).map Prod.fst

/-! ### Header extensions -/

/-- Exactly the numbers that are not configured have an extension, in order of first declaration. -/
theorem numbers_newExtensions (tentacle : Tentacle) (audio video : OctoChannel) :
    (newExtensions tentacle audio video).map HeaderExtension.number =
      ((audio.extensions ++ video.extensions).map HeaderExtension.number).eraseDups.filter
        fun number => !tentacle.hasExtension number := by
  rw [newExtensions, List.map_filterMap]
  refine (List.filterMap_congr fun number hnumber => ?_).trans List.filterMap_some
  have hdeclared := List.mem_eraseDups.1 (List.mem_filter.1 hnumber).1
  obtain ⟨extension, hextension, rfl⟩ := List.mem_map.1 hdeclared
  have hsome : ((audio.extensions ++ video.extensions).find? fun other =>
      other.number == extension.number).isSome :=
    List.find?_isSome.2 ⟨extension, hextension, beq_self_eq_true _⟩
  obtain ⟨first, hfirst⟩ := Option.isSome_iff_exists.1 hsome
  have hsame : first.number = extension.number := by simpa using List.find?_some hfirst
  rw [hfirst, Option.map_some, hsame]

/-- The merged extensions are the first declarations of their numbers. -/
theorem entries_mergedExtensions (audio video : OctoChannel) :
    (mergedExtensions audio video).entries =
      ((audio.extensions ++ video.extensions).map HeaderExtension.number).eraseDups.filterMap
        fun number => ((audio.extensions ++ video.extensions).find? fun extension =>
          extension.number == number).map fun extension => (number, extension.uri) := by
  rw [mergedExtensions, Registry.entries_eq_filterMap, Registry.keys_ofFirsts, List.map_map]
  refine List.filterMap_congr fun number _ => ?_
  rw [Registry.get?_ofFirsts, Entries.find?_map, Option.map_map]
  rfl

/-- The extensions that are added are those that the tentacle lacks. -/
theorem extensionEvents_eq (tentacle : Tentacle) (audio video : OctoChannel) :
    extensionEvents tentacle.extensions audio video =
      (newExtensions tentacle audio video).map
        fun extension => .call (.addExtension extension.number extension.uri) := by
  rw [extensionEvents, entries_mergedExtensions, newExtensions, List.filter_filterMap,
    List.map_filterMap, List.filterMap_filter, List.map_filterMap]
  refine List.filterMap_congr fun number _ => ?_
  have hconfigured : tentacle.hasExtension number = tentacle.extensions.contains number := rfl
  cases hfound : (audio.extensions ++ video.extensions).find? fun extension =>
    extension.number == number with
  | none => simp
  | some extension =>
    have hsame : extension.number = number := by simpa using List.find?_some hfound
    cases hcontains : tentacle.extensions.contains number <;>
      simp [hconfigured, hcontains, hsame]

/-! ### Payload types -/

/-- What is merged under a key is the declaration that counts for it. -/
theorem get?_mergedDeclarations_eq (audio video : OctoChannel) (key : PayloadKey) :
    (mergedDeclarations audio video).get? key = keptDeclaration? audio video key := by
  have hlast : ∀ channel media, Entries.find? key (keyedDeclarations channel media).reverse =
      (lastDeclaration? channel key).map fun declaration => (declaration, media) := by
    intro channel media
    rw [keyedDeclarations, ← List.map_reverse, Entries.find?_map]
    rfl
  rw [get?_mergedDeclarations, hlast, hlast]
  rfl

/-- The merged keys are those that are declared, without repetitions. -/
theorem keys_mergedDeclarations (audio video : OctoChannel) :
    (mergedDeclarations audio video).keys = distinctKeys audio video := by
  rw [mergedDeclarations, Registry.keys_ofList, List.map_append, keys_keyedDeclarations,
    keys_keyedDeclarations]
  rfl

/-- What is merged are the declarations that count. -/
theorem values_mergedDeclarations (audio video : OctoChannel) :
    (mergedDeclarations audio video).values = keptDeclarations audio video := by
  rw [Registry.values_eq_filterMap, keys_mergedDeclarations]
  exact List.filterMap_congr fun key _ => get?_mergedDeclarations_eq audio video key

/-- Every key has exactly one declaration that counts. -/
theorem keys_keptDeclarations (audio video : OctoChannel) :
    (keptDeclarations audio video).map (fun kept => kept.1.key) = distinctKeys audio video := by
  rw [← values_mergedDeclarations, ← keys_mergedDeclarations]
  exact Registry.map_values fun key kept hkept => (declared_of_get?_mergedDeclarations hkept).1

/-- Each declaration that counts is an event. -/
theorem payloadEvents_eq (audio video : OctoChannel) :
    payloadEvents audio video =
      (keptDeclarations audio video).map fun kept => declarationEvent kept.1 kept.2 := by
  rw [payloadEvents, values_mergedDeclarations]

/-! ### Calls and notices -/

/-- The declarations that are built are called, in their order. -/
theorem callsOf_payloadEvents (audio video : OctoChannel) :
    callsOf (payloadEvents audio video) =
      (builtPayloads audio video).map Call.addPayloadType := by
  rw [payloadEvents_eq, builtPayloads, callsOf, List.filterMap_map, List.map_filterMap]
  refine List.filterMap_congr fun kept _ => ?_
  rw [Function.comp_apply, declarationEvent]
  cases kept.1.build? kept.2 <;> rfl

/-- The declarations that are not built are reported, in their order. -/
theorem noticesAmong_payloadEvents (audio video : OctoChannel) :
    noticesAmong (payloadEvents audio video) =
      (unusableDeclarations audio video).map Notice.unrecognized := by
  rw [payloadEvents_eq, unusableDeclarations, noticesAmong, List.filterMap_map, List.map_map,
    ← List.filterMap_eq_map, List.filterMap_filter]
  refine List.filterMap_congr fun kept _ => ?_
  rw [Function.comp_apply, declarationEvent]
  cases hbuild : kept.1.build? kept.2 <;> simp [Event.notice?]

/-- The calls of a reconciliation that tears nothing down. -/
theorem reconcile_calls_eq_picked (conference : String) (tentacle : Tentacle)
    {audio video : OctoChannel} (hlasting : tearsDown audio video = false) :
    (reconcile conference tentacle audio video).calls =
      .setRelays (mergedRelays audio video) ::
        ((newExtensions tentacle audio video).map
            (fun extension => .addExtension extension.number extension.uri) ++
          (builtPayloads audio video).map .addPayloadType ++
            [.setSources audio.sources video.sources video.groups]) := by
  rw [reconcile_calls_of_lasting conference tentacle hlasting, extensionEvents_eq,
    callsOf_map_call, callsOf_payloadEvents]

/-- The notices of a reconciliation that tears nothing down. -/
theorem reconcile_notices_eq_picked (conference : String) (tentacle : Tentacle)
    {audio video : OctoChannel} (hlasting : tearsDown audio video = false) :
    (reconcile conference tentacle audio video).notices =
      .settingRelays (mergedRelays audio video) ::
        (unusableDeclarations audio video).map .unrecognized := by
  have hcalls := reconcile_calls_eq_picked conference tentacle hlasting
  rw [reconcile, trace_calls] at hcalls
  have hexpire : .call .expire ∉ events tentacle.extensions audio video := by
    rw [← mem_callsOf, hcalls]
    simp
  have hextensions : noticesAmong (extensionEvents tentacle.extensions audio video) = [] := by
    rw [extensionEvents_eq, noticesAmong, List.filterMap_map]
    exact List.filterMap_eq_nil_iff.2 fun _ _ => rfl
  have hnotices : noticesAmong (events tentacle.extensions audio video) =
      .settingRelays (mergedRelays audio video) ::
        (noticesAmong (extensionEvents tentacle.extensions audio video) ++
          noticesAmong (payloadEvents audio video)) := by
    rw [events, if_neg (by simp [hlasting])]
    simp
  rw [reconcile, trace_notices conference tentacle hexpire, hnotices, hextensions,
    noticesAmong_payloadEvents, List.nil_append]

/-- Every key is either called or reported. -/
theorem length_built_add_unusable (audio video : OctoChannel) :
    (builtPayloads audio video).length + (unusableDeclarations audio video).length =
      (distinctKeys audio video).length := by
  have hsplit : ∀ kept : List (PayloadDeclaration × MediaType),
      (kept.filterMap fun kept => kept.1.build? kept.2).length +
        (kept.filter fun kept => (kept.1.build? kept.2).isNone).length = kept.length := by
    intro kept
    induction kept with
    | nil => rfl
    | cons first rest ih =>
      cases hbuild : first.1.build? first.2 <;> simp [hbuild] <;> omega
  rw [builtPayloads, unusableDeclarations, List.length_map, hsplit, ← keys_keptDeclarations,
    List.length_map]

/-- A reconciliation tears the relay down just if one of the channels has expired. -/
theorem tearsDown_iff {audio video : OctoChannel} (haudio : 0 ≤ audio.expire)
    (hvideo : 0 ≤ video.expire) :
    tearsDown audio video = true ↔ audio.expire = 0 ∨ video.expire = 0 := by
  rw [tearsDown, beq_iff_eq]
  omega

/-- The sequence of calls of a reconciliation. If a channel has expired, there is one call, and the
tables stay as they are. Otherwise the relays of both channels are set, each number that is not
configured gets its first extension, and the sources are set last. In between, each key that is
declared has one event: its last declaration is built and called, or else reported. The groups of
the audio channel have no influence. -/
theorem reconcile_sequence (conference : String) (tentacle : Tentacle) {audio video : OctoChannel}
    (haudio : 0 ≤ audio.expire) (hvideo : 0 ≤ video.expire) :
    (audio.expire = 0 ∨ video.expire = 0 →
      (reconcile conference tentacle audio video).calls = [.expire] ∧
      (reconcile conference tentacle audio video).tentacle.extensions = tentacle.extensions ∧
      (reconcile conference tentacle audio video).tentacle.payloadTypes =
        tentacle.payloadTypes) ∧
    (audio.expire ≠ 0 → video.expire ≠ 0 →
      (reconcile conference tentacle audio video).calls =
        .setRelays (audio.relays.union video.relays) ::
          ((newExtensions tentacle audio video).map
              (fun extension => .addExtension extension.number extension.uri) ++
            (builtPayloads audio video).map .addPayloadType ++
              [.setSources audio.sources video.sources video.groups]) ∧
      (reconcile conference tentacle audio video).notices =
        .settingRelays (audio.relays.union video.relays) ::
          (unusableDeclarations audio video).map .unrecognized) ∧
    (∀ relay, relay ∈ (audio.relays.union video.relays).toList ↔
      relay ∈ audio.relays.toList ∨ relay ∈ video.relays.toList) ∧
    (newExtensions tentacle audio video).map HeaderExtension.number =
      ((audio.extensions ++ video.extensions).map HeaderExtension.number).eraseDups.filter
        (fun number => !tentacle.hasExtension number) ∧
    payloadEvents audio video =
      (keptDeclarations audio video).map (fun kept => declarationEvent kept.1 kept.2) ∧
    (keptDeclarations audio video).map (fun kept => kept.1.key) = distinctKeys audio video ∧
    (builtPayloads audio video).length + (unusableDeclarations audio video).length =
      (distinctKeys audio video).length ∧
    ∀ groups, reconcile conference tentacle { audio with groups } video =
      reconcile conference tentacle audio video := by
  refine ⟨fun hexpired => ?_, fun hsound hpictures => ?_, fun _ => RelaySet.mem_toList_union,
    numbers_newExtensions tentacle audio video, payloadEvents_eq audio video,
    keys_keptDeclarations audio video, length_built_add_unusable audio video, fun _ => rfl⟩
  · have hdown := (tearsDown_iff haudio hvideo).2 hexpired
    have hcalls : callsOf (events tentacle.extensions audio video) = [.expire] := by
      rw [events, if_pos hdown]
      rfl
    rw [reconcile, trace_calls, trace_tentacle, hcalls]
    exact ⟨rfl, rfl, rfl⟩
  · have hlasting : tearsDown audio video = false := by
      rw [← Bool.not_eq_true, tearsDown_iff haudio hvideo]
      exact not_or.2 ⟨hsound, hpictures⟩
    exact ⟨reconcile_calls_eq_picked conference tentacle hlasting,
      reconcile_notices_eq_picked conference tentacle hlasting⟩

/-- Number 2 is configured already, and number 1 is declared three times. Number 111 has two keys,
one of which both channels declare, so it is not built for sound. -/
theorem reconcile_sequence_contended :
    let opus : PayloadDeclaration :=
      { number := 111, name := "opus", clockRate := 48000, channels := 2, parameters := .empty,
        feedback := [] }
    let pictures : PayloadDeclaration := { opus with number := 96, name := "VP8", channels := 1 }
    let source : Source := { ssrc := 7, name := none, parameters := .empty }
    let audio : OctoChannel :=
      { id := none, expire := 60, relays := .ofList ["b", "a"],
        extensions := [⟨2, "urn:level"⟩, ⟨1, "urn:level"⟩, ⟨1, "urn:time"⟩],
        payloadTypes := [opus, { opus with channels := 1 }], sources := [source],
        groups := [{ semantics := "FID", sources := [source] }] }
    let video : OctoChannel :=
      { audio with
        relays := .ofList ["c", "b"]
        extensions := [⟨1, "urn:other"⟩, ⟨3, "urn:time"⟩]
        payloadTypes := [pictures, { opus with name := "OPUS" }, { pictures with name := "vp8" }]
        sources := [] }
    let torn : OctoChannel := { video with expire := 0 }
    let configured : Tentacle := Tentacle.fresh.apply (.addExtension 2 "urn:other")
    (reconcile "meeting" configured audio video).calls =
        [.setRelays (.ofList ["a", "b", "c"]), .addExtension 1 "urn:level",
          .addExtension 3 "urn:time",
          .addPayloadType {
            number := 111, encoding := "opus", media := .audio, clockRate := 48000, channels := 1,
            parameters := .empty, feedback := [] },
          .addPayloadType {
            number := 96, encoding := "VP8", media := .video, clockRate := 48000, channels := 1,
            parameters := .empty, feedback := [] },
          .setSources [source] [] video.groups] ∧
      (reconcile "meeting" configured audio video).notices =
        [.settingRelays (.ofList ["a", "b", "c"]), .unrecognized { opus with name := "OPUS" }] ∧
      (reconcile "meeting" configured audio torn).calls = [.expire] := by
  intro opus pictures source audio video torn configured
  have haudio : 0 ≤ audio.expire := by decide
  have hvideo : 0 ≤ video.expire := by decide
  have htorn : 0 ≤ torn.expire := by decide
  obtain ⟨hcalls, hnotices⟩ := (reconcile_sequence "meeting" configured haudio hvideo).2.1
    (by decide) (by decide)
  obtain ⟨hexpire, _⟩ := (reconcile_sequence "meeting" configured haudio htorn).1 (Or.inr rfl)
  have hkept : keptDeclarations audio video =
      [({ opus with name := "OPUS" }, .video), ({ opus with channels := 1 }, .audio),
        ({ pictures with name := "vp8" }, .video)] := by
    decide +kernel
  refine ⟨?_, ?_, hexpire⟩
  · rw [hcalls, builtPayloads, hkept]
    decide +kernel
  · rw [hnotices, unusableDeclarations, hkept]
    decide +kernel

end ConferenceBridge.Octo
