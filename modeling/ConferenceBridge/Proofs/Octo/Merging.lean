import ConferenceBridge.Proofs.Octo.FromCalls
import ConferenceBridge.Proofs.PayloadType.Building

/-!
# Merged declarations

The payload declarations of both channels are merged under their keys before anything is built. This
module compares the merge with a plain pass through the declarations.
-/

namespace ConferenceBridge

/-- The key of a declaration determines what is built. -/
theorem exists_build_of_key :
    ∃ build : PayloadKey → MediaType → Option PayloadType,
      ∀ declaration media, PayloadDeclaration.build? declaration media =
        build declaration.key media := by
  classical
  refine ⟨fun key media =>
    if h : ∃ declaration : PayloadDeclaration, declaration.key = key then
      (Classical.choose h).build? media
    else none, fun declaration media => ?_⟩
  have hkey : ∃ other : PayloadDeclaration, other.key = declaration.key := ⟨declaration, rfl⟩
  dsimp only
  rw [dif_pos hkey]
  exact PayloadDeclaration.build?_congr (Classical.choose_spec hkey).symm media

namespace Octo

/-- The keys that a channel declares, in order and with repetitions. -/
def declaredKeys (channel : OctoChannel) : List PayloadKey :=
  channel.payloadTypes.map PayloadDeclaration.key

/-- The media type that a key is built for: pictures if the video channel declares it. -/
def mergedMedia (video : OctoChannel) (key : PayloadKey) : MediaType :=
  if key ∈ declaredKeys video then .video else .audio

/-- Keyed declarations are those of the channel, each one under its own key and for the media type
that was given. -/
theorem mem_keyedDeclarations {channel : OctoChannel} {media other : MediaType} {key : PayloadKey}
    {declaration : PayloadDeclaration} :
    (key, declaration, other) ∈ keyedDeclarations channel media ↔
      declaration ∈ channel.payloadTypes ∧ declaration.key = key ∧ other = media := by
  simp only [keyedDeclarations, List.mem_map, Prod.mk.injEq]
  constructor
  · rintro ⟨declared, hdeclared, hkey, rfl, rfl⟩
    exact ⟨hdeclared, hkey, rfl⟩
  · rintro ⟨hdeclared, hkey, rfl⟩
    exact ⟨declaration, hdeclared, hkey, rfl, rfl⟩

/-- The keys of keyed declarations are those that the channel declares, in order. -/
theorem keys_keyedDeclarations (channel : OctoChannel) (media : MediaType) :
    (keyedDeclarations channel media).map Prod.fst = declaredKeys channel := by
  simp [keyedDeclarations, declaredKeys]

/-- A key has its last declaration, and the video channel goes before the audio channel. -/
theorem get?_mergedDeclarations (audio video : OctoChannel) (key : PayloadKey) :
    (mergedDeclarations audio video).get? key =
      (Entries.find? key (keyedDeclarations video .video).reverse).or
        (Entries.find? key (keyedDeclarations audio .audio).reverse) := by
  rw [mergedDeclarations, Registry.get?_ofList, List.reverse_append, Entries.find?_append]

/-- What is merged under a key is a declaration of that key, from the channel of its media type. -/
theorem declared_of_get?_mergedDeclarations {audio video : OctoChannel} {key : PayloadKey}
    {declaration : PayloadDeclaration} {media : MediaType}
    (h : (mergedDeclarations audio video).get? key = some (declaration, media)) :
    declaration.key = key ∧ media = mergedMedia video key ∧
      ((media = .video ∧ declaration ∈ video.payloadTypes) ∨
        (media = .audio ∧ declaration ∈ audio.payloadTypes)) := by
  rw [get?_mergedDeclarations] at h
  cases hvideo : Entries.find? key (keyedDeclarations video .video).reverse with
  | some entry =>
    rw [hvideo, Option.some_or] at h
    cases h
    have hmem := List.mem_reverse.1 (Entries.mem_of_find? hvideo)
    obtain ⟨hdeclared, hkey, rfl⟩ := mem_keyedDeclarations.1 hmem
    have hkeys : key ∈ declaredKeys video := List.mem_map.2 ⟨declaration, hdeclared, hkey⟩
    exact ⟨hkey, (if_pos hkeys).symm, Or.inl ⟨rfl, hdeclared⟩⟩
  | none =>
    rw [hvideo, Option.none_or] at h
    have hmem := List.mem_reverse.1 (Entries.mem_of_find? h)
    obtain ⟨hdeclared, hkey, rfl⟩ := mem_keyedDeclarations.1 hmem
    have hkeys : key ∉ declaredKeys video := by
      have hnone := Entries.find?_eq_none_iff.1 hvideo
      rwa [List.map_reverse, List.mem_reverse, keys_keyedDeclarations] at hnone
    exact ⟨hkey, (if_neg hkeys).symm, Or.inr ⟨rfl, hdeclared⟩⟩

/-- Every declared key is merged. -/
theorem exists_get?_mergedDeclarations {audio video : OctoChannel}
    {declaration : PayloadDeclaration}
    (h : declaration ∈ audio.payloadTypes ∨ declaration ∈ video.payloadTypes) :
    ∃ merged, merged.key = declaration.key ∧
      (mergedDeclarations audio video).get? declaration.key =
        some (merged, mergedMedia video declaration.key) := by
  have hkey : declaration.key ∈ ((keyedDeclarations audio .audio ++
      keyedDeclarations video .video).reverse).map Prod.fst := by
    rw [List.map_reverse, List.mem_reverse, List.map_append, keys_keyedDeclarations,
      keys_keyedDeclarations, List.mem_append]
    exact h.imp (List.mem_map_of_mem ·) (List.mem_map_of_mem ·)
  obtain ⟨⟨merged, media⟩, hfind⟩ := Entries.exists_find? hkey
  have hget : (mergedDeclarations audio video).get? declaration.key = some (merged, media) := by
    rw [mergedDeclarations, Registry.get?_ofList, hfind]
  obtain ⟨hsame, rfl, _⟩ := declared_of_get?_mergedDeclarations hget
  exact ⟨merged, hsame, hget⟩

/-- What a declaration builds for a media type, if it has a number. -/
def builtUnder (number : Int) (entry : PayloadDeclaration × MediaType) : Option PayloadType :=
  (entry.1.build? entry.2).bind fun payload =>
    if payload.number = number then some payload else none

/-- A search for a number among events is one among the declarations that they report on. -/
theorem findSome?_declarationEvents (number : Int)
    (entries : List (PayloadDeclaration × MediaType)) :
    (callsOf (entries.map fun entry => declarationEvent entry.1 entry.2)).findSome?
        (Call.payloadType? number) =
      entries.findSome? (builtUnder number) := by
  induction entries with
  | nil => rfl
  | cons entry rest ih =>
    rw [List.map_cons, List.findSome?_cons, declarationEvent, builtUnder]
    cases entry.1.build? entry.2 with
    | none => simpa using ih
    | some payload =>
      rw [callsOf_cons_call, List.findSome?_cons, ih, Call.payloadType?, Option.bind_some]

/-- The events of header extensions are calls that add one. -/
theorem exists_of_mem_extensionEvents {configured : Table Int String} {audio video : OctoChannel}
    {call : Call} (h : .call call ∈ extensionEvents configured audio video) :
    ∃ number uri, call = .addExtension number uri := by
  obtain ⟨entry, _, hentry⟩ := List.mem_map.1 h
  cases hentry
  exact ⟨entry.1, entry.2, rfl⟩

/-- The calls among the events of payload types add one. -/
theorem exists_of_mem_payloadEvents {audio video : OctoChannel} {call : Call}
    (h : .call call ∈ payloadEvents audio video) : ∃ payload, call = .addPayloadType payload := by
  obtain ⟨entry, _, hentry⟩ := List.mem_map.1 h
  unfold declarationEvent at hentry
  split at hentry
  · next payload _ =>
    cases hentry
    exact ⟨payload, rfl⟩
  · cases hentry

/-- No extension is added as a payload type. -/
theorem findSome?_extensionEvents (number : Int) (configured : Table Int String)
    (audio video : OctoChannel) :
    (callsOf (extensionEvents configured audio video)).findSome? (Call.payloadType? number) =
      none := by
  refine List.findSome?_eq_none_iff.2 fun call hcall => ?_
  obtain ⟨_, _, rfl⟩ := exists_of_mem_extensionEvents (mem_callsOf.1 hcall)
  rfl

/-- Neither channel has expired if both last. -/
theorem tearsDown_eq_false {audio video : OctoChannel} (haudio : 0 < audio.expire)
    (hvideo : 0 < video.expire) : tearsDown audio video = false := by
  have hne : min audio.expire video.expire ≠ 0 := by omega
  simpa [tearsDown] using hne

/-- The calls of a reconciliation that does not tear the relay down. -/
theorem reconcile_calls_of_lasting (conference : String) (tentacle : Tentacle)
    {audio video : OctoChannel} (hlasting : tearsDown audio video = false) :
    (reconcile conference tentacle audio video).calls =
      .setRelays (mergedRelays audio video) ::
        (callsOf (extensionEvents tentacle.extensions audio video) ++
          callsOf (payloadEvents audio video) ++
            [.setSources audio.sources video.sources video.groups]) := by
  rw [reconcile, trace_calls, events, if_neg (by simp [hlasting])]
  simp

/-- The calls of a reconciliation of two channels that last. -/
theorem reconcile_calls (conference : String) (tentacle : Tentacle) {audio video : OctoChannel}
    (haudio : 0 < audio.expire) (hvideo : 0 < video.expire) :
    (reconcile conference tentacle audio video).calls =
      .setRelays (mergedRelays audio video) ::
        (callsOf (extensionEvents tentacle.extensions audio video) ++
          callsOf (payloadEvents audio video) ++
            [.setSources audio.sources video.sources video.groups]) :=
  reconcile_calls_of_lasting conference tentacle (tearsDown_eq_false haudio hvideo)

/-- The payload type of a number after a reconciliation is the one before, or the first one that is
built from the declarations, each with the media type of its key. -/
theorem get?_payloadTypes_reconcile_of_lasting (conference : String) (tentacle : Tentacle)
    {audio video : OctoChannel} (hlasting : tearsDown audio video = false) (number : Int) :
    (reconcile conference tentacle audio video).tentacle.payloadTypes.get? number =
      (tentacle.payloadTypes.get? number).or
        ((audio.payloadTypes ++ video.payloadTypes).findSome? fun declaration =>
          builtUnder number (declaration, mergedMedia video declaration.key)) := by
  have hmerged : (mergedDeclarations audio video).values.findSome? (builtUnder number) =
      (audio.payloadTypes ++ video.payloadTypes).findSome? fun declaration =>
        builtUnder number (declaration, mergedMedia video declaration.key) := by
    have hlast := Registry.findSome?_values_ofList (builtUnder number)
      (keyedDeclarations audio .audio ++ keyedDeclarations video .video)
    have hbuilt : ∀ declaration ∈ audio.payloadTypes ++ video.payloadTypes,
        ((mergedDeclarations audio video).get? declaration.key).bind (builtUnder number) =
          builtUnder number (declaration, mergedMedia video declaration.key) := by
      intro declaration hdeclared
      obtain ⟨merged, hkey, hget⟩ := exists_get?_mergedDeclarations (List.mem_append.1 hdeclared)
      rw [hget, Option.bind_some, builtUnder, builtUnder,
        PayloadDeclaration.build?_congr hkey]
    rw [mergedDeclarations, hlast, ← findSome?_congr hbuilt, List.findSome?_append,
      List.findSome?_append, keyedDeclarations, keyedDeclarations, List.findSome?_map,
      List.findSome?_map]
    rfl
  have hcalls := reconcile_calls_of_lasting conference tentacle hlasting
  rw [reconcile, trace_calls] at hcalls
  rw [reconcile, trace_tentacle, Tentacle.payloadTypes_applyAll, hcalls, List.findSome?_cons,
    List.findSome?_append, List.findSome?_append, findSome?_extensionEvents, payloadEvents,
    findSome?_declarationEvents, hmerged]
  simp [Call.payloadType?]

/-- The payload type of a number after a reconciliation of two channels that last. -/
theorem get?_payloadTypes_reconcile (conference : String) (tentacle : Tentacle)
    {audio video : OctoChannel} (haudio : 0 < audio.expire) (hvideo : 0 < video.expire)
    (number : Int) :
    (reconcile conference tentacle audio video).tentacle.payloadTypes.get? number =
      (tentacle.payloadTypes.get? number).or
        ((audio.payloadTypes ++ video.payloadTypes).findSome? fun declaration =>
          builtUnder number (declaration, mergedMedia video declaration.key)) :=
  get?_payloadTypes_reconcile_of_lasting conference tentacle (tearsDown_eq_false haudio hvideo)
    number

/-- Adds what a declaration builds, unless it builds nothing or its number is taken. -/
def addDeclared (table : Table Int PayloadType) (entry : PayloadDeclaration × MediaType) :
    Table Int PayloadType :=
  match entry.1.build? entry.2 with
  | some payload => table.insertIfNew payload.number payload
  | none => table

/-- All declarations in order, those for sound first, with the media type that each is built for. -/
def plainDeclarations (audio video : OctoChannel) : List (PayloadDeclaration × MediaType) :=
  (audio.payloadTypes.map fun declaration => (declaration, mergedMedia video declaration.key)) ++
    video.payloadTypes.map fun declaration => (declaration, .video)

/-- The payload type of a number after a plain pass is the one before, or the first one built. -/
theorem get?_foldl_addDeclared (number : Int) (entries : List (PayloadDeclaration × MediaType))
    (table : Table Int PayloadType) :
    (entries.foldl addDeclared table).get? number =
      (table.get? number).or (entries.findSome? (builtUnder number)) := by
  induction entries generalizing table with
  | nil => simp
  | cons entry rest ih =>
    rw [List.foldl_cons, ih, List.findSome?_cons, addDeclared, builtUnder]
    cases entry.1.build? entry.2 with
    | none => rfl
    | some payload =>
      rw [Option.bind_some, Table.get?_insertIfNew_eq_or, Option.or_assoc]
      by_cases hnumber : payload.number = number <;> simp [hnumber]

/-- A search through the plain declarations is one through both channels, each declaration with the
media type of its key. -/
theorem findSome?_plainDeclarations {α : Type} (search : PayloadDeclaration × MediaType → Option α)
    (audio video : OctoChannel) :
    (plainDeclarations audio video).findSome? search =
      (audio.payloadTypes ++ video.payloadTypes).findSome? fun declaration =>
        search (declaration, mergedMedia video declaration.key) := by
  have hvideo : ∀ declaration ∈ video.payloadTypes,
      search (declaration, .video) = search (declaration, mergedMedia video declaration.key) := by
    intro declaration hdeclared
    have hkey : declaration.key ∈ declaredKeys video := List.mem_map_of_mem hdeclared
    rw [mergedMedia, if_pos hkey]
  rw [plainDeclarations, List.findSome?_append, List.findSome?_append, List.findSome?_map,
    List.findSome?_map, ← findSome?_congr hvideo]
  rfl

/-- What is found among the declarations depends on their keys, and repetitions do not matter. -/
theorem findSome?_declarations_eq_keys :
    ∃ search : Int → (PayloadKey → MediaType) → PayloadKey → Option PayloadType,
      ∀ number mediaOf (declarations : List PayloadDeclaration),
        (declarations.findSome? fun declaration =>
            builtUnder number (declaration, mediaOf declaration.key)) =
          (declarations.map PayloadDeclaration.key).eraseDups.findSome?
            (search number mediaOf) := by
  obtain ⟨build, hbuild⟩ := exists_build_of_key
  refine ⟨fun number mediaOf key => (build key (mediaOf key)).bind fun payload =>
    if payload.number = number then some payload else none, fun number mediaOf declarations => ?_⟩
  rw [findSome?_eraseDups, List.findSome?_map]
  refine findSome?_congr fun declaration _ => ?_
  rw [builtUnder, hbuild]
  rfl

/-- The media type of a key does not depend on repeated declarations. -/
theorem mergedMedia_congr {video other : OctoChannel}
    (h : (declaredKeys other).eraseDups = (declaredKeys video).eraseDups) :
    mergedMedia other = mergedMedia video := by
  funext key
  have hmem : key ∈ declaredKeys other ↔ key ∈ declaredKeys video := by
    rw [← List.mem_eraseDups, h, List.mem_eraseDups]
  simp only [mergedMedia, hmem]

/-- Reconciliation adds payload types as a plain pass over all declarations would, in which one for
sound is built for pictures if the video channel declares the same key. A declaration may be
repeated, and any of its duplicates may stand in its first place. -/
theorem payloadTypes_reconcile_eq_plain (conference : String) (tentacle : Tentacle)
    {audio video : OctoChannel} (haudio : 0 < audio.expire) (hvideo : 0 < video.expire) :
    (reconcile conference tentacle audio video).tentacle.payloadTypes =
        (plainDeclarations audio video).foldl addDeclared tentacle.payloadTypes ∧
      ∀ audio' video' : OctoChannel, 0 < audio'.expire → 0 < video'.expire →
        (declaredKeys audio').eraseDups = (declaredKeys audio).eraseDups →
        (declaredKeys video').eraseDups = (declaredKeys video).eraseDups →
        (reconcile conference tentacle audio' video').tentacle.payloadTypes =
          (reconcile conference tentacle audio video).tentacle.payloadTypes := by
  constructor
  · refine Table.ext_get? fun number => ?_
    rw [get?_payloadTypes_reconcile conference tentacle haudio hvideo, get?_foldl_addDeclared,
      findSome?_plainDeclarations]
  · intro audio' video' haudio' hvideo' hkeys hkeys'
    refine Table.ext_get? fun number => ?_
    obtain ⟨search, hsearch⟩ := findSome?_declarations_eq_keys
    rw [get?_payloadTypes_reconcile conference tentacle haudio' hvideo',
      get?_payloadTypes_reconcile conference tentacle haudio hvideo, mergedMedia_congr hkeys',
      List.findSome?_append, List.findSome?_append, hsearch, hsearch, hsearch, hsearch]
    rw [declaredKeys, declaredKeys] at hkeys hkeys'
    rw [hkeys, hkeys']

/-- One declaration in two spellings counts as one. -/
theorem payloadTypes_reconcile_two_spellings :
    let opus : PayloadDeclaration :=
      { number := 111, name := "opus", clockRate := 48000, channels := 2, parameters := .empty,
        feedback := [] }
    let audio : OctoChannel :=
      { id := none, expire := 60, relays := .empty, extensions := [], payloadTypes := [opus],
        sources := [], groups := [] }
    let repeating : OctoChannel :=
      { audio with payloadTypes := [{ opus with name := "Opus" }, opus] }
    let video : OctoChannel :=
      { audio with payloadTypes := [{ opus with number := 100, name := "vp8" }] }
    0 < audio.expire ∧ 0 < video.expire ∧ 0 < repeating.expire ∧
      (declaredKeys repeating).eraseDups = (declaredKeys audio).eraseDups ∧
      (reconcile "meeting" .fresh repeating video).tentacle.payloadTypes =
        (plainDeclarations audio video).foldl addDeclared .empty ∧
      ((plainDeclarations audio video).foldl addDeclared .empty).keys = [100, 111] := by
  intro opus audio repeating video
  have haudio : 0 < audio.expire := by decide
  have hvideo : 0 < video.expire := by decide
  have hrepeating : 0 < repeating.expire := by decide
  have hkeys : (declaredKeys repeating).eraseDups = (declaredKeys audio).eraseDups := by
    decide +kernel
  obtain ⟨hplain, hrepeated⟩ := payloadTypes_reconcile_eq_plain "meeting" .fresh haudio hvideo
  exact ⟨haudio, hvideo, hrepeating, hkeys,
    (hrepeated repeating video hrepeating hvideo hkeys rfl).trans hplain, by decide +kernel⟩

end Octo

end ConferenceBridge
