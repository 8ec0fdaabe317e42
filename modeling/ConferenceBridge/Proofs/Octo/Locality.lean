import ConferenceBridge.Proofs.Octo.Merging

/-!
# Numbers do not interfere

What a reconciliation leaves under a number depends on what stood there before and on what the
channels declare for that number. Declarations of other numbers may be repeated, contradict each
other or be unusable, and they may be moved among the declarations of this one.
-/

namespace ConferenceBridge

namespace OctoChannel

/-- The payload types that a channel declares for a number, in order. -/
def payloadTypesOf (channel : OctoChannel) (number : Int) : List PayloadDeclaration :=
  channel.payloadTypes.filter fun declaration => declaration.number == number

/-- The header extensions that a channel declares for a number, in order. -/
def extensionsOf (channel : OctoChannel) (number : Int) : List HeaderExtension :=
  channel.extensions.filter fun extension => extension.number == number

/-- A channel without what it declares for a number. -/
def without (channel : OctoChannel) (number : Int) : OctoChannel :=
  { channel with
    payloadTypes := channel.payloadTypes.filter fun declaration => declaration.number != number
    extensions := channel.extensions.filter fun extension => extension.number != number }

/-- Leaving one number out keeps what is declared for another. -/
theorem payloadTypesOf_without (channel : OctoChannel) {dropped number : Int}
    (h : dropped ≠ number) :
    (channel.without dropped).payloadTypesOf number = channel.payloadTypesOf number := by
  rw [payloadTypesOf, without, List.filter_filter]
  refine List.filter_congr fun declaration _ => ?_
  by_cases hnumber : declaration.number = number <;> simp [hnumber, h.symm]

/-- Leaving one number out keeps the header extensions of another. -/
theorem extensionsOf_without (channel : OctoChannel) {dropped number : Int}
    (h : dropped ≠ number) :
    (channel.without dropped).extensionsOf number = channel.extensionsOf number := by
  rw [extensionsOf, without, List.filter_filter]
  refine List.filter_congr fun extension _ => ?_
  by_cases hnumber : extension.number = number <;> simp [hnumber, h.symm]

end OctoChannel

namespace Octo

/-! ### Payload types -/

/-- A declaration of another number builds nothing for a number. -/
theorem builtUnder_eq_none {number : Int} {entry : PayloadDeclaration × MediaType}
    (h : entry.1.number ≠ number) : builtUnder number entry = none := by
  refine Option.bind_eq_none_iff.2 fun payload hbuild => if_neg ?_
  rw [PayloadDeclaration.number_of_build? hbuild]
  exact h

/-- A channel declares the key of a declaration if the declarations of that number have it. -/
theorem key_mem_declaredKeys_iff {channel : OctoChannel} {declaration : PayloadDeclaration} :
    declaration.key ∈ declaredKeys channel ↔
      declaration.key ∈
        (channel.payloadTypesOf declaration.number).map PayloadDeclaration.key := by
  simp only [declaredKeys, OctoChannel.payloadTypesOf, List.mem_map, List.mem_filter, beq_iff_eq]
  constructor
  · rintro ⟨declared, hdeclared, hkey⟩
    exact ⟨declared, ⟨hdeclared, congrArg PayloadKey.number hkey⟩, hkey⟩
  · rintro ⟨declared, ⟨hdeclared, _⟩, hkey⟩
    exact ⟨declared, hdeclared, hkey⟩

/-- The media type that a declaration is built for depends on what the video channel declares for
its number. -/
theorem mergedMedia_local {video other : OctoChannel} {declaration : PayloadDeclaration}
    (h : video.payloadTypesOf declaration.number = other.payloadTypesOf declaration.number) :
    mergedMedia video declaration.key = mergedMedia other declaration.key := by
  simp only [mergedMedia, key_mem_declaredKeys_iff, h]

/-- The first payload type that is built for a number is found among the declarations of that
number. -/
theorem findSome?_builtUnder_local (number : Int) (mediaOf : PayloadKey → MediaType)
    (audio video : OctoChannel) :
    ((audio.payloadTypes ++ video.payloadTypes).findSome? fun declaration =>
        builtUnder number (declaration, mediaOf declaration.key)) =
      (audio.payloadTypesOf number ++ video.payloadTypesOf number).findSome? fun declaration =>
        builtUnder number (declaration, mediaOf declaration.key) := by
  rw [OctoChannel.payloadTypesOf, OctoChannel.payloadTypesOf, ← List.filter_append]
  refine (findSome?_filter_of_skip (fun declaration hother => ?_) _).symm
  have hnumber : declaration.number ≠ number := by simpa using hother
  exact builtUnder_eq_none hnumber

/-! ### Header extensions -/

/-- Looking for an extension among the calls that add extensions is looking its number up. -/
theorem findSome?_addExtension (number : Int) (entries : List (Int × String)) :
    (entries.map fun entry => Call.addExtension entry.1 entry.2).findSome?
        (Call.extension? number) = Entries.find? number entries := by
  induction entries with
  | nil => rfl
  | cons entry rest ih =>
    rw [List.map_cons, List.findSome?_cons, ih, Entries.find?_cons, Call.extension?]
    by_cases hnumber : entry.1 = number <;> simp [hnumber]

/-- No payload type is added as an extension. -/
theorem findSome?_payloadEvents (number : Int) (audio video : OctoChannel) :
    (callsOf (payloadEvents audio video)).findSome? (Call.extension? number) = none := by
  refine List.findSome?_eq_none_iff.2 fun call hcall => ?_
  obtain ⟨_, rfl⟩ := exists_of_mem_payloadEvents (mem_callsOf.1 hcall)
  rfl

/-- The name of a header extension after a reconciliation is the one before, or the first one that
is declared. -/
theorem get?_extensions_reconcile_of_lasting (conference : String) (tentacle : Tentacle)
    {audio video : OctoChannel} (hlasting : tearsDown audio video = false) (number : Int) :
    (reconcile conference tentacle audio video).tentacle.extensions.get? number =
      (tentacle.extensions.get? number).or
        (Entries.find? number
          ((audio.extensions ++ video.extensions).map fun e => (e.number, e.uri))) := by
  have hcalls := reconcile_calls_of_lasting conference tentacle hlasting
  rw [reconcile, trace_calls] at hcalls
  rw [reconcile, trace_tentacle, Tentacle.extensions_applyAll, hcalls, List.findSome?_cons,
    List.findSome?_append, List.findSome?_append, findSome?_payloadEvents,
    extensionEvents, callsOf_map_call, findSome?_addExtension]
  simp only [Call.extension?, List.findSome?_cons, List.findSome?_nil, Option.or_none]
  cases hkept : tentacle.extensions.get? number with
  | some uri => rfl
  | none =>
    -- A number that is not configured is not filtered out.
    have hnew : ∀ entry ∈ (mergedExtensions audio video).entries, entry.1 = number →
        (!tentacle.extensions.contains entry.1) = true := by
      intro entry _ hnumber
      simp [Table.contains, hnumber, hkept]
    rw [Entries.find?_filter hnew]
    exact congrArg (Option.or none) (Registry.get?_ofFirsts _ number)

/-- The name of a header extension after a reconciliation of two channels that last. -/
theorem get?_extensions_reconcile (conference : String) (tentacle : Tentacle)
    {audio video : OctoChannel} (haudio : 0 < audio.expire) (hvideo : 0 < video.expire)
    (number : Int) :
    (reconcile conference tentacle audio video).tentacle.extensions.get? number =
      (tentacle.extensions.get? number).or
        (Entries.find? number
          ((audio.extensions ++ video.extensions).map fun e => (e.number, e.uri))) :=
  get?_extensions_reconcile_of_lasting conference tentacle (tearsDown_eq_false haudio hvideo) number

/-- The name that channels give to a number is found among the extensions of that number. -/
theorem find?_extensions_local (number : Int) (audio video : OctoChannel) :
    Entries.find? number
        ((audio.extensions ++ video.extensions).map fun e => (e.number, e.uri)) =
      Entries.find? number
        ((audio.extensionsOf number ++ video.extensionsOf number).map
          fun e => (e.number, e.uri)) := by
  have hof : ∀ entry ∈ (audio.extensions ++ video.extensions).map fun e => (e.number, e.uri),
      entry.1 = number → (entry.1 == number) = true := by
    intro entry _ hnumber
    simpa using hnumber
  rw [← Entries.find?_filter hof, List.filter_map, OctoChannel.extensionsOf,
    OctoChannel.extensionsOf, ← List.filter_append]
  rfl

/-! ### Both tables -/

section TwoRuns

variable {audio audio' video video' : OctoChannel}

/-- Two reconciliations leave the same payload type under a number if they found the same one and
their channels declare the same for it. -/
theorem payloadType_local (conference conference' : String) {tentacle tentacle' : Tentacle}
    (haudio : 0 < audio.expire) (hvideo : 0 < video.expire)
    (haudio' : 0 < audio'.expire) (hvideo' : 0 < video'.expire) {number : Int}
    (hbefore : tentacle.payloadTypes.get? number = tentacle'.payloadTypes.get? number)
    (hsound : audio.payloadTypesOf number = audio'.payloadTypesOf number)
    (hpictures : video.payloadTypesOf number = video'.payloadTypesOf number) :
    (reconcile conference tentacle audio video).tentacle.payloadTypes.get? number =
      (reconcile conference' tentacle' audio' video').tentacle.payloadTypes.get? number := by
  have hmedia : ∀ declaration ∈ audio'.payloadTypesOf number ++ video'.payloadTypesOf number,
      builtUnder number (declaration, mergedMedia video declaration.key) =
        builtUnder number (declaration, mergedMedia video' declaration.key) := by
    intro declaration _
    by_cases hnumber : declaration.number = number
    · subst hnumber
      rw [mergedMedia_local hpictures]
    · rw [builtUnder_eq_none hnumber, builtUnder_eq_none hnumber]
  rw [get?_payloadTypes_reconcile conference tentacle haudio hvideo,
    get?_payloadTypes_reconcile conference' tentacle' haudio' hvideo', hbefore,
    findSome?_builtUnder_local, findSome?_builtUnder_local, hsound, hpictures,
    findSome?_congr hmedia]

/-- Two reconciliations leave the same header extension under a number if they found the same one
and their channels declare the same for it. -/
theorem extension_local (conference conference' : String) {tentacle tentacle' : Tentacle}
    (haudio : 0 < audio.expire) (hvideo : 0 < video.expire)
    (haudio' : 0 < audio'.expire) (hvideo' : 0 < video'.expire) {number : Int}
    (hbefore : tentacle.extensions.get? number = tentacle'.extensions.get? number)
    (hsound : audio.extensionsOf number = audio'.extensionsOf number)
    (hpictures : video.extensionsOf number = video'.extensionsOf number) :
    (reconcile conference tentacle audio video).tentacle.extensions.get? number =
      (reconcile conference' tentacle' audio' video').tentacle.extensions.get? number := by
  rw [get?_extensions_reconcile conference tentacle haudio hvideo,
    get?_extensions_reconcile conference' tentacle' haudio' hvideo', hbefore,
    find?_extensions_local, find?_extensions_local, hsound, hpictures]

/-- What two reconciliations leave under a number is the same if they found the same there and their
channels declare the same for it. So declarations of different numbers may be reordered, and leaving
out all that is declared for one number changes nothing under another. -/
theorem reconcile_local (conference conference' : String) (tentacle tentacle' : Tentacle)
    (haudio : 0 < audio.expire) (hvideo : 0 < video.expire)
    (haudio' : 0 < audio'.expire) (hvideo' : 0 < video'.expire) :
    (∀ number, tentacle.payloadTypes.get? number = tentacle'.payloadTypes.get? number →
      audio.payloadTypesOf number = audio'.payloadTypesOf number →
      video.payloadTypesOf number = video'.payloadTypesOf number →
      (reconcile conference tentacle audio video).tentacle.payloadTypes.get? number =
        (reconcile conference' tentacle' audio' video').tentacle.payloadTypes.get? number) ∧
    (∀ number, tentacle.extensions.get? number = tentacle'.extensions.get? number →
      audio.extensionsOf number = audio'.extensionsOf number →
      video.extensionsOf number = video'.extensionsOf number →
      (reconcile conference tentacle audio video).tentacle.extensions.get? number =
        (reconcile conference' tentacle' audio' video').tentacle.extensions.get? number) ∧
    (audio.payloadTypesOf = audio'.payloadTypesOf → video.payloadTypesOf = video'.payloadTypesOf →
      audio.extensionsOf = audio'.extensionsOf → video.extensionsOf = video'.extensionsOf →
      (reconcile conference tentacle audio video).tentacle.payloadTypes =
          (reconcile conference' tentacle audio' video').tentacle.payloadTypes ∧
        (reconcile conference tentacle audio video).tentacle.extensions =
          (reconcile conference' tentacle audio' video').tentacle.extensions) ∧
    ∀ dropped number, dropped ≠ number →
      (reconcile conference tentacle (audio.without dropped)
          (video.without dropped)).tentacle.payloadTypes.get? number =
        (reconcile conference tentacle audio video).tentacle.payloadTypes.get? number ∧
      (reconcile conference tentacle (audio.without dropped)
          (video.without dropped)).tentacle.extensions.get? number =
        (reconcile conference tentacle audio video).tentacle.extensions.get? number := by
  refine ⟨fun number hbefore hsound hpictures => ?_, fun number hbefore hsound hpictures => ?_,
    fun haudible hvisible hsound hpictures => ⟨?_, ?_⟩, fun dropped number hother => ⟨?_, ?_⟩⟩
  · exact payloadType_local conference conference' haudio hvideo haudio' hvideo' hbefore hsound
      hpictures
  · exact extension_local conference conference' haudio hvideo haudio' hvideo' hbefore hsound
      hpictures
  · refine Table.ext_get? fun number => ?_
    exact payloadType_local conference conference' haudio hvideo haudio' hvideo' rfl
      (congrFun haudible number) (congrFun hvisible number)
  · refine Table.ext_get? fun number => ?_
    exact extension_local conference conference' haudio hvideo haudio' hvideo' rfl
      (congrFun hsound number) (congrFun hpictures number)
  · have haudible : 0 < (audio.without dropped).expire := haudio
    have hvisible : 0 < (video.without dropped).expire := hvideo
    exact payloadType_local conference conference haudible hvisible haudio hvideo rfl
      (audio.payloadTypesOf_without hother) (video.payloadTypesOf_without hother)
  · have haudible : 0 < (audio.without dropped).expire := haudio
    have hvisible : 0 < (video.without dropped).expire := hvideo
    exact extension_local conference conference haudible hvisible haudio hvideo rfl
      (audio.extensionsOf_without hother) (video.extensionsOf_without hother)

/-- An unusable and a contradicting declaration of other numbers do not touch number 111, on which
two different tentacles agree. -/
theorem reconcile_local_opus :
    let opus : PayloadDeclaration :=
      { number := 111, name := "opus", clockRate := 48000, channels := 2, parameters := .empty,
        feedback := [] }
    let pictures : PayloadDeclaration := { opus with number := 96, name := "VP8" }
    let audio : OctoChannel :=
      { id := none, expire := 60, relays := .empty, extensions := [⟨1, "urn:level"⟩],
        payloadTypes := [opus, { opus with channels := 1 }], sources := [], groups := [] }
    let audio' : OctoChannel :=
      { audio with
        extensions := [⟨2, "urn:time"⟩, ⟨1, "urn:level"⟩]
        payloadTypes := [{ opus with number := 0, name := "?" }, opus, pictures,
          { opus with channels := 1 }] }
    let video : OctoChannel := { audio with payloadTypes := [pictures], extensions := [] }
    let video' : OctoChannel := { video with expire := 30, payloadTypes := [] }
    let built : PayloadType :=
      { number := 111, encoding := "opus", media := .audio, clockRate := 48000, channels := 2,
        parameters := .empty, feedback := [] }
    let configured : Tentacle := Tentacle.fresh.apply (.addExtension 2 "urn:other")
    0 < audio.expire ∧ 0 < video.expire ∧ 0 < audio'.expire ∧ 0 < video'.expire ∧
      (reconcile "meeting" .fresh audio video).tentacle.payloadTypes.get? 111 = some built ∧
      (reconcile "lesson" configured audio' video').tentacle.payloadTypes.get? 111 = some built ∧
      (reconcile "lesson" configured audio' video').tentacle.extensions.get? 1 =
        (reconcile "meeting" .fresh audio video).tentacle.extensions.get? 1 := by
  intro opus pictures audio audio' video video' built configured
  have haudio : 0 < audio.expire := by decide
  have hvideo : 0 < video.expire := by decide
  have haudio' : 0 < audio'.expire := by decide
  have hvideo' : 0 < video'.expire := by decide
  obtain ⟨hpayload, hextension, _⟩ := reconcile_local "meeting" "lesson" .fresh configured haudio
    hvideo haudio' hvideo'
  have hbuilt : (reconcile "meeting" .fresh audio video).tentacle.payloadTypes.get? 111 =
      some built := by decide +kernel
  refine ⟨haudio, hvideo, haudio', hvideo', hbuilt, ?_, ?_⟩
  · rw [← hpayload 111 rfl (by decide +kernel) (by decide +kernel)]
    exact hbuilt
  · exact (hextension 1 rfl (by decide +kernel) (by decide +kernel)).symm

end TwoRuns

end Octo

end ConferenceBridge
