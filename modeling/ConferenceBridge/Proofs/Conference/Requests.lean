import ConferenceBridge.Proofs.Conference.Contents
import ConferenceBridge.Proofs.Conference.Run

/-!
# Requests to contents

Commands ask a content to be there, to make a channel or to change one. A content is what the
requests to it have made of it, one after the other, and requests to other contents leave it alone.
A view lists the contents that were asked for, each where it was asked for first.
-/

namespace ConferenceBridge

/-- What is asked of a content. -/
inductive ContentRequest where
  /-- To be there. -/
  | use
  /-- To make a channel with an id. -/
  | make (id : String) (options : ChannelOptions)
  /-- To change the channel that was made with an id. -/
  | alter (id : String) (change : ChannelChange)
  deriving DecidableEq

namespace ContentRequest

/-- What a request makes of a content of a media type. -/
def apply (media : MediaType) (content : Content) : ContentRequest → Content
  | .use => content
  | .make id options => content.put id (.make id media options)
  | .alter id change =>
    match content.get? id with
    | some channel => content.put id (channel.change change)
    | none => content

/-- What a request makes of the channel under an id: a new channel takes its place, and a change
changes it. -/
def applyUnder (media : MediaType) (id : String) (channel : Option Channel) :
    ContentRequest → Option Channel
  | .use => channel
  | .make other options => if other = id then some (.make id media options) else channel
  | .alter other change =>
    if other = id then channel.map fun channel => channel.change change else channel

/-- The id of the channel that a request makes. -/
def madeId? : ContentRequest → Option String
  | .make id _ => some id
  | _ => none

/-- A request that leaves each channel its id and its media type. -/
def KeepsIds : ContentRequest → Prop
  | .alter _ change => change.id = none ∧ change.media = none
  | _ => True

end ContentRequest

/-- The content of a media type after several requests. -/
def contentAfter (media : MediaType) (requests : List ContentRequest) : Content :=
  requests.foldl (ContentRequest.apply media) .empty

/-- The channel under an id after several requests. -/
def channelAfter (media : MediaType) (id : String) (requests : List ContentRequest) :
    Option Channel :=
  requests.foldl (ContentRequest.applyUnder media id) none

/-- The ids of the channels that are made. -/
def madeIds (requests : List ContentRequest) : List String :=
  requests.filterMap ContentRequest.madeId?

/-! ### What requests make of a content -/

/-- The last request meets what the others have made. -/
theorem contentAfter_concat (media : MediaType) (requests : List ContentRequest)
    (request : ContentRequest) :
    contentAfter media (requests ++ [request]) =
      request.apply media (contentAfter media requests) := by
  rw [contentAfter, List.foldl_append]
  rfl

/-- What is found under an id is what the requests have made of the channel under it. -/
theorem get?_contentAfter (media : MediaType) (requests : List ContentRequest) (id : String) :
    (contentAfter media requests).get? id = channelAfter media id requests := by
  induction requests using List.reverseRecOn with
  | nil => rfl
  | append_singleton requests request ih =>
    rw [contentAfter_concat, channelAfter, List.foldl_append, ← channelAfter, ← ih]
    cases request with
    | use => rfl
    | make other options =>
      rw [ContentRequest.apply, Registry.get?_put]
      by_cases h : other = id <;> simp [ContentRequest.applyUnder, h]
    | alter other change =>
      by_cases h : other = id
      · subst h
        cases hfound : (contentAfter media requests).get? other <;>
          simp [ContentRequest.apply, ContentRequest.applyUnder, hfound, Registry.get?_put]
      · cases hfound : (contentAfter media requests).get? other <;>
          simp [ContentRequest.apply, ContentRequest.applyUnder, hfound, Registry.get?_put, h]

/-- Channels stand where their ids were made first. -/
theorem keys_contentAfter (media : MediaType) (requests : List ContentRequest) :
    (contentAfter media requests).keys = (madeIds requests).eraseDups := by
  induction requests using List.reverseRecOn with
  | nil => rfl
  | append_singleton requests request ih =>
    rw [contentAfter_concat, madeIds, filterMap_concat, ← madeIds]
    cases request with
    | use => simpa [ContentRequest.apply, ContentRequest.madeId?] using ih
    | make id options =>
      rw [ContentRequest.apply, Registry.keys_put, ih]
      simp [ContentRequest.madeId?, eraseDups_concat]
    | alter id change =>
      have hkeys : (ContentRequest.apply media (contentAfter media requests)
          (.alter id change)).keys = (contentAfter media requests).keys := by
        cases hfound : (contentAfter media requests).get? id with
        | none => simp [ContentRequest.apply, hfound]
        | some channel =>
          have hmem : id ∈ (contentAfter media requests).keys :=
            List.mem_map.2 ⟨_, (Registry.mem_entries_iff _).2 hfound, rfl⟩
          simp [ContentRequest.apply, hfound, Registry.keys_put, hmem]
      rw [hkeys, ih]
      simp [ContentRequest.madeId?]

/-- A channel keeps the id under which it stands and the media type of its content. -/
theorem id_media_of_channelAfter {media : MediaType} {requests : List ContentRequest}
    (hrequests : ∀ request ∈ requests, request.KeepsIds) {id : String} {channel : Channel}
    (h : channelAfter media id requests = some channel) :
    channel.id = id ∧ channel.media = media := by
  induction requests using List.reverseRecOn generalizing channel with
  | nil => cases h
  | append_singleton requests request ih =>
    obtain ⟨hearlier, hrequest⟩ := List.forall_mem_append.1 hrequests
    have hkeeps := hrequest request (List.mem_singleton_self _)
    rw [channelAfter, List.foldl_append, ← channelAfter] at h
    cases request with
    | use => exact ih hearlier h
    | make other options =>
      simp only [List.foldl_cons, List.foldl_nil, ContentRequest.applyUnder] at h
      split at h
      · cases h
        exact ⟨rfl, rfl⟩
      · exact ih hearlier h
    | alter other change =>
      simp only [List.foldl_cons, List.foldl_nil, ContentRequest.applyUnder] at h
      split at h
      · obtain ⟨before, hbefore, rfl⟩ := Option.map_eq_some_iff.1 h
        obtain ⟨hid, hmedia⟩ := ih hearlier hbefore
        exact ⟨by simp [Channel.change, hkeeps.1, hid], by simp [Channel.change, hkeeps.2, hmedia]⟩
      · exact ih hearlier h

/-! ### Requests along a run -/

/-- The request that a command makes, and the content that it makes it of. -/
def Command.request? : Command → Option (ContentRef × ContentRequest)
  | .openContent ref | .findChannel ref _ | .listChannels ref => some (ref, .use)
  | .createChannel ref id options => some (ref, .make id options)
  | .changeChannel ref id change => some (ref, .alter id change)
  | _ => none

/-- The request of a turn, unless it goes to a view that there is none of. -/
def Turn.request? (turn : Turn) : Option (ContentRef × ContentRequest) :=
  turn.command.request?.filter fun request =>
    request.1.view < turn.before.conference.views.length

/-- The requests of several turns. -/
def requests (past : List Turn) : List (ContentRef × ContentRequest) :=
  past.filterMap Turn.request?

/-- The requests to one content. -/
def requestsTo (ref : ContentRef) (made : List (ContentRef × ContentRequest)) :
    List ContentRequest :=
  (made.filter fun request => request.1 == ref).map Prod.snd

/-- The media types of the contents of a view that requests go to. -/
def mediaAskedFor (view : Nat) (made : List (ContentRef × ContentRequest)) : List MediaType :=
  (made.filter fun request => request.1.view == view).map fun request => request.1.media

namespace Conference

variable {conference : Conference}

/-- Changes that agree on a content are the same change of it. -/
theorem modifyContent_congr {ref : ContentRef} {change other : Content → Content}
    (h : change (conference.content ref) = other (conference.content ref)) :
    conference.modifyContent ref change = conference.modifyContent ref other := by
  have hviews : (conference.modifyContent ref change).views =
      (conference.modifyContent ref other).views := by
    refine List.ext_getElem? fun view => ?_
    rw [modifyContent, modifyContent, List.getElem?_modify, List.getElem?_modify]
    cases hfound : conference.views[view]? with
    | none => rfl
    | some found =>
      by_cases hview : ref.view = view
      · subst hview
        rw [content_eq, hfound] at h
        simp only [Option.bind_some] at h
        simp [h]
      · simp [hview]
  unfold modifyContent at hviews ⊢
  simpa using hviews

/-- Changing a channel is a request to its content. -/
theorem changeChannel_eq (conference : Conference) (ref : ContentRef) (id : String)
    (change : ChannelChange) :
    conference.changeChannel ref id change =
      conference.modifyContent ref ((ContentRequest.alter id change).apply ref.media ·) := by
  unfold changeChannel
  split
  · next channel hchannel =>
    refine modifyContent_congr ?_
    simp [ContentRequest.apply, hchannel]
  · next hnone =>
    refine modifyContent_congr ?_
    simp [ContentRequest.apply, hnone]

/-- The contents of a view come from the views. -/
theorem contents_eq (conference : Conference) (view : Nat) :
    conference.contents view =
      (conference.views[view]?.map fun view => view.contents.entries).getD [] := by
  unfold contents
  cases conference.views[view]? <;> rfl

/-- A change of a content that is not in use lists it last in its view, and any other change leaves
the lists as they are. -/
theorem media_modifyContent (conference : Conference) (ref : ContentRef)
    (change : Content → Content) (view : Nat) :
    ((conference.modifyContent ref change).contents view).map Prod.fst =
      if ref.view = view ∧ view < conference.views.length ∧
        ref.media ∉ (conference.contents view).map Prod.fst then
          (conference.contents view).map Prod.fst ++ [ref.media]
      else (conference.contents view).map Prod.fst := by
  rw [contents_eq, contents_eq, modifyContent, List.getElem?_modify]
  cases hfound : conference.views[view]? with
  | none => simp [Nat.not_lt.2 (List.getElem?_eq_none_iff.1 hfound)]
  | some found =>
    have hlt := (List.getElem?_eq_some_iff.1 hfound).1
    by_cases hview : ref.view = view
    · have hkeys := Entries.keys_put ref.media
        (change ((found.contents.get? ref.media).getD .empty)) found.contents.entries
      by_cases hmem : ref.media ∈ found.contents.entries.map Prod.fst
      · rw [if_pos hmem] at hkeys
        simp [hview, Registry.put, hkeys, hmem]
      · rw [if_neg hmem] at hkeys
        simp [hview, hlt, Registry.put, hkeys, hmem]
    · simp [hview]

/-- A conference whose contents are what the requests to them have made. -/
structure RequestedBy (conference : Conference) (made : List (ContentRef × ContentRequest)) :
    Prop where
  /-- Only contents of views that there are were asked for. -/
  views : ∀ request ∈ made, request.1.view < conference.views.length
  /-- A content is what the requests to it have made. -/
  content : ∀ ref, conference.content ref = contentAfter ref.media (requestsTo ref made)
  /-- A view lists the contents that were asked for, each where it was asked for first. -/
  media : ∀ view, (conference.contents view).map Prod.fst = (mediaAskedFor view made).eraseDups

variable {made : List (ContentRef × ContentRequest)}

/-- Without views nothing was asked for. -/
theorem requestedBy_fresh (id : String) (name : Option String) :
    (fresh id name).RequestedBy [] where
  views _ h := by cases h
  content _ := rfl
  media _ := rfl

/-- Views may be added as long as they have no contents. -/
theorem RequestedBy.addViews (h : conference.RequestedBy made) {other : Conference}
    {added : List View} (hviews : other.views = conference.views ++ added)
    (hadded : ∀ view ∈ added, view.contents = .empty) : other.RequestedBy made where
  views request hrequest := by
    have hlt := h.views request hrequest
    rw [hviews, List.length_append]
    omega
  content ref := by
    rw [← h.content, content_eq, content_eq, hviews, List.getElem?_append]
    split
    · rfl
    · next hnew =>
      rw [List.getElem?_eq_none (by omega : conference.views.length ≤ ref.view)]
      cases hfound : added[ref.view - conference.views.length]? with
      | none => rfl
      | some view => simp [hadded view (List.mem_of_getElem? hfound)]
  media view := by
    rw [← h.media, contents_eq, contents_eq, hviews, List.getElem?_append]
    split
    · rfl
    · next hnew =>
      rw [List.getElem?_eq_none (by omega : conference.views.length ≤ view)]
      cases hfound : added[view - conference.views.length]? with
      | none => rfl
      | some found => simp [hadded found (List.mem_of_getElem? hfound), Registry.empty]

/-- A request changes the content that it goes to. -/
theorem RequestedBy.request (h : conference.RequestedBy made) {ref : ContentRef}
    (hview : ref.view < conference.views.length) (request : ContentRequest) :
    (conference.modifyContent ref (request.apply ref.media ·)).RequestedBy
      (made ++ [(ref, request)]) where
  views other hother := by
    rw [modifyContent, List.length_modify]
    obtain hearlier | hnew := List.mem_append.1 hother
    · exact h.views other hearlier
    · rwa [List.mem_singleton.1 hnew]
  content other := by
    rw [content_modifyContent, requestsTo, List.filter_append, List.map_append, ← requestsTo]
    by_cases hsame : ref = other
    · subst hsame
      rw [if_pos ⟨rfl, hview⟩, h.content]
      simp [contentAfter_concat]
    · simp [hsame, h.content]
  media view := by
    rw [media_modifyContent, mediaAskedFor, List.filter_append, List.map_append, ← mediaAskedFor,
      h.media]
    by_cases hsame : ref.view = view
    · subst hsame
      simp [hview, eraseDups_concat, List.mem_eraseDups]
    · simp [hsame]

end Conference

namespace Bridge

/-- A command that makes a request of a content changes the views accordingly. -/
theorem views_run_of_request (bridge : Bridge) {command : Command} {ref : ContentRef}
    {request : ContentRequest} (hrequest : command.request? = some (ref, request)) :
    (bridge.run command).bridge.conference.views =
      (bridge.conference.modifyContent ref (request.apply ref.media ·)).views := by
  cases command with
  | openContent | findChannel | listChannels =>
    cases hrequest
    rfl
  | createChannel ref id options =>
    cases hrequest
    exact Conference.views_attach ..
  | changeChannel ref id change =>
    cases hrequest
    exact congrArg Conference.views (bridge.conference.changeChannel_eq ref id change)
  | _ => cases hrequest

/-- Any other command adds views at most. -/
theorem views_run_of_none (bridge : Bridge) {command : Command}
    (hrequest : command.request? = none) :
    ∃ added, (bridge.run command).bridge.conference.views = bridge.conference.views ++ added ∧
      ∀ view ∈ added, view.contents = .empty := by
  have hsame : (bridge.run command).bridge.conference.views = bridge.conference.views →
      ∃ added, (bridge.run command).bridge.conference.views = bridge.conference.views ++ added ∧
        ∀ view ∈ added, view.contents = .empty :=
    fun h => ⟨[], by simp [h], by simp⟩
  cases command with
  | addView octoEnabled => exact ⟨_, rfl, by simp⟩
  | rejoinEndpoint number =>
    refine hsame ?_
    rw [run, replyWith, reply, Conference.rejoinEndpoint]
    split <;> rfl
  | updateEndpoint description =>
    obtain ⟨_, _, _, hupdated⟩ := bridge.bridge_updateEndpoint description
    exact hsame (by rw [run, hupdated, Conference.modifyEndpoint])
  | reconcile view audio video =>
    obtain ⟨_, hrelayed⟩ := bridge.bridge_reconcile view audio video
    exact hsame (by rw [run, hrelayed])
  | describeBundles number ids =>
    exact hsame (by rw [run, bridge_describeBundles, withRecord])
  | openContent | createChannel | findChannel | listChannels | changeChannel => cases hrequest
  | _ => exact hsame rfl

/-- A command makes of the contents what it asks of them. -/
theorem requestedBy_run {past : List Turn} {bridge : Bridge} (command : Command)
    (h : bridge.conference.RequestedBy (requests past)) :
    (bridge.run command).bridge.conference.RequestedBy
      (requests (past ++ [⟨bridge, command⟩])) := by
  rw [requests, filterMap_concat, ← requests, Turn.request?]
  cases hrequest : command.request? with
  | none =>
    obtain ⟨added, hviews, hadded⟩ := bridge.views_run_of_none hrequest
    simpa using h.addViews hviews hadded
  | some asked =>
    obtain ⟨ref, request⟩ := asked
    have hviews := bridge.views_run_of_request hrequest
    by_cases hview : ref.view < bridge.conference.views.length
    · have hrequested := (h.request hview request).addViews
        (hviews.trans (List.append_nil _).symm) (by simp)
      simpa [Option.filter, hview] using hrequested
    · have hsame : (bridge.run command).bridge.conference.views =
          bridge.conference.views ++ [] := by
        rw [hviews, Conference.modifyContent, List.modify_eq_self (by omega), List.append_nil]
      simpa [Option.filter, hview] using h.addViews hsame (by simp)

end Bridge

/-- The contents along a run are what the requests to them have made. -/
theorem requestedBy_after (id : String) (name : Option String) (octoEnabled : Bool)
    (commands : List Command) :
    ((Bridge.fresh id name octoEnabled).after commands).conference.RequestedBy
      (requests ((Bridge.fresh id name octoEnabled).turns commands)) := by
  have hstart : (Bridge.fresh id name octoEnabled).conference.RequestedBy (requests []) :=
    (Conference.requestedBy_fresh id name).addViews rfl (by simp)
  exact Bridge.holdsAlong (fun past bridge => bridge.conference.RequestedBy (requests past))
    (fun command (_ : True) h => Bridge.requestedBy_run command h) (fun _ _ => trivial) hstart

end ConferenceBridge
