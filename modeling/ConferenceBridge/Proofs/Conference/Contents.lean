import ConferenceBridge.Conference
import ConferenceBridge.Proofs.Registry

/-!
# Contents after a change

What the operations of a conference do to its contents. A change of one content leaves the others as
they are, a new view has none, and attaching an endpoint to a content changes none.
-/

namespace ConferenceBridge.Conference

variable (conference : Conference)

/-- A content is what its view holds for the media type. -/
theorem content_eq (ref : ContentRef) :
    conference.content ref =
      (conference.views[ref.view]?.bind fun view => view.contents.get? ref.media).getD .empty := by
  unfold content
  cases conference.views[ref.view]? <;> rfl

/-- The contents depend on the views alone. -/
theorem content_congr {conference other : Conference} (h : conference.views = other.views)
    (ref : ContentRef) : conference.content ref = other.content ref := by
  rw [content, content, h]

/-- A new view has no contents. -/
theorem content_addView (octoEnabled : Bool) (ref : ContentRef) :
    (conference.addView octoEnabled).content ref = conference.content ref := by
  rw [content_eq, content_eq, addView, List.getElem?_append]
  split
  · rfl
  · next hnew =>
    have hnone : conference.views[ref.view]? = none := List.getElem?_eq_none (by omega)
    rw [hnone, List.getElem?_singleton]
    split <;> rfl

/-- A change of one content leaves the others as they are, and a content of no view is never
changed. -/
theorem content_modifyContent (ref other : ContentRef) (change : Content → Content) :
    (conference.modifyContent ref change).content other =
      if ref = other ∧ ref.view < conference.views.length then change (conference.content ref)
      else conference.content other := by
  rw [content_eq, content_eq, content_eq, modifyContent, List.getElem?_modify]
  cases hfound : conference.views[other.view]? with
  | none =>
    have hview : ¬(ref = other ∧ ref.view < conference.views.length) := by
      rintro ⟨rfl, hlt⟩
      rw [List.getElem?_eq_getElem hlt] at hfound
      cases hfound
    rw [if_neg hview]
    rfl
  | some view =>
    obtain ⟨hlt, rfl⟩ := List.getElem?_eq_some_iff.1 hfound
    by_cases hview : ref.view = other.view
    · by_cases hmedia : ref.media = other.media
      · have hsame : ref = other := by
          cases ref
          cases other
          simp_all
        subst hsame
        simp [hlt, Registry.get?_put]
      · have hother : ref ≠ other := fun h => hmedia (congrArg ContentRef.media h)
        simp [hother, hview, hmedia, Registry.get?_put]
    · have hother : ref ≠ other := fun h => hview (congrArg ContentRef.view h)
      simp [hother, hview]

/-- Putting a content to use changes none. -/
theorem content_openContent (ref other : ContentRef) :
    (conference.openContent ref).content other = conference.content other := by
  rw [openContent, content_modifyContent]
  split
  · next hsame => rw [hsame.1]
  · rfl

/-- Attaching an endpoint leaves the views as they are. -/
theorem views_attach (id : Option String) (ref : ContentRef) :
    (conference.attach id ref).views = conference.views := by
  unfold attach
  split <;> rfl

end ConferenceBridge.Conference
