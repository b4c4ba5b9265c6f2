import AccessLog.Proofs.Pieces
import AccessLog.Proofs.RemoteAddress

/-!
# How a line is put together

A line is the parts of its segments, one after the other, and nothing is changed in
a part when it is put into the line (`Template.line_of_render`). The map of a
rendering holds the part of every token under the text of the token
(`Template.get?_tokens_of_render`): in a template that has been read from a format,
the text of a token says which token it is.
-/

namespace AccessLog

namespace Segment

/-- The text that a segment shows, if it can be shown. -/
def part (e : Exchange) (s : Segment) : String := (s.shown e).toOption.getD ""

theorem part_of_shown {e : Exchange} {s : Segment} {text : String} (h : s.shown e = .ok text) :
    s.part e = text := by
  rw [part, h]
  rfl

/-- What a token shows of its value: a text as it is, and nothing of anything else. -/
theorem part_token (e : Exchange) (ref : TokenRef) :
    (token ref).part e =
      match ref.kind.value ref.key e with
      | .ok (.text s) => s
      | _ => "" := by
  simp only [part, shown, value, TokenRef.resolve]
  cases ref.kind.value ref.key e with
  | error cause => rfl
  | ok v => cases v <;> rfl

/-- A token that shows something shows a text. -/
theorem value_of_part_ne {e : Exchange} {ref : TokenRef} (h : (token ref).part e ≠ "") :
    ref.kind.value ref.key e = .ok (.text ((token ref).part e)) := by
  rw [part_token] at h ⊢
  split at h
  · assumption
  · exact absurd rfl h

/-- A status token shows the status of the response, if it shows anything. -/
theorem display_status_of_part_ne {e : Exchange} {ref : TokenRef} (hkind : ref.kind = .status)
    (h : (token ref).part e ≠ "") : e.response.status.display = .ok ((token ref).part e) := by
  have hvalue := value_of_part_ne h
  rw [hkind, TokenKind.value, Resolve.status] at hvalue
  split at hvalue
  · cases hvalue
  · obtain ⟨text, hdisplay, heq⟩ := exists_of_map_eq_ok hvalue
    rw [hdisplay, Value.text.inj heq]

/-- Before a response has started, the tokens about it show nothing. -/
theorem part_of_unstarted {e : Exchange} {ref : TokenRef} (hresponse : e.response = .none)
    (hmarks : e.marks.headersSentAt = .null)
    (hkind : ref.kind = .status ∨ ref.kind = .responseTime) : (token ref).part e = "" := by
  rw [part_token]
  rcases hkind with h | h <;>
    simp [h, TokenKind.value, Resolve.status, Resolve.responseTime, hresponse, hmarks,
      Response.none]

end Segment

namespace Rendering

/-- A rendering that comes to its end has shown every segment, in order. -/
theorem eq_foldl_of_addAll {e : Exchange} :
    ∀ {segments : List Segment} {r r' : Rendering}, addAll e r segments = .ok r' →
      (∀ s ∈ segments, s.shown e = .ok (s.part e)) ∧
        r' = segments.foldl (fun r s => r.add s (s.part e)) r
  | [], r, r', h => ⟨by simp, (Except.ok.inj h).symm⟩
  | s :: rest, r, r', h => by
      rw [addAll] at h
      cases hs : s.shown e with
      | error cause => rw [hs] at h; cases h
      | ok text =>
          obtain rfl := Segment.part_of_shown hs
          rw [hs] at h
          obtain ⟨hshown, hfold⟩ := eq_foldl_of_addAll h
          exact ⟨List.forall_mem_cons.mpr ⟨hs, hshown⟩, hfold⟩

theorem line_foldl_add (e : Exchange) (segments : List Segment) (r : Rendering) :
    (segments.foldl (fun r s => r.add s (s.part e)) r).line =
      r.line ++ String.join (segments.map (Segment.part e)) := by
  induction segments generalizing r with
  | nil => simp
  | cons s rest ih =>
      rw [List.foldl_cons, ih, List.map_cons, String.join_cons, ← String.append_assoc]
      rfl

/-- The map keeps the part of the token that is named last. -/
theorem get?_tokens_foldl_add {e : Exchange} {ref : TokenRef} {segments : List Segment}
    (hsame : ∀ other, .token other ∈ segments → other.text = ref.text → other = ref) :
    ∀ r : Rendering, (.token ref ∈ segments ∨
        r.tokens.get? ref.text = some ((Segment.token ref).part e)) →
      (segments.foldl (fun r s => r.add s (s.part e)) r).tokens.get? ref.text =
        some ((Segment.token ref).part e) := by
  induction segments with
  | nil => simp
  | cons s rest ih =>
      intro r h
      refine ih (fun other ho => hsame other (List.mem_cons_of_mem _ ho)) _ ?_
      by_cases hs : s = .token ref
      · subst hs
        right
        exact (Named.get?_set _ _ _ _).trans (if_pos rfl)
      · rcases h with h | h
        · exact Or.inl ((List.mem_cons.mp h).resolve_left (Ne.symm hs))
        · -- Another token cannot take the place of this one, as its text is another one.
          right
          cases s with
          | literal t => exact h
          | token other =>
              refine (Named.get?_set _ _ _ _).trans ?_
              rw [if_neg fun htext => hs ?_, h]
              rw [hsame other (List.mem_cons_self ..) htext.symm]

/-- An entry of the map was there before, or it is the part of a token. -/
theorem get?_tokens_foldl_add_cases {e : Exchange} {key part : String}
    {segments : List Segment} :
    ∀ {r : Rendering},
      (segments.foldl (fun r s => r.add s (s.part e)) r).tokens.get? key = some part →
      r.tokens.get? key = some part ∨
        ∃ ref, .token ref ∈ segments ∧ ref.text = key ∧ (Segment.token ref).part e = part := by
  induction segments with
  | nil => exact fun h => Or.inl h
  | cons s rest ih =>
      intro r h
      rcases ih h with hadd | ⟨ref, href, hfound⟩
      · cases s with
        | literal t => exact Or.inl hadd
        | token ref =>
            have hset := (Named.get?_set r.tokens ref.text key _).symm.trans hadd
            by_cases hkey : key = ref.text
            · rw [if_pos hkey] at hset
              exact Or.inr ⟨ref, List.mem_cons_self .., hkey.symm, Option.some.inj hset⟩
            · rw [if_neg hkey] at hset
              exact Or.inl hset
      · exact Or.inr ⟨ref, List.mem_cons_of_mem _ href, hfound⟩

end Rendering

namespace Template

theorem mem_tokens {t : Template} {ref : TokenRef} : ref ∈ t.tokens ↔ .token ref ∈ t.segments := by
  rw [tokens, List.mem_filterMap]
  constructor
  · rintro ⟨s, hs, href⟩
    cases s with
    | literal text => cases href
    | token other => cases href; exact hs
  · exact fun h => ⟨_, h, rfl⟩

/-- A token of a format is what its text reads as. -/
theorem parse?_of_mem_tokens {format : String} {ref : TokenRef} (h : ref ∈ (parse format).tokens) :
    TokenRef.parse? ref.text = some ref := by
  obtain ⟨run, -, hrun⟩ := List.mem_map.mp (segments_parse format ▸ mem_tokens.mp h)
  unfold Segment.parse at hrun
  split at hrun
  · rename_i other hparse
    cases hrun
    rwa [TokenRef.text_of_parse? hparse]
  · cases hrun

/-- A line is the parts of its segments, one after the other. -/
theorem line_of_render {t : Template} {e : Exchange} {r : Rendering} (h : t.render e = .ok r) :
    (∀ s ∈ t.segments, s.shown e = .ok (s.part e)) ∧
      r.line = String.join (t.segments.map (Segment.part e)) := by
  obtain ⟨hshown, rfl⟩ := Rendering.eq_foldl_of_addAll h
  exact ⟨hshown, (Rendering.line_foldl_add ..).trans (by simp)⟩

/-- In the map of a rendering, every token of a format has its part of the line. -/
theorem get?_tokens_of_render {format : String} {e : Exchange} {r : Rendering}
    (h : (parse format).render e = .ok r) {ref : TokenRef} (href : ref ∈ (parse format).tokens) :
    r.tokens.get? ref.text = some ((Segment.token ref).part e) := by
  obtain ⟨-, rfl⟩ := Rendering.eq_foldl_of_addAll h
  refine Rendering.get?_tokens_foldl_add (fun other ho htext => ?_) _ (Or.inl (mem_tokens.mp href))
  have hother := parse?_of_mem_tokens (mem_tokens.mpr ho)
  rw [htext, parse?_of_mem_tokens href] at hother
  exact (Option.some.inj hother).symm

/-- An entry of the map is the part of the token that its key reads as. -/
theorem exists_part_of_get?_tokens {format : String} {e : Exchange} {r : Rendering}
    (h : (parse format).render e = .ok r) {key part : String}
    (hpart : r.tokens.get? key = some part) :
    ∃ ref, TokenRef.parse? key = some ref ∧ (Segment.token ref).part e = part := by
  obtain ⟨-, rfl⟩ := Rendering.eq_foldl_of_addAll h
  rcases Rendering.get?_tokens_foldl_add_cases hpart with hnone | ⟨ref, href, rfl, hfound⟩
  · cases hnone
  · exact ⟨ref, parse?_of_mem_tokens (mem_tokens.mpr href), hfound⟩

end Template

end AccessLog
