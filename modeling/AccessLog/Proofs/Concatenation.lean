import AccessLog.Proofs.TokenMap
import Mathlib.Data.List.SplitBy

/-!
# Two formats in a row

Where two formats meet at a change between blank and other characters, no piece reaches from
one into the other (`Template.segments_append`). So the line of both is the one line followed
by the other, and the map of their tokens is the union of the two maps
(`Template.render_append`): a token that stands in both has one value in both.
-/

namespace AccessLog

/-- No piece of a text would go on in the other when they are put together: one of them is
empty, or exactly one of the characters that meet is blank. -/
def Text.Separate (a b : String) : Prop :=
  a = "" ∨ b = "" ∨
    ∃ c d, a.toList.getLast? = some c ∧ b.toList.head? = some d ∧ isBlank c ≠ isBlank d

namespace Rendering

theorem addAll_eq_foldl {e : Exchange} {segments : List Segment} :
    ∀ {r : Rendering}, (∀ s ∈ segments, s.shown e = .ok (s.part e)) →
      addAll e r segments = .ok (segments.foldl (fun r s => r.add s (s.part e)) r) := by
  induction segments with
  | nil => exact fun _ => rfl
  | cons s rest ih =>
      intro r h
      obtain ⟨hs, hrest⟩ := List.forall_mem_cons.mp h
      rw [addAll, hs]
      exact ih hrest

/-- Segments leave the same entries behind whatever was in the map before. -/
theorem get?_tokens_foldl_add_or (e : Exchange) (key : String) (segments : List Segment) :
    ∀ r : Rendering,
      (segments.foldl (fun r s => r.add s (s.part e)) r).tokens.get? key =
        ((segments.foldl (fun r s => r.add s (s.part e)) (⟨"", []⟩ : Rendering)).tokens.get?
          key).or (r.tokens.get? key) := by
  induction segments with
  | nil => exact fun _ => rfl
  | cons s rest ih =>
      intro r
      have hadd : (r.add s (s.part e)).tokens.get? key =
          ((Rendering.add ⟨"", []⟩ s (s.part e)).tokens.get? key).or (r.tokens.get? key) := by
        cases s with
        | literal text => rfl
        | token ref =>
            show (r.tokens.set ref.text _).get? key = ((Named.set [] ref.text _).get? key).or _
            rw [Named.get?_set, Named.get?_set]
            split <;> rfl
      rw [List.foldl_cons, List.foldl_cons, ih, ih (Rendering.add ⟨"", []⟩ s _), hadd,
        Option.or_assoc]

end Rendering

namespace Template

theorem runs_append {a b : String} (h : Text.Separate a b) : runs (a ++ b) = runs a ++ runs b := by
  rw [runs, String.toList_append, List.splitBy_append]
  · rfl
  · intro c hc d hd
    rcases h with rfl | rfl | ⟨c', d', hc', hd', hne⟩
    · cases hc
    · cases hd
    · obtain rfl := Option.some.inj (hc'.symm.trans hc)
      obtain rfl := Option.some.inj (hd'.symm.trans hd)
      exact beq_eq_false_iff_ne.mpr hne

theorem segments_append {a b : String} (h : Text.Separate a b) :
    (parse (a ++ b)).segments = (parse a).segments ++ (parse b).segments := by
  rw [segments_parse, segments_parse, segments_parse, runs_append h, List.map_append]

/-- In the maps of two formats, a text that names a token in both has the same entry. -/
theorem eq_of_get?_tokens {a b : String} {e : Exchange} {ra rb : Rendering}
    (ha : (parse a).render e = .ok ra) (hb : (parse b).render e = .ok rb)
    {key va vb : String} (hva : ra.tokens.get? key = some va)
    (hvb : rb.tokens.get? key = some vb) : va = vb := by
  obtain ⟨ref, href, rfl⟩ := exists_part_of_get?_tokens ha hva
  obtain ⟨ref', href', rfl⟩ := exists_part_of_get?_tokens hb hvb
  rw [Option.some.inj (href.symm.trans href')]

/-- **Formats in a row.** Where two formats meet at a change between blank and other
characters, their segments stand in a row. For an exchange for which both can be rendered, so
can the two of them together: the line is the one line followed by the other, and the map
has the entries of both maps, which agree on the texts that have an entry in both. -/
theorem render_append {a b : String} (h : Text.Separate a b) :
    (parse (a ++ b)).segments = (parse a).segments ++ (parse b).segments ∧
      ∀ (e : Exchange) (ra rb : Rendering),
        (parse a).render e = .ok ra → (parse b).render e = .ok rb →
          ∃ r, (parse (a ++ b)).render e = .ok r ∧
            r.line = ra.line ++ rb.line ∧
            (∀ key, r.tokens.get? key = (ra.tokens.get? key).or (rb.tokens.get? key)) ∧
            ∀ key va vb, ra.tokens.get? key = some va → rb.tokens.get? key = some vb →
              va = vb := by
  have hsegments := segments_append h
  refine ⟨hsegments, fun e ra rb ha hb => ?_⟩
  have hagree : ∀ key va vb, ra.tokens.get? key = some va → rb.tokens.get? key = some vb →
      va = vb := fun key va vb => eq_of_get?_tokens ha hb
  obtain ⟨hshown, hra⟩ := Rendering.eq_foldl_of_addAll ha
  obtain ⟨hshown', hrb⟩ := Rendering.eq_foldl_of_addAll hb
  refine ⟨(parse b).segments.foldl (fun r s => r.add s (s.part e)) ra, ?render, ?line, ?tokens,
    hagree⟩
  case render =>
    rw [render, hsegments,
      Rendering.addAll_eq_foldl (List.forall_mem_append.mpr ⟨hshown, hshown'⟩), List.foldl_append,
      ← hra]
  case line =>
    have hline : rb.line = String.join ((parse b).segments.map (Segment.part e)) :=
      (line_of_render hb).2
    rw [Rendering.line_foldl_add, hline]
  case tokens =>
    intro key
    rw [Rendering.get?_tokens_foldl_add_or, ← hrb]
    cases hva : ra.tokens.get? key with
    | none => rw [Option.or_none, Option.none_or]
    | some va =>
        cases hvb : rb.tokens.get? key with
        | none => rfl
        | some vb => rw [hagree key va vb hva hvb]

theorem render_append_of_disguised :
    Text.Separate ":method\u3000:url :status" " :url <:url> :total-time" ∧
      (parse ":method\u3000:url :status").render disguisedExchange =
        .ok ⟨":url\u3000/a ", [(":method", ":url"), (":url", "/a"), (":status", "")]⟩ ∧
      (parse " :url <:url> :total-time").render disguisedExchange =
        .ok ⟨" /a <:url> 1.500", [(":url", "/a"), (":total-time", "1.500")]⟩ ∧
      (parse (":method\u3000:url :status" ++ " :url <:url> :total-time")).segments =
        (parse ":method\u3000:url :status").segments ++
          (parse " :url <:url> :total-time").segments ∧
      ∃ r, (parse (":method\u3000:url :status" ++ " :url <:url> :total-time")).render
            disguisedExchange = .ok r ∧
        r.line = ":url\u3000/a " ++ " /a <:url> 1.500" ∧
        r.tokens.get? ":url" = some "/a" ∧ r.tokens.get? ":total-time" = some "1.500" := by
  have hseparate : Text.Separate ":method\u3000:url :status" " :url <:url> :total-time" :=
    Or.inr (Or.inr ⟨'s', ' ', rfl, rfl, by decide⟩)
  have ha : (parse ":method\u3000:url :status").render disguisedExchange =
      .ok ⟨":url\u3000/a ", [(":method", ":url"), (":url", "/a"), (":status", "")]⟩ := by
    decide +kernel
  have hb : (parse " :url <:url> :total-time").render disguisedExchange =
      .ok ⟨" /a <:url> 1.500", [(":url", "/a"), (":total-time", "1.500")]⟩ := by decide +kernel
  obtain ⟨hsegments, hrender⟩ := render_append hseparate
  obtain ⟨r, hr, hline, htokens, -⟩ := hrender _ _ _ ha hb
  exact ⟨hseparate, ha, hb, hsegments, r, hr, hline, htokens ":url", htokens ":total-time"⟩

end Template

end AccessLog
