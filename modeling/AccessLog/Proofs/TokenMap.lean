import AccessLog.Proofs.Rendering
import Mathlib.Control.Monad.Basic

/-!
# A line and the map of its tokens

The map of a rendering has one entry for each text of a token, however often the format
repeats it, and the line can be put together again from the format and the map alone
(`render_recovered`): a literal stands for itself and a token for its entry. The entry is
what the token resolves to, so a value that looks like a token is shown as it is.
-/

namespace AccessLog

namespace Named

variable {α : Type}

theorem mem_names_set {entries : Named α} {name other : String} {a : α} :
    other ∈ (entries.set name a).names ↔ other ∈ entries.names ∨ other = name := by
  rw [set, names_update]
  split
  · rename_i hmem
    exact ⟨Or.inl, fun h => h.elim id fun heq => heq ▸ hmem⟩
  · rw [List.mem_append, List.mem_singleton]

theorem nodup_names_set {entries : Named α} (h : entries.names.Nodup) (name : String) (a : α) :
    (entries.set name a).names.Nodup := by
  rw [set, names_update]
  split
  · exact h
  · rename_i hnew
    refine List.nodup_append.mpr ⟨h, List.pairwise_singleton _ _, ?_⟩
    intro other hmem last hlast heq
    exact hnew (List.mem_singleton.mp hlast ▸ heq ▸ hmem)

end Named

namespace Rendering

/-- What stands in the line for a segment, by the map: a literal for itself, and a token
for its entry. -/
def lookedUp (r : Rendering) : Segment → String
  | .literal text => text
  | .token ref => (r.tokens.get? ref.text).getD ""

/-- The map gets an entry for every text of a token, and keeps those that it has. -/
theorem mem_names_foldl_add {e : Exchange} {name : String} {segments : List Segment} :
    ∀ {r : Rendering},
      name ∈ (segments.foldl (fun r s => r.add s (s.part e)) r).tokens.names ↔
        name ∈ r.tokens.names ∨ ∃ ref, .token ref ∈ segments ∧ ref.text = name := by
  induction segments with
  | nil => simp
  | cons s rest ih =>
      intro r
      rw [List.foldl_cons, ih]
      cases s with
      | literal text =>
          show name ∈ r.tokens.names ∨ _ ↔ _
          simp
      | token ref =>
          show name ∈ (r.tokens.set ref.text _).names ∨ _ ↔ _
          rw [Named.mem_names_set, or_assoc]
          simp [eq_comm, or_and_right, exists_or]

/-- No text of a token has two entries. -/
theorem nodup_names_foldl_add {e : Exchange} {segments : List Segment} :
    ∀ {r : Rendering}, r.tokens.names.Nodup →
      (segments.foldl (fun r s => r.add s (s.part e)) r).tokens.names.Nodup := by
  induction segments with
  | nil => exact id
  | cons s rest ih =>
      intro r h
      refine ih ?_
      cases s with
      | literal text => exact h
      | token ref => exact Named.nodup_names_set h _ _

end Rendering

namespace Segment

/-- A token is shown by the text that it resolves to, or by nothing when that is missing. -/
theorem shown_token_eq_ok {e : Exchange} {ref : TokenRef} {text : String} :
    (token ref).shown e = .ok text ↔
      ref.resolve e = .text text ∨ ref.resolve e = .null ∧ text = "" := by
  simp only [shown, value]
  cases ref.resolve e <;> simp [eq_comm]

end Segment

namespace Template

/-- **The line from the map.** When a format can be rendered, the map has exactly one entry
for each text of a token; the line is its segments, one after the other, each literal as it
stands in the format and each token as its entry says; and the entry is what the token
resolves to, the empty text if that is nothing. -/
theorem render_recovered {format : String} {e : Exchange} {r : Rendering}
    (h : (parse format).render e = .ok r) :
    r.tokens.names.Nodup ∧
      (∀ name, name ∈ r.tokens.names ↔ ∃ ref ∈ (parse format).tokens, ref.text = name) ∧
      r.line = String.join ((parse format).segments.map r.lookedUp) ∧
      ∀ ref ∈ (parse format).tokens, ∃ text, r.tokens.get? ref.text = some text ∧
        (ref.resolve e = .text text ∨ ref.resolve e = .null ∧ text = "") := by
  obtain ⟨hshown, hline⟩ := line_of_render h
  have hget : ∀ ref, .token ref ∈ (parse format).segments →
      r.tokens.get? ref.text = some ((Segment.token ref).part e) :=
    fun ref href => get?_tokens_of_render h (mem_tokens.mpr href)
  obtain ⟨-, hfold⟩ := Rendering.eq_foldl_of_addAll h
  refine ⟨?_, fun name => ?_, ?_, fun ref href => ?_⟩
  · rw [hfold]
    exact Rendering.nodup_names_foldl_add List.nodup_nil
  · rw [hfold, Rendering.mem_names_foldl_add]
    simp only [mem_tokens]
    exact or_iff_right List.not_mem_nil
  · -- What a segment shows is what the map says, also where its text comes again.
    have hparts : (parse format).segments.map (Segment.part e) =
        (parse format).segments.map r.lookedUp := by
      refine List.map_congr_left fun s hs => ?_
      cases s with
      | literal text => rfl
      | token ref => rw [Rendering.lookedUp, hget ref hs]; rfl
    rw [hline, hparts]
  · have hmem := mem_tokens.mp href
    exact ⟨_, hget ref hmem, Segment.shown_token_eq_ok.mp (hshown _ hmem)⟩

/-- An exchange whose method looks like a token. -/
def disguisedExchange : Exchange where
  request := {
    method := .text ":url"
    url := .text "/a"
    path := .text "/a"
    httpVersion := .null
    headers := []
    properties := []
    ip := .null
    remoteAddress := .null
    peerAddress := .null }
  response := .none
  marks := ⟨.int 0, .null⟩
  renderedAt := .int 1500000

theorem render_recovered_of_disguised :
    ∃ r, (parse ":method  :url <:url> :status :method :total-time").render disguisedExchange =
        .ok r ∧
      r.line = ":url  /a <:url>  :url 1.500" ∧
      r.tokens.names.Nodup ∧
      (∀ name, name ∈ r.tokens.names ↔
        ∃ ref ∈ (parse ":method  :url <:url> :status :method :total-time").tokens,
          ref.text = name) ∧
      r.line = String.join
        ((parse ":method  :url <:url> :status :method :total-time").segments.map r.lookedUp) ∧
      ∀ ref ∈ (parse ":method  :url <:url> :status :method :total-time").tokens,
        ∃ text, r.tokens.get? ref.text = some text ∧
          (ref.resolve disguisedExchange = .text text ∨
            ref.resolve disguisedExchange = .null ∧ text = "") := by
  have h : (parse ":method  :url <:url> :status :method :total-time").render disguisedExchange =
      .ok ⟨":url  /a <:url>  :url 1.500", [(":method", ":url"), (":url", "/a"), (":status", ""),
        (":total-time", "1.500")]⟩ := by decide +kernel
  exact ⟨_, h, rfl, render_recovered h⟩

end Template

end AccessLog
