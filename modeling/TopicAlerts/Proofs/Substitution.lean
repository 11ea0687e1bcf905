import Mathlib.Data.List.TakeWhile
import TopicAlerts.Template

/-!
# Rendering a template is one substitution

How a template is cut into segments can be said without reading it step by step (`IsCut`): each
placeholder starts at the first opening that is left, and ends at the next closing brace; behind the
last placeholder no opening is ever closed. There is exactly one such cut, the one that `segments`
finds (`isCut_iff`), and no message has a part in it.

`render` reads and writes in turn. What it writes are the segments of that cut, each filled on its
own (`renderFrom_eq`, `render_substitutes`), so that the text of a variable stands in the result as
it is, also if it looks like a placeholder.
-/

namespace TopicAlerts.Template

/-- A part of a template. -/
inductive Segment
  /-- A character that stays. -/
  | literal (c : Char)
  /-- A placeholder for the variable of this name. -/
  | placeholder (name : List Char)
deriving DecidableEq, Repr

/-- The text of a segment in its template. -/
def Segment.source : Segment → List Char
  | .literal c => [c]
  | .placeholder name => '$' :: '{' :: name ++ ['}']

/-- The text that a segment is filled with. -/
def Segment.fill (bindings : List (String × String)) : Segment → List Char
  | .literal c => [c]
  | .placeholder name => filled bindings name

/-- The segments of a template. -/
def segments : List Char → List Segment
  | '$' :: '{' :: rest =>
    match _h : rest.dropWhile (· != '}') with
    | _ :: after => .placeholder (rest.takeWhile (· != '}')) :: segments after
    | [] => .literal '$' :: segments ('{' :: rest)
  | c :: rest => .literal c :: segments rest
  | [] => []
termination_by text => text.length
decreasing_by
  · have := (List.dropWhile_suffix (l := rest) (· != '}')).length_le
    simp_all +arith
    omega
  · simp
  · simp

/-- The characters that open a placeholder. -/
def opening : List Char := ['$', '{']

/-- No opening in a text is closed. -/
def IsPlain (text : List Char) : Prop :=
  ∀ before after, text = before ++ opening ++ after → '}' ∉ after

/-- How a template is cut into segments. -/
inductive IsCut : List Char → List Segment → Prop
  /-- If no opening is closed, all of the text is literal, an unclosed opening included. -/
  | plain {text : List Char} (plain : IsPlain text) : IsCut text (text.map .literal)
  /-- Otherwise the text before the first opening is literal, and the placeholder goes up to the
  first closing brace behind it. -/
  | placeholder {before name after : List Char} {segments : List Segment}
      (first : ¬opening <:+: before ++ ['$']) (closed : '}' ∉ name) (rest : IsCut after segments) :
      IsCut (before ++ opening ++ name ++ '}' :: after)
        (before.map .literal ++ .placeholder name :: segments)

theorem IsCut.flatMap_source {text : List Char} {cut : List Segment} (h : IsCut text cut) :
    cut.flatMap Segment.source = text := by
  have hliteral (chars : List Char) :
      (chars.map Segment.literal).flatMap Segment.source = chars := by
    rw [List.flatMap_map]
    exact List.flatMap_singleton' chars
  induction h with
  | plain _ => exact hliteral _
  | placeholder _ _ _ ih =>
    rw [List.flatMap_append, hliteral, List.flatMap_cons, ih]
    simp [Segment.source, opening]

/-! ## What `segments` finds -/

theorem opening_isPrefix_iff {c : Char} {text : List Char} :
    opening <+: c :: text ↔ c = '$' ∧ text.head? = some '{' := by
  cases text <;> simp [opening, List.cons_prefix_cons, eq_comm]

/-- A character that opens nothing is literal. -/
theorem segments_cons {c : Char} {text : List Char} (h : ¬opening <+: c :: text) :
    segments (c :: text) = .literal c :: segments text := by
  rw [segments.eq_def]
  split
  · rename_i rest heq
    exact absurd ⟨rest, heq.symm⟩ h
  · rename_i heq
    cases heq
    rfl
  · rename_i heq
    cases heq

/-- An opening that is not closed is literal. -/
theorem segments_unclosed {rest : List Char} (unclosed : '}' ∉ rest) :
    segments ('$' :: '{' :: rest) = .literal '$' :: segments ('{' :: rest) := by
  have hdrop : rest.dropWhile (· != '}') = [] := by
    rw [List.dropWhile_eq_nil_iff]
    intro c hc
    exact bne_iff_ne.mpr fun e => unclosed (e ▸ hc)
  rw [segments]
  split
  · rename_i heq
    rw [hdrop] at heq
    cases heq
  · rfl

/-- A closed opening makes a placeholder, up to the next closing brace. -/
theorem segments_closed {name : List Char} (closed : '}' ∉ name) (after : List Char) :
    segments ('$' :: '{' :: (name ++ '}' :: after)) = .placeholder name :: segments after := by
  have hname : ∀ c ∈ name, (c != '}') = true := fun c hc =>
    bne_iff_ne.mpr fun e => closed (e ▸ hc)
  have hdrop : (name ++ '}' :: after).dropWhile (· != '}') = '}' :: after :=
    List.dropWhile_append_of_pos hname
  have htake : (name ++ '}' :: after).takeWhile (· != '}') = name := by
    rw [List.takeWhile_append_of_pos hname]
    exact List.append_nil name
  rw [segments]
  split
  · rename_i heq
    rw [hdrop] at heq
    cases heq
    rw [htake]
  · rename_i heq
    rw [hdrop] at heq
    cases heq

theorem IsPlain.tail {c : Char} {text : List Char} (h : IsPlain (c :: text)) : IsPlain text :=
  fun before after e => h (c :: before) after (by rw [e]; rfl)

theorem segments_of_plain {text : List Char} (h : IsPlain text) :
    segments text = text.map .literal := by
  induction text with
  | nil => rw [segments]; rfl
  | cons c text ih =>
    have hrest := ih h.tail
    by_cases hopening : opening <+: c :: text
    · obtain ⟨rest, hrest'⟩ := hopening
      have hunclosed : '}' ∉ rest := h [] rest hrest'.symm
      obtain ⟨rfl, rfl⟩ : '$' = c ∧ '{' :: rest = text := by simpa [opening] using hrest'
      rw [segments_unclosed hunclosed, hrest]
      rfl
    · rw [segments_cons hopening, hrest]
      rfl

/-- The text before the first opening is literal. -/
theorem segments_append {before : List Char} (first : ¬opening <:+: before ++ ['$'])
    (rest : List Char) : segments (before ++ '$' :: rest) =
      before.map .literal ++ segments ('$' :: rest) := by
  induction before with
  | nil => rfl
  | cons c before ih =>
    have hnot : ¬opening <+: c :: (before ++ '$' :: rest) := by
      intro h
      rw [opening_isPrefix_iff] at h
      have hhead : (before ++ '$' :: rest).head? = (before ++ ['$']).head? := by
        cases before <;> rfl
      rw [hhead, ← opening_isPrefix_iff] at h
      exact first h.isInfix
    have htail : ¬opening <:+: before ++ ['$'] := fun h =>
      first (h.trans (List.suffix_cons ..).isInfix)
    rw [List.cons_append, segments_cons hnot, ih htail]
    rfl

theorem IsCut.eq_segments {text : List Char} {cut : List Segment} (h : IsCut text cut) :
    cut = segments text := by
  induction h with
  | plain plain => exact (segments_of_plain plain).symm
  | @placeholder before name after cut first closed rest ih =>
    have htext : before ++ opening ++ name ++ '}' :: after =
        before ++ '$' :: '{' :: (name ++ '}' :: after) := by simp [opening]
    rw [htext, segments_append first, segments_closed closed, ih]

/-- A cut goes on to hold when a character that opens nothing is put before the text. -/
theorem IsCut.cons {c : Char} {text : List Char} {cut : List Segment} (h : IsCut text cut)
    (hopening : ¬opening <+: c :: text) : IsCut (c :: text) (.literal c :: cut) := by
  cases h with
  | plain plain =>
    have hplain : IsPlain (c :: text) := by
      intro before after e
      cases before with
      | nil => exact absurd ⟨after, e.symm⟩ hopening
      | cons d before =>
        rw [List.cons_append, List.cons_append] at e
        exact plain before after (List.cons.inj e).2
    exact IsCut.plain hplain
  | @placeholder before name after cut first closed rest =>
    have hfirst : ¬opening <:+: c :: before ++ ['$'] := by
      rw [List.cons_append, List.infix_cons_iff, not_or]
      refine ⟨?_, first⟩
      rw [opening_isPrefix_iff] at hopening ⊢
      cases before <;> exact hopening
    exact @IsCut.placeholder (c :: before) name after cut hfirst closed rest

theorem isPlain_of_not_mem {text : List Char} (h : '}' ∉ text) : IsPlain text := by
  intro before after e hmem
  rw [e] at h
  exact h (List.mem_append_right _ hmem)

/-- Where a text has a closing brace, its beginning up to there has none. -/
theorem closing_of_dropWhile {text after : List Char} {head : Char}
    (h : text.dropWhile (· != '}') = head :: after) :
    text.takeWhile (· != '}') ++ '}' :: after = text ∧ '}' ∉ text.takeWhile (· != '}') := by
  have hhead : head = '}' := by
    have hnot := List.head_dropWhile_not (· != '}') (l := text) (by simp [h])
    simpa [h] using hnot
  subst hhead
  constructor
  · rw [← h]
    exact List.takeWhile_append_dropWhile
  · intro hmem
    have hne := List.mem_takeWhile_imp hmem
    exact absurd rfl (bne_iff_ne.mp hne)

theorem not_mem_of_dropWhile {text : List Char} (h : text.dropWhile (· != '}') = []) :
    '}' ∉ text := by
  intro hmem
  have hne := List.dropWhile_eq_nil_iff.mp h _ hmem
  exact absurd rfl (bne_iff_ne.mp hne)

theorem isCut_segments (text : List Char) : IsCut text (segments text) := by
  fun_induction segments text with
  | case1 rest head after found ih =>
    obtain ⟨hsplit, hclosed⟩ := closing_of_dropWhile found
    have hcut := @IsCut.placeholder [] (rest.takeWhile (· != '}')) after _ (by decide) hclosed ih
    rwa [List.nil_append, List.append_assoc, hsplit] at hcut
  | case2 rest unclosed ih =>
    have hrest : '}' ∉ rest := not_mem_of_dropWhile unclosed
    have hplain : IsPlain ('$' :: '{' :: rest) :=
      isPlain_of_not_mem (by simpa using hrest)
    rw [← segments_unclosed hrest, segments_of_plain hplain]
    exact .plain hplain
  | case3 c rest other ih =>
    refine ih.cons fun hopening => ?_
    obtain ⟨after, e⟩ := hopening
    obtain ⟨rfl, rfl⟩ : '$' = c ∧ '{' :: after = rest := by simpa [opening] using e
    exact other after rfl rfl
  | case4 => exact .plain (isPlain_of_not_mem List.not_mem_nil)

/-- The only cut of a template is the one that `segments` finds. -/
theorem isCut_iff {text : List Char} {cut : List Segment} :
    IsCut text cut ↔ cut = segments text :=
  ⟨IsCut.eq_segments, fun h => h ▸ isCut_segments text⟩

/-- The second opening is part of the name that the first one starts, and the last one is left as it
is. -/
example : segments ['$', '$', '{', 'a', '$', '{', 'b', '}', '}', '$', '{'] =
    [.literal '$', .placeholder ['a', '$', '{', 'b'], .literal '}', .literal '$', .literal '{'] :=
  by cbv

/-! ## Filling the segments -/

/-- Without variables every segment stays as it is. -/
theorem fill_of_unbound {bindings : List (String × String)}
    (unbound : ∀ name, textOf? bindings name = none) (segment : Segment) :
    segment.fill bindings = segment.source := by
  cases segment with
  | literal c => rfl
  | placeholder name => simp only [Segment.fill, filled, unbound, Segment.source]

theorem fill_of_bound {bindings : List (String × String)} {name : List Char} {text : String}
    (bound : textOf? bindings (String.ofList name) = some text) :
    (Segment.placeholder name).fill bindings = text.toList := by
  simp only [Segment.fill, filled, bound]

theorem flatMap_fill_literal (bindings : List (String × String)) (text : List Char) :
    (text.map Segment.literal).flatMap (Segment.fill bindings) = text := by
  rw [List.flatMap_map]
  exact List.flatMap_singleton' text

/-! ## Reading and writing in turn -/

theorem eq_append_of_opening? {text before after : List Char}
    (h : opening? text = some (before, after)) :
    text = before ++ '$' :: '{' :: after ∧ ¬opening <:+: before ++ ['$'] := by
  fun_induction opening? text generalizing before with
  | case1 rest =>
    cases h
    exact ⟨rfl, by decide⟩
  | case2 c rest other ih =>
    obtain ⟨⟨shorter, _⟩, hrest, heq⟩ := Option.map_eq_some_iff.mp h
    cases heq
    obtain ⟨rfl, hfirst⟩ := ih hrest
    refine ⟨rfl, ?_⟩
    rw [List.cons_append, List.infix_cons_iff, not_or]
    refine ⟨fun hopening => ?_, hfirst⟩
    obtain ⟨rfl, hhead⟩ := opening_isPrefix_iff.mp hopening
    cases shorter with
    | nil => cases hhead
    | cons d shorter =>
      cases hhead
      exact other _ rfl rfl
  | case3 => cases h

theorem not_infix_of_opening? {text : List Char} (h : opening? text = none) :
    ¬opening <:+: text := by
  fun_induction opening? text with
  | case1 rest => cases h
  | case2 c rest other ih =>
    rw [List.infix_cons_iff, not_or]
    refine ⟨?_, ih (Option.map_eq_none_iff.mp h)⟩
    rintro ⟨after, hafter⟩
    cases hafter
    exact other after rfl rfl
  | case3 => decide

/-- What is written are the segments, each filled on its own. -/
theorem renderFrom_eq (bindings : List (String × String)) (written rest : List Char) :
    renderFrom bindings written rest =
      written ++ (segments rest).flatMap (Segment.fill bindings) := by
  fun_induction renderFrom bindings written rest with
  | case1 written rest hnone =>
    have hplain : IsPlain rest := by
      rintro before after rfl
      exact absurd (List.infix_append before opening after) (not_infix_of_opening? hnone)
    rw [segments_of_plain hplain, flatMap_fill_literal]
  | case2 written rest before after hfound hunclosed =>
    obtain ⟨rfl, hfirst⟩ := eq_append_of_opening? hfound
    have hplain : IsPlain ('$' :: '{' :: after) :=
      isPlain_of_not_mem (by simpa using not_mem_of_dropWhile hunclosed)
    rw [segments_append hfirst, segments_of_plain hplain, List.flatMap_append,
      flatMap_fill_literal, flatMap_fill_literal]
  | case3 written rest before after hfound head later hclosed name ih =>
    obtain ⟨rfl, hfirst⟩ := eq_append_of_opening? hfound
    obtain ⟨hsplit, hname⟩ : name ++ '}' :: later = after ∧ '}' ∉ name :=
      closing_of_dropWhile hclosed
    rw [ih, segments_append hfirst, ← hsplit, segments_closed hname, List.flatMap_append,
      flatMap_fill_literal, List.flatMap_cons, Segment.fill]
    simp only [List.append_assoc]

theorem toList_render (template : String) (message : Message) :
    (render template message).toList =
      (segments template.toList).flatMap (Segment.fill (bindings message)) :=
  String.toList_ofList.trans (renderFrom_eq _ _ _)

/-- A template has exactly one cut, and its segments make up the template. For every message,
`render` gives these segments, each filled on its own: a literal stays, and a placeholder gives the
text of its variable, or stays if there is none. So the text of a variable stands unread between
what the segments before and behind it give, and a message without variables leaves the template as
it is. -/
theorem render_substitutes (template : String) :
    ∃ cut : List Segment,
      (∀ other, IsCut template.toList other ↔ other = cut) ∧
      cut.flatMap Segment.source = template.toList ∧
      (∀ message, (render template message).toList =
        cut.flatMap (Segment.fill (bindings message))) ∧
      (∀ message before name after text, cut = before ++ .placeholder name :: after →
        textOf? (bindings message) (String.ofList name) = some text →
        (render template message).toList =
          before.flatMap (Segment.fill (bindings message)) ++ text.toList ++
            after.flatMap (Segment.fill (bindings message))) ∧
      ∀ message, (∀ name, textOf? (bindings message) name = none) →
        render template message = template := by
  have hsource := (isCut_segments template.toList).flatMap_source
  refine ⟨segments template.toList, fun _ => isCut_iff, hsource, toList_render template, ?_, ?_⟩
  · intro message before name after text hcut hbound
    rw [toList_render, hcut, List.flatMap_append, List.flatMap_cons, fill_of_bound hbound,
      List.append_assoc]
  · intro message hunbound
    have hfill : Segment.fill (bindings message) = Segment.source :=
      funext (fill_of_unbound hunbound)
    rw [← String.toList_inj, toList_render, hfill, hsource]

end TopicAlerts.Template
