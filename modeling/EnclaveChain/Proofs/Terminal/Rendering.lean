import EnclaveChain.Terminal.Style
import Mathlib.Data.String.Basic

/-!
# Rendered lines

Rendering changes a text only where the text has codes of its own. A text without the escape
character therefore stands in its line as it is, between codes that depend on the style alone
(`Span.render_of_clean`), and lines follow one another.
-/
namespace EnclaveChain.Terminal

open String.Slice String.Slice.Pattern String.Slice.Pattern.Model

/-! ### Replacing what is not there -/

/-- The text behind a place is the text up to a later place and the text behind that. -/
theorem copy_sliceFrom_eq {text : String.Slice} {start stop : text.Pos} (ordered : start ≤ stop) :
    (text.sliceFrom start).copy =
      (text.slice start stop ordered).copy ++ (text.sliceFrom stop).copy := by
  have whole : text.copy = (text.sliceTo start).copy ++ (text.sliceFrom start).copy :=
    copy_eq_copy_sliceTo
  rw [copy_eq_copy_slice (h := ordered), String.append_assoc] at whole
  exact ((String.append_right_inj _).mp whole).symm

/-- A search that finds nothing goes over the rest of the text, so a step that copies what is not
found copies all of it. -/
theorem foldl_copies {pattern : String} {text : String.Slice} {place : text.Pos}
    {steps : List (SearchStep text)} (absent : ∀ place : text.Pos, ¬ MatchesAt pattern place)
    (valid : IsValidSearchFrom pattern place steps) {step : String → SearchStep text → String}
    (copies : ∀ sofar start stop,
      step sofar (.rejected start stop) = (sofar ++ text.slice! start stop : String))
    (sofar : String) : steps.foldl step sofar = sofar ++ (text.sliceFrom place).copy := by
  induction valid generalizing sofar with
  | endPos => simp
  | matched found => exact absurd found.matchesAt (absent _)
  | mismatched before _ _ ih =>
    have ordered := Std.le_of_lt before
    rw [List.foldl_cons, ih, copies, ← slice_eq_slice! (h := ordered), copy_sliceFrom_eq ordered,
      String.appendSlice_eq, String.append_assoc]

/-- Nothing is replaced in a text that does not have the pattern. -/
theorem replace_of_absent {text pattern : String} (replacement : String) (nonempty : pattern ≠ "")
    (absent : ∀ before after, text ≠ before ++ pattern ++ after) :
    text.replace pattern replacement = text := by
  have lawful := ForwardStringSearcher.lawfulToForwardSearcherModel nonempty
  have valid := lawful.isValidSearchFrom_toList text.toSlice
  have unmatched (place : text.toSlice.Pos) : ¬ MatchesAt pattern place := by
    intro found
    obtain ⟨before, after, split⟩ :=
      ForwardStringSearcher.exists_matchesAt_iff_eq_append.mp ⟨place, found⟩
    rw [String.copy_toSlice] at split
    exact absent before after split
  rw [String.replace, String.Slice.replace, ← Std.Iter.foldl_toList,
    foldl_copies unmatched valid fun _ _ _ => rfl]
  simp

/-! ### Spans and lines -/

namespace Span

/-- What is sent in front of a text in a style. -/
def front (colours : Bool) (colour : Colour) (bold : Bool) : String :=
  if colours then opening colour bold else ""

/-- What is sent behind a text in any style. -/
def back (colours : Bool) : String := if colours then reset else ""

/-- A text without codes is sent as it is, between those of its style. -/
theorem render_of_clean {text : String} (clean : '\x1b' ∉ text.toList) (colours : Bool)
    (colour : Colour) (bold : Bool) :
    render colours ⟨text, some (colour, bold)⟩ =
      front colours colour bold ++ text ++ back colours := by
  cases colours with
  | false => simp [render, front, back]
  | true =>
    have unchanged : text.replace reset (reset ++ opening colour bold) = text := by
      refine replace_of_absent _ (by decide) ?_
      rintro before after rfl
      apply clean
      simp [reset]
    simp only [render, unchanged, front, back, ↓reduceIte]

/-- A text without a style is sent as it is. -/
theorem render_plain (colours : Bool) (text : String) : render colours (plain text) = text := by
  cases colours <;> rfl

end Span

/-- The characters of a line are those of its spans. -/
theorem Line.toList_render (colours : Bool) (line : Line) :
    (Line.render colours line).toList =
      (line.flatMap fun span => (span.render colours).toList) ++ ['\n'] := by
  rw [Line.render, String.toList_append, String.toList_join, List.flatMap_map]
  rfl

/-- Lines follow one another. -/
theorem toList_renderAll (colours : Bool) (lines : List Line) :
    (renderAll colours lines).toList = lines.flatMap fun line => (line.render colours).toList := by
  rw [renderAll, String.toList_join, List.flatMap_map]

/-- Rows of lines follow one another. -/
theorem renderAll_append (colours : Bool) (before after : List Line) :
    renderAll colours (before ++ after) = renderAll colours before ++ renderAll colours after := by
  apply String.toList_inj.mp
  rw [String.toList_append, toList_renderAll, toList_renderAll, toList_renderAll,
    List.flatMap_append]

/-- The title of a section stands in its line as it is. -/
theorem toList_render_sectionTitle {title : String} (clean : '\x1b' ∉ title.toList)
    (colours : Bool) :
    (Line.render colours (sectionTitle title)).toList =
      ("\n" ++ Span.front colours .yellow true ++ "  ┌─[ ").toList ++ title.toList ++
        (" ]" ++ Span.back colours ++ "\n").toList := by
  have whole : '\x1b' ∉ ("  ┌─[ " ++ title ++ " ]").toList := by simpa using clean
  rw [Line.toList_render, sectionTitle, List.flatMap_cons, List.flatMap_singleton,
    Span.render_plain, Span.bold, Span.render_of_clean whole]
  simp only [String.toList_append, List.append_assoc]
  rfl

/-- A value stands in its line as it is, between what depends on its label alone. -/
theorem toList_render_field {value : String} (clean : '\x1b' ∉ value.toList) (colours : Bool)
    (label : String) :
    (Line.render colours (field label value)).toList =
      (Span.front colours .grey false ++ "  ├─" ++ Span.back colours ++ "  " ++
        Span.render colours (.coloured .yellow (label ++ ":")) ++ " " ++
        Span.front colours .white false).toList ++ value.toList ++
        (Span.back colours ++ "\n").toList := by
  have mark : Span.render colours (.coloured .grey "  ├─") = _ :=
    Span.render_of_clean (by simp) colours .grey false
  have shown : Span.render colours (.coloured .white value) = _ :=
    Span.render_of_clean clean colours .white false
  simp only [Line.toList_render, field, labelled, List.flatMap_cons, List.flatMap_nil, mark, shown,
    Span.render_plain]
  simp only [String.toList_append, List.append_assoc, List.append_nil]
  rfl

/-- Without colours a value stands behind its label. -/
theorem render_field (label value : String) :
    (field label value).render false = "  ├─  " ++ label ++ ": " ++ value ++ "\n" := by
  apply String.toList_inj.mp
  simp [Line.toList_render, field, labelled, Span.render, Span.coloured, Span.plain]

/-- Without colours a placeholder stands behind a label that has no value. -/
theorem render_missing (label : String) :
    (missing label).render false = "  ├─  " ++ label ++ ": <empty>\n" := by
  apply String.toList_inj.mp
  simp [Line.toList_render, missing, labelled, Span.render, Span.coloured, Span.plain]

/-- The end of a section stands in its line as it is. -/
theorem toList_render_sectionEnd (colours : Bool) :
    (Line.render colours sectionEnd).toList =
      (Span.front colours .yellow false ++ "  └─" ++ Span.back colours ++ "\n").toList := by
  have mark : Span.render colours (.coloured .yellow "  └─") = _ :=
    Span.render_of_clean (by simp) colours .yellow false
  rw [Line.toList_render, sectionEnd, List.flatMap_singleton, mark]
  simp only [String.toList_append, List.append_assoc]
  rfl

end EnclaveChain.Terminal
