import Mathlib
import Stencil.Proofs.Template.Lowering
import Stencil.Proofs.Template.Places

/-!
# Flaws of the scanner

Only a header without a line feed stops the scanner. It runs to the end of the text, so it stands in the last
line, and whole lines in front of it do not change what the scanner sees there. Main statement: a text is
refused by the scanner exactly if its last line is, for the same flaw at the same column, as many lines
further down as the text has line feeds.
-/
namespace Stencil.Template.Token

open Text (Place)

/-- What stands behind the last line feed of a text, or all of it. -/
def lastLine (text : String) : String := String.ofList (text.toList.rtakeWhile (· ≠ '\n'))

/-- The whole lines in front of the last one. -/
theorem exists_lines (text : String) :
    ∃ lines, EndsLine lines ∧ text.toList = lines ++ (lastLine text).toList := by
  refine ⟨text.toList.rdropWhile (· ≠ '\n'), ?_, ?_⟩
  · intro c hc
    obtain ⟨hne, rfl⟩ := List.mem_getLast?_eq_getLast hc
    simpa using List.rdropWhile_last_not (· ≠ '\n') text.toList hne
  · rw [lastLine, String.toList_ofList, List.rdropWhile_append_rtakeWhile]

theorem lineFeed_not_mem_lastLine (text : String) : '\n' ∉ (lastLine text).toList := by
  rw [lastLine, String.toList_ofList]
  intro h
  simpa using List.mem_rtakeWhile_imp h

/-- A flaw of a single line is in its first line. -/
theorem line_of_scan {text : String} (h : '\n' ∉ text.toList) {m : Malformed} (hm : scan text = .error m) :
    m.line = 1 := by
  obtain ⟨before, header, htext, -, rfl⟩ := unterminated_of_scanFrom hm
  have hbefore : '\n' ∉ before := fun hmem => h (htext ▸ List.mem_append_left _ hmem)
  simp [Place.advance_line, List.count_eq_zero.2 hbefore, Place.start]

/-- Behind whole lines a line is scanned as it is alone, that many lines further down. -/
theorem scan_error_iff {lines : List Char} (h : EndsLine lines) {text line : String}
    (whole : text.toList = lines ++ line.toList) (m : Malformed) :
    scan text = .error m ↔
      ∃ m', scan line = .error m' ∧ m = { m' with line := m'.line + lines.count '\n' } := by
  obtain ⟨us, q, tail, seam⟩ := exists_seam Place.start h
  rw [scan, scan, whole, seam.scanFrom_append, scanFrom_eq_run Place.start line.toList,
    Place.advance_of_endsLine h, Place.advance_lower, scanFrom_lower]
  cases scanFrom (Place.start.advance (run line.toList)) (afterRun line.toList) with
  | ok ts => simp [lowered]
  | error m' => simp [lowered, eq_comm]

/-- A text is refused by the scanner exactly if its last line is. The flaw, its column and the remainder are the
same, and its line is the last one. So there is none in a text that ends with a line feed. -/
theorem scan_lastLine (text : String) :
    (∀ m, scan text = .error m ↔
      ∃ m', scan (lastLine text) = .error m' ∧ m = { m' with line := 1 + text.toList.count '\n' }) ∧
    (text.toList.getLast? = some '\n' → ∃ tokens, scan text = .ok tokens) := by
  obtain ⟨lines, ends, whole⟩ := exists_lines text
  have count : text.toList.count '\n' = lines.count '\n' := by
    rw [whole, List.count_append, List.count_eq_zero.2 (lineFeed_not_mem_lastLine text), Nat.add_zero]
  have refused (m : Malformed) : scan text = .error m ↔
      ∃ m', scan (lastLine text) = .error m' ∧ m = { m' with line := 1 + text.toList.count '\n' } := by
    rw [scan_error_iff ends whole, count]
    refine exists_congr fun m' => and_congr_right fun hm' => ?_
    rw [line_of_scan (lineFeed_not_mem_lastLine text) hm']
  refine ⟨refused, fun hlast => ?_⟩
  have hline : (lastLine text).toList = [] := by
    rw [lastLine, String.toList_ofList, List.rtakeWhile_eq_nil_iff]
    intro hne
    rw [List.getLast?_eq_some_getLast hne, Option.some.injEq] at hlast
    simp [hlast]
  cases hscan : scan text with
  | ok tokens => exact ⟨tokens, rfl⟩
  | error m =>
    obtain ⟨m', hm', -⟩ := (refused m).1 hscan
    rw [scan, hline, scanFrom] at hm'
    cases hm'

/-- In the last line two closings and an opening share exclamation marks and percent signs with texts. -/
theorem scan_crowded_lastLine :
    let text := "!!% p\n!\n%!!!%!!!!% x%!!"
    let m : Malformed := ⟨.unterminatedHeader, 1, 8, "!!% x%!!"⟩
    lastLine text = "%!!!%!!!!% x%!!" ∧ scan (lastLine text) = .error m ∧
      scan text = .error { m with line := 1 + 2 } ∧
      (text ++ "\n").toList.getLast? = some '\n' ∧ ∃ tokens, scan (text ++ "\n") = .ok tokens := by
  intro text m
  have hline : lastLine text = "%!!!%!!!!% x%!!" := by decide
  have hm : scan (lastLine text) = .error m := by
    rw [hline]
    cbv
  have hlast : (text ++ "\n").toList.getLast? = some '\n' := by decide
  have count : text.toList.count '\n' = 2 := by decide
  exact ⟨hline, hm, ((scan_lastLine text).1 _).2 ⟨m, hm, by rw [count]; rfl⟩, hlast,
    (scan_lastLine (text ++ "\n")).2 hlast⟩

end Stencil.Template.Token
