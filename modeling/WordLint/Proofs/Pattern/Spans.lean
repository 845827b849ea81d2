import WordLint.Proofs.Pattern.Words
import WordLint.Proofs.Regex.Scan

/-!
# The spans of a pattern

What a pattern finds in a text does not depend on the patterns that it is looked for together with: they only
come before it or behind it (`occurrences_append`).

**The law** (`occurrences_scan`): it finds the texts of the spans of a whole scan of the small text, and the scan
comes to an end, whatever the pattern.
-/

namespace WordLint

/-- What two lists of patterns find, one after the other. -/
theorem occurrences_append {text : String} {first second : List String} {found more : List Occurrence}
    (hfirst : occurrences text first = .ok found) (hsecond : occurrences text second = .ok more) :
    occurrences text (first ++ second) = .ok (found ++ more) := by
  unfold occurrences at hfirst hsecond ⊢
  rw [List.mapM_append]
  cases hps : first.mapM Pattern.compile with
  | error f =>
    rw [hps] at hfirst
    cases hfirst
  | ok ps =>
    cases hqs : second.mapM Pattern.compile with
    | error f =>
      rw [hqs] at hsecond
      cases hsecond
    | ok qs =>
      rw [hps] at hfirst
      rw [hqs] at hsecond
      cases hfirst
      cases hsecond
      show Except.ok ((ps ++ qs).flatMap _) = _
      rw [List.flatMap_append]

theorem spanText_searchedText (text : String) (span : Nat × Nat) :
    Regex.spanText (searchedText text) span =
      String.ofList (((Text.lower text).toList.drop span.1).take (span.2 - span.1)) := by
  unfold Regex.spanText searchedText
  rw [Array.toList_extract, List.extract_eq_take_drop]

/-- **A pattern and a text.** When the small form of a pattern can be read, there are spans of the small text such
that the pattern finds their texts, wherever it stands among patterns that can be read. They come from a scan that
has come to an end, and nothing is found twice or left out. -/
theorem occurrences_scan (text raw : String) {e : Regex.Compiled}
    (h : Regex.compile (Text.lower raw) = .ok e) :
    ∃ spans : List (Nat × Nat),
      (∀ first last found more, occurrences text first = .ok found → occurrences text last = .ok more →
        occurrences text (first ++ raw :: last) =
          .ok (found ++ spans.map (fun span =>
            ⟨String.ofList (((Text.lower text).toList.drop span.1).take (span.2 - span.1)),
              ⟨Text.lower raw, e⟩⟩) ++ more)) ∧
      e.Scans (searchedText text) 0 false spans ∧ e.FoundAll (searchedText text) spans := by
  refine ⟨e.spans (searchedText text), ?_, Regex.spans_scans e _, Regex.spans_foundAll e _⟩
  intro first last found more hfirst hlast
  have halone := occurrences_single h text
  simp only [spanText_searchedText] at halone
  rw [List.append_assoc]
  exact occurrences_append hfirst (occurrences_append halone hlast)

/-- A pattern that matches the empty text: it is found where there is nothing else, also behind a longer span. -/
theorem occurrences_scan_star :
    Regex.compile (Text.lower "A*") = .ok ⟨.repeated .greedy 0 none (.char 97), []⟩ ∧
    ∃ spans : List (Nat × Nat),
      (⟨.repeated .greedy 0 none (.char 97), []⟩ : Regex.Compiled).FoundAll (searchedText "BAAC") spans ∧
        spans.length = 4 ∧
        occurrences "BAAC" ["A*"] = .ok (["", "aa", "", ""].map
          fun found => ⟨found, ⟨"a*", .repeated .greedy 0 none (.char 97), []⟩⟩) := by
  have hread : Regex.compile (Text.lower "A*") = .ok ⟨.repeated .greedy 0 none (.char 97), []⟩ := by cbv
  obtain ⟨spans, hfound, _, hall⟩ := occurrences_scan "BAAC" "A*" hread
  have hnothing : occurrences "BAAC" [] = .ok [] := rfl
  have hspans := hfound [] [] [] [] hnothing hnothing
  have htexts : occurrences "BAAC" ["A*"] = .ok (["", "aa", "", ""].map
      fun found => ⟨found, ⟨"a*", .repeated .greedy 0 none (.char 97), []⟩⟩) := by cbv
  refine ⟨hread, spans, hall, ?_, htexts⟩
  rw [List.nil_append, htexts] at hspans
  have hlength := congrArg List.length (Except.ok.inj hspans)
  simpa using hlength.symm

end WordLint
