import WordLint.Proofs.Text.Digits
import WordLint.Trace.Level

/-!
# The level that a setting asks for

A setting asks for a level by a number or by a name, blanks at its ends aside (`asked`). A number may be written in
the decimal digits of any script; a name counts in its capital form.

**The law** (`ofSetting_asked`): a setting leads to the level that it asks for, and to none when it asks for none,
except for the settings that are `Refused`. Those are made of digit signs, which is enough for them to be taken for
numbers, and are no numerals: a superscript is among them, or there are more digits than are read. Nothing else is
refused. `superscript_refused` is the smallest such setting.
-/

namespace WordLint.Level

/-- The level that a setting asks for: the number that its decimal digits denote, or else the level with the name
that it is in capitals. Without a setting, and for one of blanks, there is none. -/
def asked : Option String → Option Level
  | none => none
  | some text =>
    let wanted := Text.trim text.toList
    if wanted = [] then none
    else if wanted.all Text.isDecimal then some (Text.numberOf wanted)
    else ofName? (String.ofList (Text.upper wanted))

/-- A setting of digit signs that is no numeral, for one of them is no decimal digit or there are too many of
them. -/
def Refused : Option String → Prop
  | none => False
  | some text =>
    let wanted := Text.trim text.toList
    wanted ≠ [] ∧ (∀ c ∈ wanted, Text.isDigitSign c = true) ∧
      ((∃ c ∈ wanted, Text.isDecimal c = false) ∨ Text.maxDigits < wanted.length)

variable {text : String}

/-- A setting of digit signs is read as a numeral. -/
theorem ofSetting_digitSigns (hne : Text.trim text.toList ≠ [])
    (h : ∀ c ∈ Text.trim text.toList, Text.isDigitSign c = true) :
    ofSetting (some text) = (Text.readInt (Text.trim text.toList)).map some := by
  have hsigns : (!(Text.trim text.toList).isEmpty && (Text.trim text.toList).all Text.isDigitSign) = true := by
    rw [Bool.and_eq_true, Bool.not_eq_true', List.isEmpty_eq_false_iff, List.all_eq_true]
    exact ⟨hne, h⟩
  unfold ofSetting
  simp only [Text.upper_digitSigns h, hsigns, if_true]

/-- Any other setting is taken for a name, in capitals. -/
theorem ofSetting_name (h : Text.trim text.toList = [] ∨ ∃ c ∈ Text.trim text.toList, Text.isDigitSign c = false) :
    ofSetting (some text) = .ok (ofName? (String.ofList (Text.upper (Text.trim text.toList)))) := by
  have hsigns : ¬ (!(Text.upper (Text.trim text.toList)).isEmpty &&
      (Text.upper (Text.trim text.toList)).all Text.isDigitSign) = true := by
    rw [Bool.and_eq_true, Bool.not_eq_true', List.isEmpty_eq_false_iff, List.all_eq_true, Ne,
      Text.upper_eq_nil_iff, Text.forall_upper_iff]
    rintro ⟨hne, hall⟩
    rcases h with hnil | ⟨c, hc, hother⟩
    · exact hne hnil
    · rw [hall c hc] at hother
      cases hother
  unfold ofSetting
  dsimp only
  rw [if_neg hsigns]

/-- A setting that is not refused leads to the level that it asks for. -/
theorem ofSetting_of_not_refused {setting : Option String} (h : ¬ Refused setting) :
    ofSetting setting = .ok (asked setting) := by
  cases setting with
  | none => rfl
  | some text =>
    by_cases hne : Text.trim text.toList = []
    · rw [ofSetting_name (.inl hne), asked, if_pos hne, hne]
      rfl
    by_cases hsigns : ∀ c ∈ Text.trim text.toList, Text.isDigitSign c = true
    · have hfine : (∀ c ∈ Text.trim text.toList, Text.isDecimal c = true) ∧
          ¬ Text.maxDigits < (Text.trim text.toList).length := by
        constructor
        · intro c hc
          by_contra hother
          exact h ⟨hne, hsigns, .inl ⟨c, hc, Bool.eq_false_iff.mpr hother⟩⟩
        · exact fun hlong => h ⟨hne, hsigns, .inr hlong⟩
      rw [ofSetting_digitSigns hne hsigns, Text.readInt_decimals hne hfine.1, if_neg hfine.2, asked, if_neg hne,
        if_pos (List.all_eq_true.mpr hfine.1)]
      rfl
    · obtain ⟨c, hc, hother⟩ : ∃ c ∈ Text.trim text.toList, Text.isDigitSign c = false := by
        simpa using hsigns
      have hname : ¬ (Text.trim text.toList).all Text.isDecimal = true := by
        intro hall
        rw [Text.isDigitSign_of_isDecimal (List.all_eq_true.mp hall c hc)] at hother
        cases hother
      rw [ofSetting_name (.inr ⟨c, hc, hother⟩), asked, if_neg hne, if_neg hname]

/-- A setting that is refused leads to an error. -/
theorem ofSetting_of_refused {setting : Option String} (h : Refused setting) :
    ∃ e, ofSetting setting = .error e := by
  cases setting with
  | none => exact h.elim
  | some text =>
    obtain ⟨hne, hsigns, hother⟩ := h
    rw [ofSetting_digitSigns hne hsigns]
    by_cases hdecimal : ∃ c ∈ Text.trim text.toList, Text.isDecimal c = false
    · rw [Text.readInt_digitSigns hsigns hdecimal]
      exact ⟨_, rfl⟩
    · have hall : ∀ c ∈ Text.trim text.toList, Text.isDecimal c = true := by simpa using hdecimal
      rw [Text.readInt_decimals hne hall, if_pos (hother.resolve_left hdecimal)]
      exact ⟨_, rfl⟩

/-- **A setting leads to the level that it asks for**, unless it is refused; and only a setting that is refused leads
to an error. -/
theorem ofSetting_asked (setting : Option String) :
    (ofSetting setting = .ok (asked setting) ↔ ¬ Refused setting) ∧
      ((∃ e, ofSetting setting = .error e) ↔ Refused setting) := by
  refine ⟨⟨fun hok hrefused => ?_, ofSetting_of_not_refused⟩, ⟨fun herror => ?_, ofSetting_of_refused⟩⟩
  · obtain ⟨e, he⟩ := ofSetting_of_refused hrefused
    rw [hok] at he
    cases he
  · by_contra hfine
    obtain ⟨e, he⟩ := herror
    rw [ofSetting_of_not_refused hfine] at he
    cases he

/-- A superscript asks for no level, and is refused instead. -/
theorem superscript_refused :
    asked (some "²") = none ∧ ofSetting (some "²") = .error (.malformed "²") := by
  decide +kernel

end WordLint.Level
