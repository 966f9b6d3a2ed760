import Lending.Decimal.Reader

/-!
# Decimals read back from their texts

The text of a decimal shows its sign, its digits and all of its places, and reading it gives the decimal back
with the same number of places. A text never has more digits than fit, so nothing is cut or rounded on the way.
Only a zero with a sign is read as the plain zero of as many places.
-/

namespace Lending.Decimal

/-! ### Digits -/

theorem digit?_of_isDigit {c : Char} (h : c.isDigit = true) : Text.digit? c = some (c.toNat - '0'.toNat) := by
  simp only [Char.isDigit, Bool.and_eq_true, decide_eq_true_eq] at h
  exact if_pos h

theorem le_ofDigitChars (digits : List Char) (value : Nat) : value ≤ Nat.ofDigitChars 10 digits value := by
  induction digits generalizing value with
  | nil => exact Nat.le_refl value
  | cons c digits ih =>
      rw [Nat.ofDigitChars_cons]
      exact Nat.le_trans (by omega) (ih _)

theorem isDigit_of_mem_paddedDigits {width n : Nat} {c : Char} (h : c ∈ paddedDigits width n) :
    c.isDigit = true := by
  rcases List.mem_append.1 h with hzero | hdigit
  · rw [List.eq_of_mem_replicate hzero]
    rfl
  · exact Nat.isDigit_of_mem_toDigits (by decide) (by decide) hdigit

theorem ofDigitChars_replicate_zero (count : Nat) :
    Nat.ofDigitChars 10 (List.replicate count '0') 0 = 0 := by
  induction count with
  | zero => rfl
  | succ count ih =>
      rw [List.replicate_succ, Nat.ofDigitChars_cons]
      exact ih

theorem ofDigitChars_paddedDigits (width n : Nat) : Nat.ofDigitChars 10 (paddedDigits width n) 0 = n := by
  rw [paddedDigits, Nat.ofDigitChars_append, ofDigitChars_replicate_zero, Nat.ofDigitChars_ten_toDigits]

theorem le_length_paddedDigits (width n : Nat) : width ≤ (paddedDigits width n).length := by
  rw [paddedDigits, List.length_append, List.length_replicate]
  omega

/-! ### Scanning -/

section Scan

variable {negative seen : Bool} {digits rest : List Char} {mantissa scale : Nat} {c : Char}

theorem scan?_digit (hc : c.isDigit = true) (hfits : 10 * mantissa + (c.toNat - '0'.toNat) < 2 ^ 96)
    {point : Bool} (hroom : point = true → scale < 28) :
    scan? negative (c :: rest) mantissa scale point seen =
      scan? negative rest (10 * mantissa + (c.toNat - '0'.toNat)) (if point then scale + 1 else 0) point
        true := by
  have hopen : ¬ (point && decide (28 ≤ scale)) = true := by
    cases point
    · exact Bool.false_ne_true
    · have := hroom rfl
      simp
      omega
  rw [scan?, if_neg hopen, digit?_of_isDigit hc, Nat.mul_comm mantissa 10]
  exact if_pos hfits

/-- Digits in front of the point become the mantissa. -/
theorem scan?_whole (hdigits : ∀ c ∈ digits, c.isDigit = true)
    (hfits : Nat.ofDigitChars 10 digits mantissa < 2 ^ 96) (hseen : seen = true ∨ digits ≠ []) :
    scan? negative (digits ++ rest) mantissa 0 false seen =
      scan? negative rest (Nat.ofDigitChars 10 digits mantissa) 0 false true := by
  induction digits generalizing mantissa seen with
  | nil =>
      rw [hseen.resolve_right (fun h => h rfl)]
      rfl
  | cons c digits ih =>
      obtain ⟨hc, hdigits⟩ := List.forall_mem_cons.1 hdigits
      rw [Nat.ofDigitChars_cons] at hfits ⊢
      have hfirst := Nat.lt_of_le_of_lt (le_ofDigitChars digits _) hfits
      rw [List.cons_append, scan?_digit hc hfirst (fun h => absurd h Bool.false_ne_true)]
      exact ih hdigits hfits (Or.inl rfl)

theorem scan?_point : scan? negative ('.' :: rest) mantissa 0 false true =
    scan? negative rest mantissa 0 true true := by
  rw [scan?]
  rfl

/-- Digits behind the point become places, as long as a decimal has so many. -/
theorem scan?_fraction (hdigits : ∀ c ∈ digits, c.isDigit = true)
    (hfits : Nat.ofDigitChars 10 digits mantissa < 2 ^ 96) (hplaces : scale + digits.length ≤ 28) :
    scan? negative digits mantissa scale true true =
      ofParts? negative (Nat.ofDigitChars 10 digits mantissa) (scale + digits.length) := by
  induction digits generalizing mantissa scale with
  | nil => rfl
  | cons c digits ih =>
      obtain ⟨hc, hdigits⟩ := List.forall_mem_cons.1 hdigits
      rw [List.length_cons] at hplaces
      rw [Nat.ofDigitChars_cons] at hfits ⊢
      have hfirst := Nat.lt_of_le_of_lt (le_ofDigitChars digits _) hfits
      have hlength : scale + (c :: digits).length = scale + 1 + digits.length := by
        rw [List.length_cons]
        omega
      rw [scan?_digit hc hfirst (fun _ => by omega), if_pos rfl, hlength]
      exact ih hdigits hfits (by omega)

end Scan

/-! ### Positional texts -/

/-- The digits of a decimal, cut in front of its places. -/
structure Cut (mantissa scale : Nat) (whole fraction : List Char) : Prop where
  whole_ne_nil : whole ≠ []
  isDigit : ∀ c ∈ whole ++ fraction, c.isDigit = true
  length : fraction.length = scale
  value : Nat.ofDigitChars 10 (whole ++ fraction) 0 = mantissa

theorem exists_cut (mantissa scale : Nat) :
    ∃ whole fraction, Cut mantissa scale whole fraction ∧
      positional mantissa scale = whole ++ if scale = 0 then [] else '.' :: fraction := by
  by_cases hscale : scale = 0
  · refine ⟨Nat.toDigits 10 mantissa, [], ⟨Nat.toDigits_ne_nil, ?_, hscale.symm, ?_⟩, ?_⟩
    · rw [List.append_nil]
      exact fun c => Nat.isDigit_of_mem_toDigits (by decide) (by decide)
    · rw [List.append_nil, Nat.ofDigitChars_ten_toDigits]
    · rw [positional, if_pos hscale, if_pos hscale, List.append_nil]
  · have hlength := le_length_paddedDigits (scale + 1) mantissa
    refine ⟨_, _, ⟨?_, ?_, ?_, ?_⟩, by rw [positional, if_neg hscale, if_neg hscale]⟩
    · rw [Ne, List.take_eq_nil_iff, ← List.length_eq_zero_iff]
      omega
    · rw [List.take_append_drop]
      exact fun c => isDigit_of_mem_paddedDigits
    · rw [List.length_drop]
      omega
    · rw [List.take_append_drop, ofDigitChars_paddedDigits]

theorem exists_positional_eq_cons (mantissa scale : Nat) :
    ∃ c rest, positional mantissa scale = c :: rest ∧ c.isDigit = true := by
  obtain ⟨whole, fraction, hcut, heq⟩ := exists_cut mantissa scale
  obtain ⟨c, whole, rfl⟩ := List.exists_cons_of_ne_nil hcut.whole_ne_nil
  exact ⟨c, _, heq, hcut.isDigit c List.mem_cons_self⟩

theorem isDigit_or_point_of_mem_positional {mantissa scale : Nat} {c : Char}
    (h : c ∈ positional mantissa scale) : c.isDigit = true ∨ c = '.' := by
  obtain ⟨whole, fraction, hcut, heq⟩ := exists_cut mantissa scale
  rw [heq, List.mem_append] at h
  split at h
  case isTrue => exact Or.inl (hcut.isDigit c (List.mem_append_left _ (h.resolve_right List.not_mem_nil)))
  case isFalse =>
    rcases h with hwhole | hrest
    · exact Or.inl (hcut.isDigit c (List.mem_append_left _ hwhole))
    · exact (List.mem_cons.1 hrest).symm.imp_left fun hfraction =>
        hcut.isDigit c (List.mem_append_right _ hfraction)

theorem scan?_positional (negative : Bool) {mantissa scale : Nat} (hmantissa : mantissa < 2 ^ 96)
    (hscale : scale ≤ 28) :
    scan? negative (positional mantissa scale) 0 0 false false = ofParts? negative mantissa scale := by
  obtain ⟨whole, fraction, hcut, heq⟩ := exists_cut mantissa scale
  have hvalue := hcut.value
  rw [Nat.ofDigitChars_append] at hvalue
  have hwhole : Nat.ofDigitChars 10 whole 0 < 2 ^ 96 :=
    Nat.lt_of_le_of_lt (Nat.le_trans (le_ofDigitChars fraction _) (Nat.le_of_eq hvalue)) hmantissa
  rw [heq, scan?_whole (fun c hc => hcut.isDigit c (List.mem_append_left _ hc)) hwhole
    (Or.inr hcut.whole_ne_nil)]
  split
  case isTrue hzero =>
    have hfraction : fraction = [] := List.length_eq_zero_iff.1 (hcut.length.trans hzero)
    rw [hfraction] at hvalue
    rw [hzero, ← hvalue]
    rfl
  case isFalse =>
    have hplaces : 0 + fraction.length = scale := (Nat.zero_add _).trans hcut.length
    rw [scan?_point, scan?_fraction (fun c hc => hcut.isDigit c (List.mem_append_right _ hc))
      (hvalue.symm ▸ hmantissa) (hplaces.symm ▸ hscale), hvalue, hplaces]

/-! ### Reading back -/

/-- A number begins with a digit, so it is not taken for one with a sign. -/
theorem ofPositional?_of_isDigit {c : Char} {rest : List Char} (h : c.isDigit = true) :
    ofPositional? (c :: rest) = scan? false (c :: rest) 0 0 false false := by
  rw [ofPositional?]
  · rintro _ ⟨rfl, -⟩
    exact absurd h (by decide)
  · rintro _ ⟨rfl, -⟩
    exact absurd h (by decide)

theorem ofParts?_self {d : Decimal} (h : d.mantissa = 0 → d.negative = false) :
    ofParts? d.negative d.mantissa d.scale = some d := by
  have hsign : (d.negative && d.mantissa != 0) = d.negative := by
    by_cases hzero : d.mantissa = 0
    · rw [h hzero, Bool.false_and]
    · rw [bne_iff_ne.2 hzero, Bool.and_true]
  rw [ofParts?, dif_pos ⟨d.mantissa_lt, d.scale_le⟩]
  exact congrArg some (ext_fields hsign rfl rfl)

/-- The text of a decimal reads back to it, unless it is a zero with a sign. -/
theorem ofText?_text {d : Decimal} (h : d.mantissa = 0 → d.negative = false) : ofText? d.text = some d := by
  have hscan : scan? d.negative (positional d.mantissa d.scale) 0 0 false false = some d :=
    (scan?_positional d.negative d.mantissa_lt d.scale_le).trans (ofParts?_self h)
  have hread : ofPositional? d.text.toList = some d := by
    rw [text, String.toList_ofList]
    cases hnegative : d.negative with
    | true =>
        rw [hnegative] at hscan
        exact hscan
    | false =>
        obtain ⟨c, rest, heq, hc⟩ := exists_positional_eq_cons d.mantissa d.scale
        rw [hnegative] at hscan
        rw [if_neg Bool.false_ne_true, List.nil_append, heq, ofPositional?_of_isDigit hc, ← heq, hscan]
  rw [ofText?, hread, Option.some_or]

end Lending.Decimal
