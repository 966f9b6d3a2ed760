import Lending.ApprovalTime

/-!
# The text of an approval time

Two ranges that are shown alike are the same range. A range is shown as one number or two, with a unit behind
them: the digits end where a hyphen or a blank begins, so the numbers and the unit can be told from the text.
The unit in turn tells whether the bounds were divided by the hours of a day, which is done only where nothing
is left over.
-/

namespace Lending

/-! ### Digits -/

theorem eq_of_toDigits_eq {m n : Nat} (h : Nat.toDigits 10 m = Nat.toDigits 10 n) : m = n := by
  have hvalue := congrArg (fun digits => Nat.ofDigitChars 10 digits 0) h
  simpa only [Nat.ofDigitChars_ten_toDigits] using hvalue

theorem takeWhile_toDigits_append {n : Nat} {c : Char} {rest : List Char} (hc : c.isDigit = false) :
    (Nat.toDigits 10 n ++ c :: rest).takeWhile Char.isDigit = Nat.toDigits 10 n := by
  have hdigits : ∀ d ∈ Nat.toDigits 10 n, d.isDigit = true :=
    fun d => Nat.isDigit_of_mem_toDigits (by decide) (by decide)
  rw [List.takeWhile_append_of_pos hdigits, List.takeWhile_cons_of_neg (by simp [hc]), List.append_nil]

/-- A number ends where its digits end. -/
theorem toDigits_append_cons_inj {m n : Nat} {c d : Char} {rest rest' : List Char}
    (hc : c.isDigit = false) (hd : d.isDigit = false) :
    Nat.toDigits 10 m ++ c :: rest = Nat.toDigits 10 n ++ d :: rest' ↔ m = n ∧ c = d ∧ rest = rest' := by
  constructor
  · intro h
    have hdigits := congrArg (List.takeWhile Char.isDigit) h
    rw [takeWhile_toDigits_append hc, takeWhile_toDigits_append hd] at hdigits
    rw [hdigits] at h
    obtain ⟨hchar, hrest⟩ := List.cons.inj (List.append_cancel_left h)
    exact ⟨eq_of_toDigits_eq hdigits, hchar, hrest⟩
  · rintro ⟨rfl, rfl, rfl⟩
    rfl

namespace ApprovalTime

variable {a b : ApprovalTime} {low high low' high' : Nat} {unit unit' : String}

/-! ### Bounds with a unit -/

theorem toList_rangeText_self (n : Nat) (unit : String) :
    (rangeText n n unit).toList = Nat.toDigits 10 n ++ ' ' :: unit.toList := by
  simp [rangeText]

theorem toList_rangeText_of_ne (h : low ≠ high) (unit : String) :
    (rangeText low high unit).toList =
      Nat.toDigits 10 low ++ '-' :: (Nat.toDigits 10 high ++ ' ' :: unit.toList) := by
  simp [rangeText, h]

/-- One number is never shown like two: what follows the first of them is a blank or a hyphen. -/
theorem rangeText_inj :
    rangeText low high unit = rangeText low' high' unit' ↔ low = low' ∧ high = high' ∧ unit = unit' := by
  constructor
  · intro h
    have hlist := congrArg String.toList h
    by_cases heq : low = high <;> by_cases heq' : low' = high'
    · subst heq heq'
      rw [toList_rangeText_self, toList_rangeText_self, toDigits_append_cons_inj rfl rfl] at hlist
      exact ⟨hlist.1, hlist.1, String.toList_inj.1 hlist.2.2⟩
    · subst heq
      rw [toList_rangeText_self, toList_rangeText_of_ne heq', toDigits_append_cons_inj rfl rfl] at hlist
      exact absurd hlist.2.1 (by decide)
    · subst heq'
      rw [toList_rangeText_of_ne heq, toList_rangeText_self, toDigits_append_cons_inj rfl rfl] at hlist
      exact absurd hlist.2.1 (by decide)
    · rw [toList_rangeText_of_ne heq, toList_rangeText_of_ne heq', toDigits_append_cons_inj rfl rfl,
        toDigits_append_cons_inj rfl rfl] at hlist
      exact ⟨hlist.1, hlist.2.2.1, String.toList_inj.1 hlist.2.2.2.2⟩
  · rintro ⟨rfl, rfl, rfl⟩
    rfl

/-! ### The choice of the unit -/

def inHours (time : ApprovalTime) : Bool := time.isFast || !time.isWholeDays

theorem text_of_inHours (h : a.inHours = true) : a.text = rangeText a.minHours a.maxHours "hours" :=
  if_pos h

theorem text_of_not_inHours (h : a.inHours = false) :
    a.text = rangeText (a.minHours / hoursPerDay) (a.maxHours / hoursPerDay) "days" :=
  if_neg (Bool.eq_false_iff.1 h)

theorem dvd_of_not_inHours (h : a.inHours = false) :
    hoursPerDay ∣ a.minHours ∧ hoursPerDay ∣ a.maxHours := by
  simp only [inHours, isWholeDays, Bool.or_eq_false_iff, Bool.not_eq_false', Bool.and_eq_true,
    decide_eq_true_eq] at h
  exact ⟨Nat.dvd_of_mod_eq_zero h.2.1, Nat.dvd_of_mod_eq_zero h.2.2⟩

end ApprovalTime

/-- **The text of a range of hours determines it.** Ranges of any bounds are shown alike only if they are the
same, reversed ones included, whether they are shown in hours or in days. -/
theorem ApprovalTime.text_eq_text_iff {a b : ApprovalTime} :
    a.text = b.text ↔ a.minHours = b.minHours ∧ a.maxHours = b.maxHours := by
  constructor
  · intro h
    cases ha : a.inHours <;> cases hb : b.inHours
    · rw [text_of_not_inHours ha, text_of_not_inHours hb, rangeText_inj] at h
      obtain ⟨hmin, hmax⟩ := dvd_of_not_inHours ha
      obtain ⟨hmin', hmax'⟩ := dvd_of_not_inHours hb
      exact ⟨(Nat.div_left_inj hmin hmin').1 h.1, (Nat.div_left_inj hmax hmax').1 h.2.1⟩
    · rw [text_of_not_inHours ha, text_of_inHours hb, rangeText_inj] at h
      exact absurd h.2.2 (by decide)
    · rw [text_of_inHours ha, text_of_not_inHours hb, rangeText_inj] at h
      exact absurd h.2.2 (by decide)
    · rw [text_of_inHours ha, text_of_inHours hb, rangeText_inj] at h
      exact ⟨h.1, h.2.1⟩
  · rintro ⟨hmin, hmax⟩
    have heq : a = b := by
      cases a
      cases b
      simp_all
    rw [heq]

example : (⟨48, 72⟩ : ApprovalTime).text = "2-3 days" ∧ (⟨72, 48⟩ : ApprovalTime).text = "72-48 hours" := by
  decide +kernel

end Lending
