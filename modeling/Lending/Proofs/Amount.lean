import Lending.Application.Document
import Lending.Engine.Basic
import Lending.Proofs.Decimal.Order
import Lending.Proofs.Decimal.Text
import Lending.Proofs.Document.Json

/-!
# An amount is one number

A number is written as a decimal in many ways, with more places or fewer, and zero with a sign or without. The
amount that is built from it is the same for all of them: amounts are in normal form, and the normal form of a
number is one decimal. So amounts are equal, have the same text, make the same key and stand in the order of
amounts as the numbers do. The text in turn reads back to the amount, also from JSON.
-/

namespace Lending

/-! ### Decimals in normal form -/

namespace Decimal

variable {d : Decimal}

theorem Normal.normalize_eq (h : d.Normal) : d.normalize = d := d.normalize_normal.eq_of_same h d.normalize_same

theorem isPlain_of_isDigit {c : Char} (h : c.isDigit = true) : Json.IsPlain c := by
  have hle : '0'.toNat ≤ c.toNat := (Char.isDigit_iff_toNat.1 h).1
  refine ⟨?_, ?_, Nat.le_trans (by decide) hle⟩
  · rintro rfl
    exact absurd h (by decide)
  · rintro rfl
    exact absurd h (by decide)

theorem isPlain_of_mem_text {c : Char} (h : c ∈ d.text.toList) : Json.IsPlain c := by
  rw [text, String.toList_ofList, List.mem_append] at h
  rcases h with hsign | hdigits
  · split at hsign
    · rw [List.mem_singleton.1 hsign]
      exact ⟨by decide, by decide, by decide⟩
    · exact absurd hsign List.not_mem_nil
  · rcases isDigit_or_point_of_mem_positional hdigits with hdigit | rfl
    · exact isPlain_of_isDigit hdigit
    · exact ⟨by decide, by decide, by decide⟩

end Decimal

/-! ### Amounts -/

namespace Amount

variable {x y : Amount} {d : Decimal}

theorem ofDecimal?_self (x : Amount) : ofDecimal? x.value = some x := by
  have hvalue : x.value.normalize = x.value := x.normal.normalize_eq
  have hsign : x.value.normalize.negative = false := hvalue.symm ▸ x.not_negative
  rw [ofDecimal?, dif_pos hsign]
  exact congrArg some (ext_value hvalue)

theorem exists_ofDecimal (h : 0 ≤ d.toRat) : ∃ x, ofDecimal d = .ok x ∧ x.value.toRat = d.toRat := by
  have hproper : d.normalize.Proper := d.normalize_normal.2
  have hsign : d.normalize.negative = false := by
    rw [hproper.negative_eq, Decimal.toRat_normalize]
    exact decide_eq_false (not_lt.2 h)
  refine ⟨⟨d.normalize, hsign, d.normalize_normal⟩, ?_, d.toRat_normalize⟩
  rw [ofDecimal, ofDecimal?, dif_pos hsign]

theorem eq_iff_toRat_eq : x = y ↔ x.value.toRat = y.value.toRat := by
  rw [eq_iff_same, Decimal.same_iff_toRat_eq]

theorem ofText?_text (x : Amount) : Decimal.ofText? x.text = some x.value :=
  Decimal.ofText?_text x.normal.2

theorem text_inj : x.text = y.text ↔ x = y := by
  refine ⟨fun h => ext_value ?_, congrArg text⟩
  have hread := x.ofText?_text
  rw [h, y.ofText?_text] at hread
  exact (Option.some.inj hread).symm

theorem read_json (x : Amount) :
    (Json.read? (Json.renderLine (Document.amount x))).bind Document.amount? = some x := by
  have hplain : ∀ c ∈ x.text.toList, Json.IsPlain c := fun c => Decimal.isPlain_of_mem_text
  rw [Document.amount, Json.read?_renderLine_text hplain, Option.bind_some]
  show (Decimal.ofText? x.text).bind ofDecimal? = some x
  rw [x.ofText?_text, Option.bind_some, x.ofDecimal?_self]

end Amount

def Application.requesting (a : Application) (amount : Amount) : Application :=
  { a with request := { a.request with amount := amount } }

theorem Application.key_requesting_inj {a : Application} {x y : Amount} :
    (a.requesting x).key = (a.requesting y).key ↔ x = y :=
  ⟨fun h => congrArg CacheKey.amount h, fun h => h ▸ rfl⟩

/-- **An amount is one number.** Every two numbers that are not negative, whatever decimals they are written as,
are amounts; and these are equal exactly if the numbers are, have the same text exactly if the numbers are
equal, and make the same key for an application exactly if the numbers are equal. They stand in the order of
the numbers. Every amount is what is built from its own decimal, and so is what its JSON reads back to. -/
theorem Amount.canonical {a b : Decimal} (ha : 0 ≤ a.toRat) (hb : 0 ≤ b.toRat) :
    (∃ x y, ofDecimal a = .ok x ∧ ofDecimal b = .ok y ∧
      (x = y ↔ a.toRat = b.toRat) ∧ (x.text = y.text ↔ a.toRat = b.toRat) ∧
      (∀ application : Application,
        (application.requesting x).key = (application.requesting y).key ↔ a.toRat = b.toRat) ∧
      (x ≤ y ↔ a.toRat ≤ b.toRat) ∧ (x < y ↔ a.toRat < b.toRat)) ∧
    ∀ x : Amount, ofDecimal x.value = .ok x ∧
      (Json.read? (Json.renderLine (Document.amount x))).bind Document.amount? = some x := by
  refine ⟨?built, fun x => ⟨?own, x.read_json⟩⟩
  case built =>
    obtain ⟨x, hx, hxvalue⟩ := exists_ofDecimal ha
    obtain ⟨y, hy, hyvalue⟩ := exists_ofDecimal hb
    have heq : x = y ↔ a.toRat = b.toRat := by rw [eq_iff_toRat_eq, hxvalue, hyvalue]
    refine ⟨x, y, hx, hy, heq, text_inj.trans heq, fun _ => Application.key_requesting_inj.trans heq, ?_, ?_⟩
    · rw [le_iff_toRat_le, hxvalue, hyvalue]
    · rw [← hxvalue, ← hyvalue]
      exact Decimal.lt_iff_toRat_lt
  case own =>
    rw [ofDecimal, x.ofDecimal?_self]

/-- One and a half with two places and with one; a zero with a sign and places. -/
theorem Amount.canonical_onePointFifty :
    let onePointFifty : Decimal := ⟨false, 150, 2, by decide, by decide⟩
    let negativeZero : Decimal := ⟨true, 0, 2, by decide, by decide⟩
    0 ≤ onePointFifty.toRat ∧ 0 ≤ (Decimal.tenths 15).toRat ∧ 0 ≤ negativeZero.toRat ∧
    (∃ x, ofDecimal onePointFifty = .ok x ∧ ofDecimal (Decimal.tenths 15) = .ok x) ∧
    ∃ x y, ofDecimal negativeZero = .ok x ∧ ofDecimal onePointFifty = .ok y ∧ x < y ∧ x.text ≠ y.text := by
  intro onePointFifty negativeZero
  have hfirst : onePointFifty.toRat = 3 / 2 := by
    rw [Decimal.toRat_of_nonneg rfl]
    norm_num [onePointFifty]
  have hsecond : (Decimal.tenths 15).toRat = 3 / 2 := by
    rw [Decimal.toRat_of_nonneg rfl]
    norm_num [Decimal.tenths]
  have hzero : negativeZero.toRat = 0 := Decimal.isZero_iff_toRat_eq_zero.1 rfl
  have hfirst_nonneg : 0 ≤ onePointFifty.toRat := by rw [hfirst]; norm_num
  have hsecond_nonneg : 0 ≤ (Decimal.tenths 15).toRat := by rw [hsecond]; norm_num
  refine ⟨hfirst_nonneg, hsecond_nonneg, hzero.ge, ?same, ?different⟩
  case same =>
    obtain ⟨⟨x, y, hx, hy, heq, -⟩, -⟩ := canonical hfirst_nonneg hsecond_nonneg
    obtain rfl := heq.2 (hfirst.trans hsecond.symm)
    exact ⟨x, hx, hy⟩
  case different =>
    obtain ⟨⟨x, y, hx, hy, -, htext, -, -, hlt⟩, -⟩ := canonical hzero.ge hfirst_nonneg
    rw [hzero, hfirst] at htext hlt
    exact ⟨x, y, hx, hy, hlt.2 (by norm_num), fun h => absurd (htext.1 h) (by norm_num)⟩

end Lending
