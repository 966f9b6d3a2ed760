import Mathlib
import Lending.Vocabulary.Lexicon

/-!
# What a leniently written term may look like

A text is read as a term exactly if, without the white space at its ends, it spells the tag of the term
character by character: a letter may be of either case, and a hyphen or a space may stand for an underscore.
Tags consist of lower-case letters and underscores only, so folding a character forgets nothing else about it
(`IsPlain.foldChar_eq_iff_spells`): no text spells two tags, and no text that spells none is read.
-/

namespace Lending

/-! ### White space at the ends -/

namespace Text

/-- What is left of a text without the white space at its beginning and its end. -/
structure IsCore (text core : List Char) : Prop where
  between : ∃ before after, text = before ++ core ++ after ∧ ∀ c ∈ before ++ after, isWhiteSpace c = true
  head : ∀ c ∈ core.head?, isWhiteSpace c = false
  last : ∀ c ∈ core.getLast?, isWhiteSpace c = false

variable {text core : List Char}

theorem trim_eq_rdropWhile (text : List Char) :
    trim text = (text.dropWhile isWhiteSpace).rdropWhile isWhiteSpace := rfl

theorem isCore_trim (text : List Char) : IsCore text (trim text) := by
  rw [trim_eq_rdropWhile]
  set rest := text.dropWhile isWhiteSpace with hrest
  constructor
  case between =>
    refine ⟨text.takeWhile isWhiteSpace, rest.rtakeWhile isWhiteSpace, ?_, fun c hc => ?_⟩
    · rw [List.append_assoc, List.rdropWhile_append_rtakeWhile, hrest, List.takeWhile_append_dropWhile]
    · rcases List.mem_append.1 hc with hc | hc
      · exact List.mem_takeWhile_imp hc
      · exact List.mem_rtakeWhile_imp hc
  case head =>
    intro c hc
    obtain ⟨after, hafter⟩ := List.rdropWhile_prefix isWhiteSpace rest
    have hhead : rest.head? = some c := by rw [← hafter, List.head?_append, hc, Option.some_or]
    have hnot := List.head?_dropWhile_not isWhiteSpace text
    rwa [← hrest, hhead] at hnot
  case last =>
    intro c hc
    obtain ⟨hne, rfl⟩ := List.mem_getLast?_eq_getLast hc
    exact Bool.eq_false_iff.2 (List.rdropWhile_last_not isWhiteSpace rest hne)

theorem dropWhile_append_of_blank {blank rest : List Char} (hblank : ∀ c ∈ blank, isWhiteSpace c = true)
    (hhead : ∀ c ∈ rest.head?, isWhiteSpace c = false) : (blank ++ rest).dropWhile isWhiteSpace = rest := by
  rw [List.dropWhile_append_of_pos hblank]
  cases rest with
  | nil => rfl
  | cons c rest => exact List.dropWhile_cons_of_neg (Bool.eq_false_iff.1 (hhead c rfl))

theorem IsCore.trim_eq (h : IsCore text core) : trim text = core := by
  obtain ⟨⟨before, after, rfl, hblank⟩, hhead, hlast⟩ := h
  have hbefore : ∀ c ∈ before, isWhiteSpace c = true := fun c hc => hblank c (List.mem_append_left _ hc)
  have hafter : ∀ c ∈ after, isWhiteSpace c = true := fun c hc => hblank c (List.mem_append_right _ hc)
  rw [trim, List.append_assoc]
  cases core with
  | nil =>
      rw [List.nil_append, List.dropWhile_append_of_pos hbefore, List.dropWhile_eq_nil_iff.2 hafter]
      rfl
  | cons first core =>
      rw [dropWhile_append_of_blank hbefore (by simpa using hhead), List.reverse_append,
        dropWhile_append_of_blank (by simpa using hafter) (by simpa only [List.head?_reverse] using hlast),
        List.reverse_reverse]

theorem isCore_self (h : ∀ c ∈ text, isWhiteSpace c = false) : IsCore text text where
  between := ⟨[], [], by simp⟩
  head c hc := h c (List.mem_of_mem_head? hc)
  last c hc := h c (List.mem_of_mem_getLast? hc)

end Text

namespace Vocabulary

/-! ### Characters -/

/-- What tags are made of. -/
def IsPlain (c : Char) : Prop := c.isLower = true ∨ c = '_'

instance (c : Char) : Decidable (IsPlain c) := inferInstanceAs (Decidable (_ ∨ _))

namespace IsPlain

variable {c written : Char}

theorem isUpper (h : IsPlain c) : c.isUpper = false := by
  rcases h with hlower | rfl
  · exact Bool.eq_false_iff.2 (Char.not_isUpper_of_isLower hlower)
  · rfl

theorem isWhiteSpace (h : IsPlain c) : Text.isWhiteSpace c = false := by
  rcases h with hlower | rfl
  · have hrange : 97 ≤ c.toNat ∧ c.toNat ≤ 122 := by
      simpa [Char.isLower, UInt32.le_iff_toNat_le] using hlower
    simp only [Text.isWhiteSpace, Text.whiteSpaceRanges, List.any_cons, List.any_nil]
    grind
  · rfl

theorem foldChar_eq_iff_spells (h : IsPlain c) : foldChar written = c ↔ Spells written c := by
  unfold foldChar
  split
  · rename_i hseparator
    constructor
    · rintro rfl
      exact Or.inr (Or.inr ⟨rfl, hseparator⟩)
    · rintro (rfl | ⟨-, hupper, -⟩ | ⟨rfl, -⟩)
      · rcases hseparator with rfl | rfl <;> revert h <;> decide
      · rcases hseparator with rfl | rfl <;> cases hupper
      · rfl
  · rename_i hother
    cases hupper : written.isUpper with
    | true =>
        constructor
        · rintro rfl
          have hlower : written.toLower.isLower = true := by
            rw [Char.isLower_toLower_eq_isAlpha, Char.isAlpha, hupper, Bool.true_or]
          exact Or.inr (Or.inl ⟨hlower, hupper, rfl⟩)
        · rintro (rfl | ⟨-, -, hlowered⟩ | ⟨-, hseparator⟩)
          · exact absurd (h.isUpper.symm.trans hupper) (by decide)
          · exact hlowered
          · exact absurd hseparator hother
    | false =>
        rw [Char.toLower_eq_of_not_isUpper (Bool.eq_false_iff.1 hupper)]
        constructor
        · exact Or.inl
        · rintro (rfl | ⟨-, hupper', -⟩ | ⟨-, hseparator⟩)
          · rfl
          · exact absurd (hupper.symm.trans hupper') (by decide)
          · exact absurd hseparator hother

end IsPlain

theorem map_foldChar_eq_iff {written tagged : List Char} (h : ∀ c ∈ tagged, IsPlain c) :
    written.map foldChar = tagged ↔ List.Forall₂ Spells written tagged := by
  induction tagged generalizing written with
  | nil => simp
  | cons c tagged ih =>
      cases written with
      | nil => simp
      | cons w written =>
          obtain ⟨hc, htagged⟩ := List.forall_mem_cons.1 h
          rw [List.map_cons, List.cons.injEq, List.forall₂_cons, hc.foldChar_eq_iff_spells, ih htagged]

end Vocabulary

open Vocabulary

/-! ### Tags -/

namespace Lexicon

theorem mem_terms {lexicon : Lexicon} (term : lexicon.Term) : term ∈ (terms : List lexicon.Term) := by
  cases lexicon <;> cases term <;> decide

theorem nodup_tags (lexicon : Lexicon) : ((terms : List lexicon.Term).map tag).Nodup := by
  cases lexicon <;> decide

theorem eq_of_tag_eq {lexicon : Lexicon} {a b : lexicon.Term} (h : tag a = tag b) : a = b :=
  List.inj_on_of_nodup_map lexicon.nodup_tags (mem_terms a) (mem_terms b) h

theorem isPlain_of_mem_tag {lexicon : Lexicon} {term : lexicon.Term} :
    ∀ c ∈ (tag term).toList, IsPlain c := by
  -- said as `all` so that only the characters of the tag are tried, not every character there is
  have hall : (tag term).toList.all (fun c => decide (IsPlain c)) = true := by
    cases lexicon <;> cases term <;> decide
  exact fun c hc => of_decide_eq_true (List.all_eq_true.1 hall c hc)

theorem documentTag_eq_tag {lexicon : Lexicon} (term : lexicon.Term) : documentTag term = tag term := by
  cases lexicon <;> cases term <;> decide

end Lexicon

/-! ### Reading -/

namespace Vocabulary

/-- The text spells the tag of the term, with any white space around it. -/
def Denotes {α : Type} [Vocabulary α] (text : String) (term : α) : Prop :=
  ∃ core, Text.IsCore text.toList core ∧ List.Forall₂ Spells core (tag term).toList

theorem read_cases (α : Type) [Vocabulary α] (text : String) :
    (∃ term : α, (tag term).toList = fold text ∧ read text = .ok term) ∨
      ((∀ term ∈ (terms : List α), (tag term).toList ≠ fold text) ∧
        (read text : Except UnknownTerm α) = .error ⟨kind α, text⟩) := by
  unfold read
  split
  · rename_i term hfound
    exact Or.inl ⟨term, by simpa using List.find?_some hfound, rfl⟩
  · rename_i hnone
    exact Or.inr ⟨fun term hterm => by simpa using List.find?_eq_none.1 hnone term hterm, rfl⟩

end Vocabulary

namespace Lexicon

variable {lexicon : Lexicon} {text : String} {term a b : lexicon.Term}

theorem denotes_iff_tag_eq_fold : Denotes text term ↔ (tag term).toList = fold text := by
  rw [fold, eq_comm, map_foldChar_eq_iff isPlain_of_mem_tag, Denotes]
  constructor
  · rintro ⟨core, hcore, hspelt⟩
    rwa [hcore.trim_eq]
  · intro hspelt
    exact ⟨_, Text.isCore_trim _, hspelt⟩

theorem denotes_tag (term : lexicon.Term) : Denotes (tag term) term := by
  refine ⟨(tag term).toList, Text.isCore_self fun c hc => (isPlain_of_mem_tag c hc).isWhiteSpace, ?_⟩
  exact List.forall₂_same.2 fun c _ => Or.inl rfl

theorem eq_of_denotes (ha : Denotes text a) (hb : Denotes text b) : a = b := by
  rw [denotes_iff_tag_eq_fold] at ha hb
  exact eq_of_tag_eq (String.toList_inj.1 (ha.trans hb.symm))

theorem read_eq_ok_iff : read text = .ok term ↔ Denotes text term := by
  rcases read_cases lexicon.Term text with ⟨other, hother, hread⟩ | ⟨hnone, hread⟩
  · rw [hread, Except.ok.injEq]
    constructor
    · rintro rfl
      exact denotes_iff_tag_eq_fold.2 hother
    · exact eq_of_denotes (denotes_iff_tag_eq_fold.2 hother)
  · rw [hread, denotes_iff_tag_eq_fold]
    constructor
    · intro hok
      cases hok
    · intro htag
      exact absurd htag (hnone term (mem_terms term))

theorem read_eq_error_iff {unknown : UnknownTerm} :
    (read text : Except UnknownTerm lexicon.Term) = .error unknown ↔
      (∀ term : lexicon.Term, ¬ Denotes text term) ∧ unknown = ⟨kind lexicon.Term, text⟩ := by
  rcases read_cases lexicon.Term text with ⟨term, hterm, hread⟩ | ⟨hnone, hread⟩
  · rw [hread]
    constructor
    · intro herror
      cases herror
    · rintro ⟨hnone, -⟩
      exact absurd (denotes_iff_tag_eq_fold.2 hterm) (hnone term)
  · rw [hread, Except.error.injEq, eq_comm, iff_and_self]
    intro _ term hdenotes
    exact hnone term (mem_terms term) (denotes_iff_tag_eq_fold.1 hdenotes)

theorem ofTag?_eq_some_iff : ofTag? text = some term ↔ text = tag term := by
  constructor
  · intro hfound
    have htag := List.find?_some hfound
    exact (beq_iff_eq.1 htag).symm
  · rintro rfl
    cases hfound : (ofTag? (tag term) : Option lexicon.Term) with
    | none => exact absurd (List.find?_eq_none.1 hfound term (mem_terms term)) (by simp)
    | some other =>
        have htag := List.find?_some hfound
        rw [eq_of_tag_eq (beq_iff_eq.1 htag)]

/-- **Lenient reading accepts the spellings of terms and nothing else.** In every lexicon, a text is read as a
term exactly if it spells the tag of the term, and it spells at most one. The tag that is shown and the one that
documents hold are among the spellings. Every other text is refused, and the refusal holds it as it was. -/
theorem reads_exactly_spellings (lexicon : Lexicon) (text : String) :
    (∀ term : lexicon.Term, ∀ c ∈ (tag term).toList, IsPlain c) ∧
    (∀ term : lexicon.Term, read text = .ok term ↔ Denotes text term) ∧
    (∀ a b : lexicon.Term, Denotes text a → Denotes text b → a = b) ∧
    (∀ term : lexicon.Term, read (tag term) = .ok term ∧ read (documentTag term) = .ok term) ∧
    (∀ term : lexicon.Term, ofTag? text = some term ↔ text = documentTag term) ∧
    ∀ unknown, (read text : Except UnknownTerm lexicon.Term) = .error unknown ↔
      (∀ term : lexicon.Term, ¬ Denotes text term) ∧ unknown = ⟨kind lexicon.Term, text⟩ := by
  refine ⟨?plain, fun _ => read_eq_ok_iff, fun _ _ => eq_of_denotes, ?own, ?exact, fun _ => read_eq_error_iff⟩
  case plain => exact fun _ => isPlain_of_mem_tag
  case own =>
    intro term
    rw [documentTag_eq_tag]
    have hread : read (tag term) = .ok term := read_eq_ok_iff.2 (denotes_tag term)
    exact ⟨hread, hread⟩
  case exact =>
    intro term
    rw [documentTag_eq_tag, ofTag?_eq_some_iff]

example :
    read "\u3000INVOICE-financing " = (.ok .invoiceFinancing : Except UnknownTerm Product) ∧
      read "term--loan" = (.error ⟨"financing product", "term--loan"⟩ : Except UnknownTerm Product) := by
  decide

end Lexicon
end Lending
