import RecordBuilders.Target.Names

/-! Words of the declaration language are ASCII, so that normalization leaves them alone. -/
namespace RecordBuilders
open Target

namespace Text

/-- A word begins like one and goes on like one. -/
def IsWord (s : String) : Prop :=
  ∃ c cs, s.toList = c :: cs ∧ isWordStart c = true ∧ ∀ d ∈ cs, isWordPart d = true

theorem isWordPart_of_isWordStart {c : Char} (h : isWordStart c = true) : isWordPart c = true := by
  simp only [isWordStart, isWordPart, Bool.or_eq_true, Char.isAlphanum] at h ⊢
  rcases h with h | h
  · exact Or.inl (Or.inl h)
  · exact Or.inr h

theorem IsWord.parts {s : String} (h : IsWord s) : ∀ d ∈ s.toList, isWordPart d = true := by
  obtain ⟨c, cs, hs, hc, hcs⟩ := h
  intro d hd
  rw [hs] at hd
  rcases List.mem_cons.mp hd with rfl | hd
  · exact isWordPart_of_isWordStart hc
  · exact hcs d hd

theorem IsWord.ne_empty {s : String} (h : IsWord s) : s ≠ "" := by
  obtain ⟨c, cs, hs, _⟩ := h
  rintro rfl
  cases hs

theorem isWord_ofList {c : Char} {cs : List Char} (hc : isWordStart c = true)
    (hcs : ∀ d ∈ cs, isWordPart d = true) : IsWord (String.ofList (c :: cs)) :=
  ⟨c, cs, String.toList_ofList, hc, hcs⟩

/-- What is put before a word may be any beginning of one. -/
theorem IsWord.slot {s : String} (h : IsWord s) : IsWord ("_" ++ s) :=
  ⟨'_', s.toList, by simp, by decide, h.parts⟩

theorem toNat_lt_of_isWordPart {c : Char} (h : isWordPart c = true) : c.toNat < 0x80 := by
  delta isWordPart Char.isAlphanum Char.isAlpha Char.isUpper Char.isLower Char.isDigit at h
  simp only [Bool.or_eq_true, Bool.and_eq_true, decide_eq_true_eq, beq_iff_eq] at h
  rcases h with ((h | h) | h) | rfl
  · have := UInt32.le_iff_toNat_le.mp h.2
    exact Nat.lt_of_le_of_lt this (by decide)
  · have := UInt32.le_iff_toNat_le.mp h.2
    exact Nat.lt_of_le_of_lt this (by decide)
  · have := UInt32.le_iff_toNat_le.mp h.2
    exact Nat.lt_of_le_of_lt this (by decide)
  · decide

theorem nfkc_eq_self {s : String} (h : ∀ c ∈ s.toList, c.toNat < 0x80) : nfkc s = s := by
  unfold nfkc
  rw [if_pos]
  exact List.all_eq_true.mpr fun c hc => decide_eq_true (h c hc)

theorem IsWord.nfkc_eq {s : String} (h : IsWord s) : nfkc s = s :=
  nfkc_eq_self fun c hc => toNat_lt_of_isWordPart (h.parts c hc)

end Text

open Text

theorem dropWhile_eq_self {α : Type} {p : α → Bool} {xs : List α} (h : ∀ x ∈ xs, p x = false) :
    xs.dropWhile p = xs := by
  cases xs with
  | nil => rfl
  | cons x xs => simp [h x List.mem_cons_self]

/-- Without blanks in it, only normalization makes an identifier canonical. -/
theorem Target.canonical_eq_nfkc {s : String}
    (h : ∀ c ∈ s.toList, (c == ' ' || c == '\t' || c == '\x0c') = false) :
    canonical s = nfkc s := by
  unfold canonical
  dsimp only
  rw [dropWhile_eq_self h, dropWhile_eq_self fun c hc => h c (List.mem_reverse.mp hc),
    List.reverse_reverse, String.ofList_toList]

theorem Text.IsWord.canonical_eq {s : String} (h : IsWord s) : canonical s = s := by
  rw [canonical_eq_nfkc, h.nfkc_eq]
  intro c hc
  have hp := h.parts c hc
  refine Bool.eq_false_iff.mpr fun hb => ?_
  simp only [Bool.or_eq_true, beq_iff_eq] at hb
  rcases hb with (rfl | rfl) | rfl
  · exact absurd hp (by decide)
  · exact absurd hp (by decide)
  · exact absurd hp (by decide)

theorem Target.mangled_eq_self {className name : String} (h : isGuarded name = false) :
    mangled className name = name := by
  simp [mangled, h]

end RecordBuilders
