import Mathlib.Data.Nat.Digits.Defs
import RecordBuilders.Json.Writer
import RecordBuilders.Proofs.Text.Pieces

/-! A value is written in printable ASCII, so that it never takes more than one line. -/
namespace RecordBuilders.Json
open Text

/-- ASCII without control characters. -/
def isPrintable (c : Char) : Bool := 32 ≤ c.toNat && c.toNat < 127

def IsPrintable (cs : List Char) : Prop := ∀ c ∈ cs, isPrintable c = true

theorem isPrintable_of_all {cs : List Char} (h : cs.all isPrintable = true) : IsPrintable cs :=
  List.all_eq_true.mp h

theorem IsPrintable.append {cs ds : List Char} (hc : IsPrintable cs) (hd : IsPrintable ds) :
    IsPrintable (cs ++ ds) :=
  List.forall_mem_append.mpr ⟨hc, hd⟩

section Characters

theorem isPrintable_hexDigit {n : Nat} (h : n < 16) : isPrintable (hexDigit n) = true := by
  have hall : ∀ k : Fin 16, isPrintable (hexDigit k) = true := by decide
  exact hall ⟨n, h⟩

theorem isPrintable_hexDigits (width n : Nat) : IsPrintable (hexDigits width n) := by
  induction width generalizing n with
  | zero => exact isPrintable_of_all rfl
  | succ width ih =>
    apply (ih _).append
    intro c hc
    rw [List.mem_singleton.mp hc]
    exact isPrintable_hexDigit (Nat.mod_lt n (by decide))

theorem isPrintable_unitEscape (n : Nat) : IsPrintable (unitEscape n) := by
  have hmark : IsPrintable ['\\', 'u'] := isPrintable_of_all (by decide)
  exact hmark.append (isPrintable_hexDigits 4 n)

theorem isPrintable_escapeChar (c : Char) : IsPrintable (escapeChar c) := by
  unfold escapeChar
  split
  · next h => rcases h with rfl | rfl <;> exact isPrintable_of_all (by decide)
  iterate 5
    split
    · exact isPrintable_of_all (by decide)
  split
  · next h =>
    intro d hd
    rw [List.mem_singleton.mp hd]
    simpa [isPrintable] using h
  split
  · exact isPrintable_unitEscape _
  · exact (isPrintable_unitEscape _).append (isPrintable_unitEscape _)

theorem isPrintable_of_isDigit {c : Char} (h : c.isDigit = true) : isPrintable c = true := by
  simp only [Char.isDigit, Bool.and_eq_true, decide_eq_true_eq] at h
  have hlow : 48 ≤ c.toNat := h.1
  have hhigh : c.toNat ≤ 57 := h.2
  simp only [isPrintable, Bool.and_eq_true, decide_eq_true_eq]
  omega

end Characters

section Texts

theorem isPrintable_stringText (s : String) : IsPrintable (stringText s).toList := by
  have hquote : IsPrintable ['"'] := isPrintable_of_all (by decide)
  have hbody : IsPrintable (s.toList.flatMap escapeChar) := by
    intro c hc
    obtain ⟨d, _, hd⟩ := List.mem_flatMap.mp hc
    exact isPrintable_escapeChar d c hd
  rw [stringText, String.toList_ofList]
  exact hquote.append (hbody.append hquote)

theorem isPrintable_nat (n : Nat) : IsPrintable (toString n).toList := by
  intro c hc
  rw [Nat.toString_eq_repr, Nat.toList_repr] at hc
  exact isPrintable_of_isDigit (Nat.isDigit_of_mem_toDigits (by decide) (by decide) hc)

theorem isPrintable_int (n : Int) : IsPrintable (toString n).toList := by
  cases n with
  | ofNat n => exact isPrintable_nat n
  | negSucc n =>
    have hsign : IsPrintable ['-'] := isPrintable_of_all (by decide)
    have hn : (toString (Int.negSucc n)).toList = ['-'] ++ (toString (n + 1)).toList :=
      String.toList_append
    rw [hn]
    exact hsign.append (isPrintable_nat (n + 1))

theorem isPrintable_decimalText (d : Decimal) : IsPrintable (decimalText d).toList := by
  have hsign : IsPrintable (if d.negative then "-" else "").toList := by
    cases d.negative with
    | true => exact isPrintable_of_all (by decide)
    | false => exact isPrintable_of_all (by decide)
  have hmark : IsPrintable "e".toList := isPrintable_of_all (by decide)
  rw [decimalText, String.toList_append, String.toList_append, String.toList_append]
  exact ((hsign.append (isPrintable_nat _)).append hmark).append (isPrintable_int _)

/-- Brackets around items that stand apart by a comma and a blank. -/
theorem isPrintable_enclosed {start stop : String} {texts : List String}
    (hstart : start.toList.all isPrintable = true) (hstop : stop.toList.all isPrintable = true)
    (htexts : ∀ s ∈ texts, IsPrintable s.toList) :
    IsPrintable (start ++ ", ".intercalate texts ++ stop).toList := by
  have hmark : IsPrintable ", ".toList := isPrintable_of_all (by decide)
  have hbody : IsPrintable (", ".intercalate texts).toList := forall_mem_intercalate hmark htexts
  rw [String.toList_append, String.toList_append]
  exact ((isPrintable_of_all hstart).append hbody).append (isPrintable_of_all hstop)

mutual

theorem isPrintable_text : (j : Json) → IsPrintable j.text.toList
  | .null => isPrintable_of_all (by decide)
  | .bool true => isPrintable_of_all (by decide)
  | .bool false => isPrintable_of_all (by decide)
  | .integer n => isPrintable_int n
  | .decimal d => isPrintable_decimalText d
  | .nonFinite .nan => isPrintable_of_all (by decide)
  | .nonFinite .infinity => isPrintable_of_all (by decide)
  | .nonFinite .negativeInfinity => isPrintable_of_all (by decide)
  | .string s => isPrintable_stringText s
  | .array items => isPrintable_enclosed (by decide) (by decide) (isPrintable_texts items)
  | .object members => isPrintable_enclosed (by decide) (by decide) (isPrintable_memberTexts members)

theorem isPrintable_texts : (items : List Json) → ∀ s ∈ texts items, IsPrintable s.toList
  | [] => fun _ h => nomatch h
  | item :: items => List.forall_mem_cons.mpr ⟨isPrintable_text item, isPrintable_texts items⟩

theorem isPrintable_memberTexts :
    (members : List (String × Json)) → ∀ s ∈ memberTexts members, IsPrintable s.toList
  | [] => fun _ h => nomatch h
  | (name, value) :: members => by
    have hmark : IsPrintable ": ".toList := isPrintable_of_all (by decide)
    refine List.forall_mem_cons.mpr ⟨?_, isPrintable_memberTexts members⟩
    rw [String.toList_append, String.toList_append]
    exact ((isPrintable_stringText name).append hmark).append (isPrintable_text value)

end

/-- A value is written on one line. -/
theorem lineFeed_notMem_text (j : Json) : '\n' ∉ j.text.toList := by
  intro h
  have hprintable : isPrintable '\n' = true := isPrintable_text j '\n' h
  revert hprintable
  decide

end Texts

end RecordBuilders.Json
