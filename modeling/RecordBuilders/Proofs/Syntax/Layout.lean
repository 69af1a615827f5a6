import RecordBuilders.Proofs.Syntax.Spelling

/-! How tokens lie in a text. Between two of them there are blanks and comments alone, and each
stands where its position says. -/
namespace RecordBuilders.Syntax
open Text Lexer

/-- Blanks and comments alone, in front of the rest of a text. -/
inductive Gap : List Char → List Char → Prop where
  | nil {rest : List Char} : Gap [] rest
  | cons {word gap rest : List Char} (terminal : Terminal word none)
      (longest : Longest word (gap ++ rest)) (more : Gap gap rest) : Gap (word ++ gap) rest

/-- The token comes first in a text that starts at `p`, behind the gap and in front of `rest`. -/
structure Leads (p : Position) (cs : List Char) (t : Token) (gap rest : List Char) : Prop where
  text : cs = gap ++ (t.lexeme.text.toList ++ rest)
  between : Gap gap (t.lexeme.text.toList ++ rest)
  position : t.position = p.advance gap
  genuine : t.lexeme.Genuine
  longest : Longest t.lexeme.text.toList rest

namespace Splits
variable {p : Position} {cs : List Char} {t : Token} {ts us : List Token}

theorem gap_of_nil (h : Splits p cs []) : Gap cs [] := by
  generalize hn : ([] : List Token) = ts at h
  induction h with
  | nil => exact .nil
  | @skip p word rest tokens terminal longest more ih =>
    exact .cons terminal (by simpa using longest) (ih hn)
  | token => cases hn

theorem exists_leads (h : Splits p cs (t :: ts)) : ∃ gap rest, Leads p cs t gap rest ∧
    Splits (t.position.advance t.lexeme.text.toList) rest ts := by
  generalize hts : t :: ts = tokens at h
  induction h with
  | nil => cases hts
  | @skip p word rest tokens terminal longest more ih =>
    obtain ⟨gap, behind, hl, hmore⟩ := ih hts
    refine ⟨word ++ gap, behind, ⟨?_, ?_, ?_, hl.genuine, hl.longest⟩, hmore⟩
    · rw [hl.text, List.append_assoc]
    · exact .cons terminal (hl.text ▸ longest) hl.between
    · rw [hl.position, Position.advance_append]
  | @token p word rest lexeme tokens terminal longest more _ =>
    cases hts
    have htext := text_of_terminal terminal
    refine ⟨[], rest, ⟨by simp [htext], .nil, rfl, ?_, by simpa [htext] using longest⟩, ?_⟩
    · rw [Lexeme.Genuine, htext]
      exact terminal
    · simpa [htext] using more

/-- Behind some of its tokens, a text goes on with the others. -/
theorem drop (h : Splits p cs (us ++ ts)) :
    ∃ before rest, cs = before ++ rest ∧ Splits (p.advance before) rest ts := by
  induction us generalizing p cs with
  | nil => exact ⟨[], cs, rfl, h⟩
  | cons u us ih =>
    obtain ⟨gap, rest, hl, hmore⟩ := exists_leads h
    obtain ⟨before, behind, rfl, hts⟩ := ih hmore
    refine ⟨gap ++ (u.lexeme.text.toList ++ before), behind, by simp [hl.text], ?_⟩
    rw [Position.advance_append, Position.advance_append, ← hl.position]
    exact hts

end Splits

theorem Gap.splits {p : Position} {gap rest : List Char} {ts : List Token} (h : Gap gap rest)
    (hrest : Splits (p.advance gap) rest ts) : Splits p (gap ++ rest) ts := by
  induction h generalizing p with
  | nil => exact hrest
  | cons terminal longest _ ih =>
    rw [List.append_assoc]
    rw [Position.advance_append] at hrest
    exact .skip terminal longest (ih hrest)

theorem Lexeme.not_continues_blank (l : Lexeme) {c : Char} (hc : isBlank c = true) :
    l.continues c = false := by
  have hword : isWordPart c = false := by
    refine Bool.eq_false_iff.mpr fun hw => ?_
    have hb := not_isBlank_of_isWordPart hw
    rw [hc] at hb
    cases hb
  cases l with
  | symbol symbol =>
    simp only [isBlank, Bool.or_eq_true, beq_iff_eq, or_assoc] at hc
    cases symbol <;> rcases hc with rfl | rfl | rfl | rfl | rfl <;> rfl
  | string => rfl
  | _ => exact hword

section Plain

/-- The lexemes in order, with one blank in front of each and one at the end. -/
def plainText : List Lexeme → List Char
  | [] => [' ']
  | l :: ls => ' ' :: (l.text.toList ++ plainText ls)

theorem scanFrom_blank {p : Position} {rest : List Char} :
    scanFrom p (' ' :: rest) = scanFrom (p.advance [' ']) rest := by
  have hblank : ∀ c ∈ [' '], isBlank c = true := by simp [isBlank]
  exact scanFrom_blanks hblank

theorem scanFrom_plainText {ls : List Lexeme} (h : ∀ l ∈ ls, l.Genuine) (p : Position) :
    ∃ tokens, scanFrom p (plainText ls) = ⟨tokens, none⟩ ∧ tokens.map Token.lexeme = ls := by
  induction ls generalizing p with
  | nil => exact ⟨[], by rw [plainText, scanFrom_blank, scanFrom_nil], rfl⟩
  | cons l ls ih =>
    obtain ⟨hl, hls⟩ := List.forall_mem_cons.mp h
    have hends : Halts l.continues (plainText ls) := by
      cases ls <;> exact halts_cons.mpr (l.not_continues_blank (by simp [isBlank]))
    obtain ⟨tokens, hscan, hmap⟩ := ih hls ((p.advance [' ']).advance l.text.toList)
    refine ⟨⟨l, p.advance [' ']⟩ :: tokens, ?_, by simp [hmap]⟩
    rw [plainText, scanFrom_blank, scanFrom_lexeme hl hends, hscan]
    rfl

/-- Genuine lexemes are those of a text. -/
theorem exists_splits_plainText {ls : List Lexeme} (h : ∀ l ∈ ls, l.Genuine) (p : Position) :
    ∃ tokens, Splits p (plainText ls) tokens ∧ tokens.map Token.lexeme = ls := by
  obtain ⟨tokens, hscan, hmap⟩ := scanFrom_plainText h p
  exact ⟨tokens, splits_of_scanFrom hscan, hmap⟩

end Plain

end RecordBuilders.Syntax
