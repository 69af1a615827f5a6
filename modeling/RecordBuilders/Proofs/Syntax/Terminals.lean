import RecordBuilders.Proofs.Text.Word
import RecordBuilders.Syntax.Token.Lexer

/-! How a text splits into the terminals of the grammar. Terminals are given by the texts that they
match, and from left to right the longest match counts. Main result: the scanner finds this
splitting whenever there is one. -/
namespace RecordBuilders.Syntax
open Text Lexer

/-- What may stand between the quotes of a string. -/
inductive StringBody : List Char → Prop where
  | nil : StringBody []
  | escaped {c : Char} {cs : List Char} (char : c ≠ '\n') (rest : StringBody cs) :
      StringBody ('\\' :: c :: cs)
  | plain {c : Char} {cs : List Char} (quote : c ≠ '"') (backslash : c ≠ '\\')
      (rest : StringBody cs) : StringBody (c :: cs)

/-- The texts of the terminals, each with the lexeme that it makes. Blanks and comments make none; a
comment between slashes ends as soon as it can. -/
inductive Terminal : List Char → Option Lexeme → Prop where
  | keyword (word : Keyword) : Terminal word.text.toList (some (.keyword word))
  | symbol (symbol : Symbol) : Terminal symbol.text.toList (some (.symbol symbol))
  | name {c : Char} {cs : List Char} (start : isWordStart c = true)
      (parts : ∀ d ∈ cs, isWordPart d = true) (free : ∀ k : Keyword, k.text.toList ≠ c :: cs) :
      Terminal (c :: cs) (some (.name (String.ofList (c :: cs))))
  | lifetime {c : Char} {cs : List Char} (start : isWordStart c = true)
      (parts : ∀ d ∈ cs, isWordPart d = true) :
      Terminal ('\'' :: c :: cs) (some (.lifetime (String.ofList ('\'' :: c :: cs))))
  | string {cs : List Char} (body : StringBody cs) :
      Terminal ('"' :: (cs ++ ['"'])) (some (.string (String.ofList ('"' :: (cs ++ ['"'])))))
  | number {c : Char} {cs : List Char} (start : c.isDigit = true)
      (parts : ∀ d ∈ cs, d.isDigit = true ∨ d = '_') :
      Terminal (c :: cs) (some (.number (String.ofList (c :: cs))))
  | blanks {c : Char} {cs : List Char} (all : ∀ d ∈ c :: cs, isBlank d = true) :
      Terminal (c :: cs) none
  | lineComment {cs : List Char} (line : '\n' ∉ cs) : Terminal ('/' :: '/' :: cs) none
  | blockComment {cs : List Char} (body : ¬['*', '/'] <:+: cs) :
      Terminal ('/' :: '*' :: (cs ++ ['*', '/'])) none

/-- No terminal at the front of `word ++ rest` reaches further than `word`. -/
def Longest (word rest : List Char) : Prop :=
  ∀ other lexeme?, Terminal other lexeme? → other <+: word ++ rest → other.length ≤ word.length

/-- A text that starts at a position splits into tokens. What makes no lexeme is left out. -/
inductive Splits : Position → List Char → List Token → Prop where
  | nil {p : Position} : Splits p [] []
  | skip {p : Position} {word rest : List Char} {tokens : List Token}
      (terminal : Terminal word none) (longest : Longest word rest)
      (more : Splits (p.advance word) rest tokens) : Splits p (word ++ rest) tokens
  | token {p : Position} {word rest : List Char} {lexeme : Lexeme} {tokens : List Token}
      (terminal : Terminal word (some lexeme)) (longest : Longest word rest)
      (more : Splits (p.advance word) rest tokens) :
      Splits p (word ++ rest) (⟨lexeme, p⟩ :: tokens)

namespace Lexer

section Comments

theorem splitComment_closed {cs rest : List Char} (h : ¬['*', '/'] <:+: cs) :
    splitComment (cs ++ '*' :: '/' :: rest) = some (cs ++ ['*', '/'], rest) := by
  induction cs with
  | nil => simp [splitComment]
  | cons c cs ih =>
    have hcs : ¬['*', '/'] <:+: cs := fun hi => h (hi.trans (List.suffix_cons c cs).isInfix)
    have hne : ∀ more, c :: (cs ++ '*' :: '/' :: rest) ≠ '*' :: '/' :: more := by
      intro more he
      obtain ⟨hc, he⟩ := List.cons.inj he
      cases cs with
      | nil => simp at he
      | cons d cs =>
        obtain ⟨hd, _⟩ := List.cons.inj he
        exact h ⟨[], cs, by rw [hc, hd]; rfl⟩
    rw [List.cons_append, splitComment, ih hcs]
    · rfl
    · intro more hc he
      exact hne more (by rw [hc, he])

theorem closed_of_splitComment {cs taken rest : List Char}
    (h : splitComment cs = some (taken, rest)) :
    ∃ body, taken = body ++ ['*', '/'] ∧ ¬['*', '/'] <:+: body := by
  fun_induction splitComment cs generalizing taken with
  | case1 =>
    cases h
    exact ⟨[], rfl, by simp⟩
  | case2 c tail hne ih =>
    obtain ⟨⟨a, b⟩, ha, he⟩ := Option.map_eq_some_iff.mp h
    obtain ⟨rfl, rfl⟩ := Prod.mk.inj he
    obtain ⟨body, rfl, hb⟩ := ih ha
    refine ⟨c :: body, rfl, fun hi => ?_⟩
    rcases List.infix_cons_iff.mp hi with ⟨more, he⟩ | hi
    · obtain ⟨hc, rfl⟩ := List.cons.inj he
      refine hne (more ++ ['*', '/'] ++ b) hc.symm ?_
      rw [← splitComment_append ha]
      rfl
    · exact hb hi
  | case3 => cases h

end Comments

section Strings

theorem splitString_closed {cs rest : List Char} (h : StringBody cs) :
    splitString (cs ++ '"' :: rest) = some (cs ++ ['"'], rest) := by
  induction h with
  | nil => simp [splitString]
  | escaped hc _ ih => simp [splitString, hc, ih]
  | plain hq hb _ ih => simp [splitString, hb, ih]

theorem closed_of_splitString {cs taken rest : List Char}
    (h : splitString cs = some (taken, rest)) : ∃ body, taken = body ++ ['"'] ∧ StringBody body := by
  fun_induction splitString cs generalizing taken with
  | case1 =>
    cases h
    exact ⟨[], rfl, .nil⟩
  | case2 => cases h
  | case3 c tail hc ih =>
    obtain ⟨⟨a, b⟩, ha, he⟩ := Option.map_eq_some_iff.mp h
    obtain ⟨rfl, rfl⟩ := Prod.mk.inj he
    obtain ⟨body, rfl, hb⟩ := ih ha
    exact ⟨'\\' :: c :: body, rfl, .escaped hc hb⟩
  | case4 => cases h
  | case5 c tail hq hb hone ih =>
    obtain ⟨⟨a, b⟩, ha, he⟩ := Option.map_eq_some_iff.mp h
    obtain ⟨rfl, rfl⟩ := Prod.mk.inj he
    obtain ⟨body, rfl, hbody⟩ := ih ha
    refine ⟨c :: body, rfl, .plain hq ?_ hbody⟩
    rintro rfl
    cases tail with
    | nil => exact hone rfl rfl
    | cons d tail => exact hb d tail rfl rfl
  | case6 => cases h

end Strings

section Pieces
variable {c d : Char} {cs ds : List Char} {p : Piece} {lexeme? : Option Lexeme}

theorem prefix_takeWhile {q : Char → Bool} (hp : ds <+: cs) (hq : ∀ d ∈ ds, q d = true) :
    ds <+: cs.takeWhile q := by
  obtain ⟨rest, rfl⟩ := hp
  rw [List.takeWhile_append_of_pos hq]
  exact List.prefix_append ds _

theorem terminal_ofWord (hc : isWordStart c = true) (hds : ∀ d ∈ ds, isWordPart d = true) :
    Terminal (c :: ds) (some (.ofWord (String.ofList (c :: ds)))) := by
  unfold Lexeme.ofWord
  split
  · rename_i k hk
    have hk : k.text.toList = c :: ds := by rw [Keyword.text_of_ofText? hk, String.toList_ofList]
    exact hk ▸ .keyword k
  · rename_i hn
    refine .name hc hds fun k hk => ?_
    have hk : k.text = String.ofList (c :: ds) := by rw [← hk, String.ofList_toList]
    rw [← hk, Keyword.ofText?_text] at hn
    cases hn

theorem ofWord_of_free (free : ∀ k : Keyword, k.text.toList ≠ cs) :
    Lexeme.ofWord (String.ofList cs) = .name (String.ofList cs) := by
  have hn : Keyword.ofText? (String.ofList cs) = none := by
    refine Option.eq_none_iff_forall_ne_some.mpr fun k hk => free k ?_
    rw [Keyword.text_of_ofText? hk, String.toList_ofList]
  rw [Lexeme.ofWord, hn]

theorem terminal_slashPiece : Terminal ('/' :: (slashPiece cs).taken) (slashPiece cs).lexeme? := by
  unfold slashPiece
  split
  · rename_i cs
    refine .lineComment fun hn => ?_
    simpa using List.all_eq_true.mp List.all_takeWhile '\n' hn
  · split
    · rename_i hs
      obtain ⟨body, rfl, hb⟩ := closed_of_splitComment hs
      exact .blockComment hb
    · exact .symbol .slash
  · exact .symbol .slash

theorem terminal_colonPiece : Terminal (':' :: (colonPiece cs).taken) (colonPiece cs).lexeme? := by
  unfold colonPiece
  split
  · exact .symbol .pathSep
  · exact .symbol .colon

theorem terminal_lifetimePiece? (h : lifetimePiece? cs = some p) :
    Terminal ('\'' :: p.taken) p.lexeme? := by
  unfold lifetimePiece? at h
  split at h
  · split at h
    · rename_i hc
      cases h
      exact .lifetime hc (List.all_eq_true.mp List.all_takeWhile)
    · cases h
  · cases h

theorem text_of_ofChar? {s : Symbol} (h : Symbol.ofChar? c = some s) : s.text.toList = [c] := by
  unfold Symbol.ofChar? at h
  split at h <;> cases h <;> rfl

/-- The scanner cuts off terminals only. -/
theorem terminal_of_piece? (h : piece? c cs = some p) : Terminal (c :: p.taken) p.lexeme? := by
  unfold piece? at h
  split at h
  · rename_i hc
    cases h
    exact .blanks (by simpa using hc)
  split at h
  · rename_i hc
    cases h
    exact terminal_ofWord hc (List.all_eq_true.mp List.all_takeWhile)
  split at h
  · rename_i hc
    cases h
    exact .number hc fun d hd => by
      simpa using List.all_eq_true.mp List.all_takeWhile d hd
  split at h
  · rename_i hc
    cases h
    exact hc ▸ terminal_slashPiece
  split at h
  · rename_i hc
    exact hc ▸ terminal_lifetimePiece? h
  split at h
  · rename_i hc
    obtain ⟨⟨taken, rest⟩, hs, rfl⟩ := Option.map_eq_some_iff.mp h
    obtain ⟨body, rfl, hb⟩ := closed_of_splitString hs
    exact hc ▸ .string hb
  split at h
  · rename_i hc
    cases h
    exact hc ▸ terminal_colonPiece
  · obtain ⟨s, hs, rfl⟩ := Option.map_eq_some_iff.mp h
    exact text_of_ofChar? hs ▸ .symbol s

theorem not_isWordStart_of_isDigit (h : c.isDigit = true) : isWordStart c = false := by
  have hd : c.toNat ≤ 57 := by
    simp only [Char.isDigit, Bool.and_eq_true, decide_eq_true_eq] at h
    exact UInt32.le_iff_toNat_le.mp h.2
  rw [Bool.eq_false_iff]
  intro hw
  have hs : 65 ≤ c.toNat := by
    delta isWordStart Char.isAlpha Char.isUpper Char.isLower at hw
    simp only [Bool.or_eq_true, Bool.and_eq_true, decide_eq_true_eq, beq_iff_eq] at hw
    rcases hw with (hw | hw) | rfl
    · exact UInt32.le_iff_toNat_le.mp hw.1
    · exact Nat.le_trans (by decide) (UInt32.le_iff_toNat_le.mp hw.1)
    · decide
  omega

theorem not_isBlank_of {q : Char → Bool}
    (hq : [' ', '\t', '\x0c', '\r', '\n'].all (!q ·) = true) (h : q c = true) :
    isBlank c = false := by
  refine Bool.eq_false_iff.mpr fun hb => ?_
  have hc := List.all_eq_true.mp hq c (by simpa [isBlank, or_assoc] using hb)
  rw [h] at hc
  cases hc

theorem not_isBlank_of_isWordPart (h : isWordPart c = true) : isBlank c = false :=
  not_isBlank_of (by decide) h

theorem isWordPart_of_isNumberPart (h : (c.isDigit || c == '_') = true) : isWordPart c = true := by
  simp only [isWordPart, Char.isAlphanum, Bool.or_eq_true] at h ⊢
  exact h.imp_left Or.inr

/-- A keyword has the form of a name. -/
theorem word_of_keyword {k : Keyword} (h : k.text.toList = c :: ds) :
    isWordStart c = true ∧ ∀ d ∈ ds, isWordPart d = true := by
  have hstart : ∀ d ∈ k.text.toList, isWordStart d = true := by
    rw [← List.all_eq_true]
    cases k <;> decide
  rw [h] at hstart
  obtain ⟨hc, hds⟩ := List.forall_mem_cons.mp hstart
  exact ⟨hc, fun d hd => isWordPart_of_isWordStart (hds d hd)⟩

/-- A terminal that makes a lexeme does not begin with a blank. -/
theorem start_of_terminal {word : List Char} {lexeme : Lexeme}
    (h : Terminal word (some lexeme)) : ∃ c cs, word = c :: cs ∧ isBlank c = false := by
  cases h with
  | keyword k => cases k <;> exact ⟨_, _, rfl, by decide⟩
  | symbol s => cases s <;> exact ⟨_, _, rfl, by decide⟩
  | name hc _ _ => exact ⟨_, _, rfl, not_isBlank_of (by decide) hc⟩
  | lifetime _ _ => exact ⟨_, _, rfl, by decide⟩
  | string _ => exact ⟨_, _, rfl, by decide⟩
  | number hc _ => exact ⟨_, _, rfl, not_isBlank_of (by decide) hc⟩

/-- What a piece of the text has to be if some terminal stands in front: it reaches at least as far,
and if no further, it is that terminal. -/
def Covers (c : Char) (cs ds : List Char) (lexeme? : Option Lexeme) : Prop :=
  ∃ p, piece? c cs = some p ∧ ds <+: p.taken ∧ (p.taken = ds → p.lexeme? = lexeme?)

theorem covers_word (hb : isBlank c = false) (hc : isWordStart c = true)
    (hds : ∀ d ∈ ds, isWordPart d = true) (hp : ds <+: cs) :
    Covers c cs ds (some (.ofWord (String.ofList (c :: ds)))) := by
  refine ⟨_, by rw [piece?, if_neg (by simp [hb]), if_pos hc], prefix_takeWhile hp hds, ?_⟩
  intro he
  simp only [Piece.span] at he ⊢
  rw [he]

theorem covers_number (hb : isBlank c = false) (hc : c.isDigit = true)
    (hds : ∀ d ∈ ds, d.isDigit = true ∨ d = '_') (hp : ds <+: cs) :
    Covers c cs ds (some (.number (String.ofList (c :: ds)))) := by
  have hw := not_isWordStart_of_isDigit hc
  refine ⟨_, by rw [piece?, if_neg (by simp [hb]), if_neg (by simp [hw]), if_pos hc],
    prefix_takeWhile hp (q := fun d => d.isDigit || d == '_') (by simpa using hds), ?_⟩
  intro he
  simp only [Piece.span] at he ⊢
  rw [he]

theorem covers_lifetime (hd : isWordStart d = true) (hds : ∀ e ∈ ds, isWordPart e = true)
    (hp : d :: ds <+: cs) :
    Covers '\'' cs (d :: ds) (some (.lifetime (String.ofList ('\'' :: d :: ds)))) := by
  obtain ⟨rest, rfl⟩ := hp
  refine ⟨_, by rw [piece?, List.cons_append]; simp only [lifetimePiece?, hd]; rfl, ?_, ?_⟩
  · exact List.cons_prefix_cons.mpr ⟨rfl, prefix_takeWhile (List.prefix_append ds rest) hds⟩
  · intro he
    exact congrArg (fun cs => some (Lexeme.lifetime (String.ofList ('\'' :: cs)))) he

theorem covers_string {body : List Char} (hb : StringBody body) (hp : body ++ ['"'] <+: cs) :
    Covers '"' cs (body ++ ['"']) (some (.string (String.ofList ('"' :: (body ++ ['"']))))) := by
  obtain ⟨rest, rfl⟩ := hp
  have hs : splitString (body ++ ['"'] ++ rest) = some (body ++ ['"'], rest) := by
    rw [List.append_assoc]
    exact splitString_closed hb
  exact ⟨_, by rw [piece?, hs]; rfl, List.prefix_rfl, fun _ => rfl⟩

theorem covers_lineComment (hds : '\n' ∉ ds) (hp : '/' :: ds <+: cs) :
    Covers '/' cs ('/' :: ds) none := by
  obtain ⟨rest, rfl⟩ := hp
  refine ⟨_, rfl, ?_, fun _ => rfl⟩
  refine List.cons_prefix_cons.mpr ⟨rfl, prefix_takeWhile (List.prefix_append ds rest) ?_⟩
  rintro d hd
  exact bne_iff_ne.mpr (ne_of_mem_of_not_mem hd hds)

theorem covers_blockComment (hds : ¬['*', '/'] <:+: ds) (hp : '*' :: (ds ++ ['*', '/']) <+: cs) :
    Covers '/' cs ('*' :: (ds ++ ['*', '/'])) none := by
  obtain ⟨rest, rfl⟩ := hp
  have hs : splitComment (ds ++ ['*', '/'] ++ rest) = some (ds ++ ['*', '/'], rest) := by
    rw [List.append_assoc]
    exact splitComment_closed hds
  have hslash : slashPiece ('*' :: (ds ++ ['*', '/'] ++ rest)) =
      ⟨none, '*' :: (ds ++ ['*', '/']), rest⟩ := by
    simp only [slashPiece, hs]
  exact ⟨_, congrArg some hslash, List.prefix_rfl, fun _ => rfl⟩

theorem covers_symbol {s : Symbol} (h : s.text.toList = c :: ds) (hp : ds <+: cs) :
    Covers c cs ds (some (.symbol s)) := by
  cases s with
  | slash =>
    obtain ⟨rfl, rfl⟩ : '/' = c ∧ [] = ds := by simpa [Symbol.text] using h
    refine ⟨slashPiece cs, rfl, List.nil_prefix, fun he => ?_⟩
    unfold slashPiece at he ⊢
    split at he
    · cases he
    · split at he
      · cases he
      · rfl
    · rfl
  | colon =>
    obtain ⟨rfl, rfl⟩ : ':' = c ∧ [] = ds := by simpa [Symbol.text] using h
    refine ⟨colonPiece cs, rfl, List.nil_prefix, fun he => ?_⟩
    unfold colonPiece at he ⊢
    split at he
    · cases he
    · rfl
  | pathSep =>
    obtain ⟨rfl, rfl⟩ : ':' = c ∧ [':'] = ds := by simpa [Symbol.text] using h
    obtain ⟨rest, rfl⟩ := hp
    exact ⟨_, rfl, List.prefix_rfl, fun _ => rfl⟩
  | _ =>
    simp [Symbol.text] at h
    obtain ⟨rfl, rfl⟩ := h
    exact ⟨_, rfl, List.nil_prefix, fun _ => rfl⟩

theorem covers_of_terminal (h : Terminal (c :: ds) lexeme?) (hb : isBlank c = false)
    (hp : ds <+: cs) : Covers c cs ds lexeme? := by
  generalize hw : c :: ds = word at h
  cases h with
  | keyword k =>
    obtain ⟨hc, hds⟩ := word_of_keyword hw.symm
    have hl := covers_word hb hc hds hp
    rw [hw, String.ofList_toList, Lexeme.ofWord, Keyword.ofText?_text] at hl
    exact hl
  | symbol s => exact covers_symbol hw.symm hp
  | name hc hds free =>
    obtain ⟨rfl, rfl⟩ := List.cons.inj hw
    have hl := covers_word hb hc hds hp
    rw [ofWord_of_free free] at hl
    exact hl
  | lifetime hc hds =>
    obtain ⟨rfl, rfl⟩ := List.cons.inj hw
    exact covers_lifetime hc hds hp
  | string hbody =>
    obtain ⟨rfl, rfl⟩ := List.cons.inj hw
    exact covers_string hbody hp
  | number hc hds =>
    obtain ⟨rfl, rfl⟩ := List.cons.inj hw
    exact covers_number hb hc hds hp
  | blanks hall =>
    obtain ⟨rfl, rfl⟩ := List.cons.inj hw
    rw [hall c List.mem_cons_self] at hb
    cases hb
  | lineComment hds =>
    obtain ⟨rfl, rfl⟩ := List.cons.inj hw
    exact covers_lineComment hds hp
  | blockComment hds =>
    obtain ⟨rfl, rfl⟩ := List.cons.inj hw
    exact covers_blockComment hds hp

/-- The scanner cuts off the longest terminal. -/
theorem longest_of_piece? (h : piece? c cs = some p) (hb : isBlank c = false) :
    Longest (c :: p.taken) p.rest := by
  intro other lexeme? ho hp
  cases other with
  | nil => exact Nat.zero_le _
  | cons d ds =>
    rw [List.cons_append, piece?_append h] at hp
    obtain ⟨rfl, hds⟩ := List.cons_prefix_cons.mp hp
    obtain ⟨q, hq, hle, _⟩ := covers_of_terminal ho hb hds
    obtain rfl : p = q := Option.some.inj (h.symm.trans hq)
    exact Nat.succ_le_succ hle.length_le

/-- The longest terminal is what the scanner cuts off. -/
theorem piece?_of_longest (ht : Terminal (c :: ds) lexeme?) (hl : Longest (c :: ds) cs)
    (hb : isBlank c = false) : piece? c (ds ++ cs) = some ⟨lexeme?, ds, cs⟩ := by
  obtain ⟨p, hp, hle, hlexeme⟩ := covers_of_terminal ht hb (List.prefix_append ds cs)
  have happ := piece?_append hp
  have htaken : p.taken = ds := by
    refine (hle.eq_of_length_le ?_).symm
    refine Nat.le_of_succ_le_succ (hl _ _ (terminal_of_piece? hp) ?_)
    rw [List.cons_append]
    exact List.cons_prefix_cons.mpr ⟨rfl, happ ▸ List.prefix_append p.taken p.rest⟩
  have hrest : p.rest = cs := List.append_cancel_left (htaken ▸ happ)
  rw [hp, ← hlexeme htaken, ← htaken, ← hrest]

end Pieces
end Lexer

section Scanning
variable {p : Position} {c : Char} {cs rest : List Char} {tokens : List Token}

theorem scanFrom_nil : scanFrom p [] = ⟨[], none⟩ := by
  rw [scanFrom]

theorem scanFrom_of_piece? {q : Piece} (h : piece? c cs = some q) :
    scanFrom p (c :: cs) = (scanFrom (p.advance (c :: q.taken)) q.rest).push q.lexeme? p := by
  rw [scanFrom]
  split
  · rename_i hn
    rw [h] at hn
    cases hn
  · rename_i found hf
    rw [h] at hf
    cases hf
    rfl

/-- Blanks are passed one by one. -/
theorem scanFrom_blanks (h : ∀ d ∈ cs, isBlank d = true) :
    scanFrom p (cs ++ rest) = scanFrom (p.advance cs) rest := by
  induction cs generalizing p with
  | nil => rfl
  | cons c cs ih =>
    obtain ⟨hc, hcs⟩ := List.forall_mem_cons.mp h
    rw [List.cons_append, scanFrom_of_piece? (q := ⟨none, [], cs ++ rest⟩) (by simp [piece?, hc])]
    exact ih hcs

/-- A longest terminal is what the scanner passes. -/
theorem scanFrom_of_longest {word : List Char} {lexeme? : Option Lexeme}
    (ht : Terminal word lexeme?) (hl : Longest word rest) :
    scanFrom p (word ++ rest) = (scanFrom (p.advance word) rest).push lexeme? p := by
  have hpiece {c : Char} {cs : List Char} (he : word = c :: cs) (hb : isBlank c = false) :
      scanFrom p (word ++ rest) = (scanFrom (p.advance word) rest).push lexeme? p := by
    subst he
    rw [List.cons_append, scanFrom_of_piece? (piece?_of_longest ht hl hb)]
  cases lexeme? with
  | some lexeme =>
    obtain ⟨c, cs, he, hb⟩ := start_of_terminal ht
    exact hpiece he hb
  | none =>
    cases ht with
    | blanks hall => exact scanFrom_blanks hall
    | lineComment | blockComment => exact hpiece rfl (by decide)

theorem scanFrom_of_splits (h : Splits p cs tokens) : scanFrom p cs = ⟨tokens, none⟩ := by
  induction h with
  | nil => exact scanFrom_nil
  | skip ht hl _ ih | token ht hl _ ih =>
    rw [scanFrom_of_longest ht hl, ih]
    rfl

/-- A run of blanks that is not followed by one is a longest terminal. -/
theorem longest_blanks (h : ∀ d ∈ c :: cs, isBlank d = true)
    (hrest : ∀ d ∈ rest.head?, isBlank d = false) : Longest (c :: cs) rest := by
  intro other lexeme? ho hp
  rcases List.prefix_or_prefix_of_prefix hp (List.prefix_append (c :: cs) rest) with hle | hge
  · exact hle.length_le
  obtain ⟨more, rfl⟩ := hge
  have hmore : more <+: rest := (List.prefix_append_right_inj (c :: cs)).mp hp
  have hblank : ∀ d ∈ more, isBlank d = true := by
    cases lexeme? with
    | some lexeme =>
      obtain ⟨d, ds, he, hd⟩ := start_of_terminal ho
      obtain ⟨rfl, _⟩ := List.cons.inj he
      rw [h c List.mem_cons_self] at hd
      cases hd
    | none =>
      generalize hw : c :: cs ++ more = word at ho
      cases ho with
      | blanks hall => exact fun d hd => hall d (hw ▸ List.mem_append_right _ hd)
      | lineComment _ | blockComment _ =>
        obtain ⟨rfl, _⟩ := List.cons.inj hw
        exact absurd (h '/' List.mem_cons_self) (by decide)
  cases more with
  | nil => simp
  | cons d more =>
    obtain ⟨after, rfl⟩ := hmore
    have hd := hrest d rfl
    rw [hblank d List.mem_cons_self] at hd
    cases hd

/-- A text that is not empty begins with a longest terminal, or with a stray character. -/
theorem exists_longest (c : Char) (cs : List Char) : piece? c cs = none ∨
    ∃ word rest lexeme?, c :: cs = word ++ rest ∧ rest.length < (c :: cs).length ∧
      Terminal word lexeme? ∧ Longest word rest := by
  by_cases hb : isBlank c = true
  · have hall : ∀ d ∈ c :: cs.takeWhile isBlank, isBlank d = true :=
      List.forall_mem_cons.mpr ⟨hb, List.all_eq_true.mp List.all_takeWhile⟩
    have hlongest : Longest (c :: cs.takeWhile isBlank) (cs.dropWhile isBlank) := by
      refine longest_blanks hall fun d hd => ?_
      have hnot := List.head?_dropWhile_not isBlank cs
      rw [Option.mem_def.mp hd] at hnot
      exact hnot
    exact Or.inr ⟨_, _, none, by simp, Nat.lt_succ_of_le (List.dropWhile_sublist isBlank).length_le,
      .blanks hall, hlongest⟩
  · have hb : isBlank c = false := Bool.eq_false_iff.mpr hb
    cases hq : piece? c cs with
    | none => exact Or.inl rfl
    | some q =>
      exact Or.inr ⟨c :: q.taken, q.rest, q.lexeme?, by rw [List.cons_append, piece?_append hq],
        Nat.lt_succ_of_le (piece?_length hq), terminal_of_piece? hq, longest_of_piece? hq hb⟩

theorem scanFrom_stray (h : piece? c cs = none) : scanFrom p (c :: cs) = ⟨[], some ⟨c, p⟩⟩ := by
  rw [scanFrom]
  split
  · rfl
  · rename_i found hf
    rw [h] at hf
    cases hf

theorem splits_of_scanFrom (h : scanFrom p cs = ⟨tokens, none⟩) : Splits p cs tokens := by
  induction hn : cs.length using Nat.strongRecOn generalizing p cs tokens with
  | ind n ih =>
    subst hn
    cases cs with
    | nil =>
      rw [scanFrom_nil] at h
      cases h
      exact .nil
    | cons c cs =>
      rcases exists_longest c cs with hnone | ⟨word, rest, lexeme?, he, hshort, ht, hl⟩
      · rw [scanFrom_stray hnone] at h
        cases h
      · rw [he, scanFrom_of_longest ht hl] at h
        rw [he]
        cases hs : scanFrom (p.advance word) rest with
        | mk found stray =>
          rw [hs] at h
          cases lexeme? with
          | none =>
            cases h
            exact .skip ht hl (ih _ hshort hs rfl)
          | some lexeme =>
            cases h
            exact .token ht hl (ih _ hshort hs rfl)

/-- A text splits into tokens exactly if the scanner meets no stray character, and the tokens are
those that it finds. -/
theorem splits_iff_scanFrom : Splits p cs tokens ↔ scanFrom p cs = ⟨tokens, none⟩ :=
  ⟨scanFrom_of_splits, splits_of_scanFrom⟩

end Scanning

end RecordBuilders.Syntax
