import RecordBuilders.Proofs.Syntax.Occurrence

/-! What the scanner finds in a text that is put together from the texts of tokens. Blanks may be
left out between two tokens unless the first could go on with the character at which the second
begins. -/
namespace RecordBuilders.Syntax
open Text Lexer Grammar

/-- The lexeme is what its own text makes. -/
def Lexeme.Genuine (l : Lexeme) : Prop := Terminal l.text.toList (some l)

theorem Lexeme.genuine_symbol (s : Symbol) : (Lexeme.symbol s).Genuine := Terminal.symbol s

theorem Lexeme.genuine_keyword (k : Keyword) : (Lexeme.keyword k).Genuine := Terminal.keyword k

theorem text_of_terminal {word : List Char} {l : Lexeme} (h : Terminal word (some l)) :
    l.text.toList = word := by
  cases h <;> simp [Lexeme.text]

def AllGenuine (ts : List Token) : Prop := ∀ t ∈ ts, t.lexeme.Genuine

theorem AllGenuine.within {ts us : List Token} (h : AllGenuine us) (hi : ts <:+: us) :
    AllGenuine ts :=
  fun t ht => h t (hi.subset ht)

theorem genuine_of_splits {p : Position} {cs : List Char} {tokens : List Token}
    (h : Splits p cs tokens) : AllGenuine tokens := by
  induction h with
  | nil => simp [AllGenuine]
  | skip _ _ _ ih => exact ih
  | token terminal _ _ ih =>
    refine List.forall_mem_cons.mpr ⟨?_, ih⟩
    rw [Lexeme.Genuine, text_of_terminal terminal]
    exact terminal

/-- The characters at which a token need not end. -/
def Lexeme.continues : Lexeme → Char → Bool
  | .symbol .colon, c => c == ':'
  | .symbol .slash, c => c == '/' || c == '*'
  | .symbol _, _ | .string _, _ => false
  | _, c => isWordPart c

/-- The text does not begin with a character of the class. -/
def Halts (g : Char → Bool) (rest : List Char) : Prop := ∀ c ∈ rest.head?, g c = false

@[simp] theorem halts_nil {g : Char → Bool} : Halts g [] := by simp [Halts]

@[simp] theorem halts_cons {g : Char → Bool} {c : Char} {cs : List Char} :
    Halts g (c :: cs) ↔ g c = false := by simp [Halts]

theorem halts_mono {g h : Char → Bool} {rest : List Char} (hgh : ∀ c, g c = true → h c = true)
    (hr : Halts h rest) : Halts g rest := by
  intro c hc
  refine Bool.eq_false_iff.mpr fun hg => ?_
  have hh := hr c hc
  rw [hgh c hg] at hh
  cases hh

section Pieces
variable {c : Char} {ds rest : List Char}

theorem takeWhile_eq {q : Char → Bool} (h : ∀ d ∈ ds, q d = true) (hr : Halts q rest) :
    (ds ++ rest).takeWhile q = ds := by
  rw [List.takeWhile_append_of_pos h]
  cases rest with
  | nil => simp
  | cons c cs => simp [halts_cons.mp hr]

theorem dropWhile_eq {q : Char → Bool} (h : ∀ d ∈ ds, q d = true) (hr : Halts q rest) :
    (ds ++ rest).dropWhile q = rest := by
  rw [List.dropWhile_append_of_pos h]
  cases rest with
  | nil => rfl
  | cons c cs => simp [halts_cons.mp hr]

theorem piece?_word (hc : isWordStart c = true) (hds : ∀ d ∈ ds, isWordPart d = true)
    (hr : Halts isWordPart rest) :
    piece? c (ds ++ rest) = some ⟨some (.ofWord (String.ofList (c :: ds))), ds, rest⟩ := by
  have hb := not_isBlank_of (by decide) hc
  rw [piece?, if_neg (by simp [hb]), if_pos hc, Piece.span, takeWhile_eq hds hr,
    dropWhile_eq hds hr]

theorem piece?_slash (hr : Halts (Lexeme.symbol .slash).continues rest) :
    piece? '/' rest = some ⟨some (.symbol .slash), [], rest⟩ := by
  change some (slashPiece rest) = _
  unfold slashPiece
  split
  · simp [Lexeme.continues] at hr
  · simp [Lexeme.continues] at hr
  · rfl

theorem piece?_colon (hr : Halts (Lexeme.symbol .colon).continues rest) :
    piece? ':' rest = some ⟨some (.symbol .colon), [], rest⟩ := by
  change some (colonPiece rest) = _
  unfold colonPiece
  split
  · simp [Lexeme.continues] at hr
  · rfl

theorem piece?_number (hc : c.isDigit = true) (hds : ∀ d ∈ ds, d.isDigit = true ∨ d = '_')
    (hr : Halts (fun d => d.isDigit || d == '_') rest) :
    piece? c (ds ++ rest) = some ⟨some (.number (String.ofList (c :: ds))), ds, rest⟩ := by
  have hb := not_isBlank_of (by decide) hc
  have hs := not_isWordStart_of_isDigit hc
  have hds : ∀ d ∈ ds, (d.isDigit || d == '_') = true := by simpa using hds
  rw [piece?, if_neg (by simp [hb]), if_neg (by simp [hs]), if_pos hc, Piece.span,
    takeWhile_eq hds hr, dropWhile_eq hds hr]

/-- A token ends where nothing continues it. -/
theorem piece?_of_halts {l : Lexeme} (h : Terminal (c :: ds) (some l))
    (hr : Halts l.continues rest) : piece? c (ds ++ rest) = some ⟨some l, ds, rest⟩ := by
  generalize hw : c :: ds = word at h
  cases h with
  | keyword k =>
    obtain ⟨hc, hds⟩ := word_of_keyword hw.symm
    rw [piece?_word hc hds hr, hw, String.ofList_toList, Lexeme.ofWord, Keyword.ofText?_text]
  | symbol s =>
    cases s with
    | slash =>
      cases hw
      exact piece?_slash hr
    | colon =>
      cases hw
      exact piece?_colon hr
    | _ =>
      cases hw
      rfl
  | name hc hds free =>
    cases hw
    rw [piece?_word hc hds hr, ofWord_of_free free]
  | lifetime hc hds =>
    cases hw
    change lifetimePiece? (_ :: (_ ++ rest)) = _
    simp only [lifetimePiece?, hc, ↓reduceIte, takeWhile_eq hds hr, dropWhile_eq hds hr]
  | string hbody =>
    cases hw
    change (splitString _).map _ = _
    rw [List.append_assoc]
    simp [splitString_closed hbody]
  | number hc hds =>
    cases hw
    exact piece?_number hc hds (halts_mono (fun d => isWordPart_of_isNumberPart) hr)

end Pieces

section Scanning
variable {p : Position} {rest : List Char}

def Scan.prepend (s : Scan) (tokens : List Token) : Scan := { s with tokens := tokens ++ s.tokens }

theorem Scan.prepend_append {s : Scan} {us vs : List Token} :
    (s.prepend vs).prepend us = s.prepend (us ++ vs) := by
  simp [Scan.prepend]

theorem scanFrom_lexeme {l : Lexeme} (hl : l.Genuine) (hr : Halts l.continues rest) :
    scanFrom p (l.text.toList ++ rest) =
      (scanFrom (p.advance l.text.toList) rest).prepend [⟨l, p⟩] := by
  obtain ⟨c, ds, he, _⟩ := start_of_terminal hl
  rw [Lexeme.Genuine, he] at hl
  rw [he, List.cons_append, scanFrom_of_piece? (piece?_of_halts hl hr)]
  rfl

end Scanning

/-- Whatever comes behind the text, if it does not begin with a character of the class, the
scanner finds tokens with the property in the text, and then goes on behind it. -/
def Spells (g : Char → Bool) (cs : List Char) (P : List Token → Prop) : Prop :=
  ∀ p rest, Halts g rest →
    ∃ us, P us ∧ scanFrom p (cs ++ rest) = (scanFrom (p.advance cs) rest).prepend us

namespace Spells
variable {g h : Char → Bool} {c : Char} {cs ds : List Char} {P Q : List Token → Prop}

theorem nil (hP : P []) : Spells g [] P := fun _ _ _ => ⟨[], hP, rfl⟩

theorem imp (hs : Spells g cs P) (hPQ : ∀ us, P us → Q us) : Spells g cs Q := by
  intro p rest hr
  obtain ⟨us, hus, he⟩ := hs p rest hr
  exact ⟨us, hPQ us hus, he⟩

theorem mono (hs : Spells g cs P) (hgh : ∀ c, g c = true → h c = true) : Spells h cs P :=
  fun p rest hr => hs p rest (halts_mono hgh hr)

theorem lexeme (l : Lexeme) (hl : l.Genuine) (hP : ∀ p, P [⟨l, p⟩]) :
    Spells l.continues l.text.toList P :=
  fun p _ hr => ⟨_, hP p, scanFrom_lexeme hl hr⟩

theorem append (ha : Spells g cs P) (hgh : ∀ rest, Halts h rest → Halts g (ds ++ rest))
    (hb : Spells h ds fun vs => ∀ us, P us → Q (us ++ vs)) : Spells h (cs ++ ds) Q := by
  intro p rest hr
  obtain ⟨us, hus, ha⟩ := ha p (ds ++ rest) (hgh rest hr)
  obtain ⟨vs, hvs, hb⟩ := hb (p.advance cs) rest hr
  refine ⟨us ++ vs, hvs us hus, ?_⟩
  rw [List.append_assoc, ha, hb, Scan.prepend_append, Position.advance_append]

/-- Behind the text stands a character with which nothing in it could go on. -/
theorem before (ha : Spells g cs P) (hc : g c = false)
    (hb : Spells h (c :: ds) fun vs => ∀ us, P us → Q (us ++ vs)) : Spells h (cs ++ c :: ds) Q :=
  ha.append (fun rest _ => by simpa using hc) hb

/-- A token, and behind it a character at which it ends. -/
theorem token (l : Lexeme) (hl : l.Genuine) (hc : l.continues c = false)
    (hb : Spells h (c :: ds) fun vs => ∀ p, P (⟨l, p⟩ :: vs)) :
    Spells h (l.text.toList ++ c :: ds) P := by
  have ha : Spells l.continues l.text.toList fun us => ∃ p, us = [⟨l, p⟩] :=
    lexeme l hl fun p => ⟨p, rfl⟩
  refine ha.before hc (hb.imp fun vs hvs us hus => ?_)
  obtain ⟨p, rfl⟩ := hus
  exact hvs p

theorem blank (hs : Spells h ds P) : Spells h (' ' :: ds) P := by
  intro p rest hr
  obtain ⟨us, hus, he⟩ := hs (p.advance [' ']) rest hr
  have hb : ∀ d ∈ [' '], isBlank d = true := by simp [isBlank]
  refine ⟨us, hus, ?_⟩
  rw [List.cons_append, ← List.singleton_append, scanFrom_blanks hb, he]
  rfl

/-- A symbol of one character that what comes behind it leaves as it is. -/
theorem mark (s : Symbol) (hs : ∀ rest, Halts h rest →
      piece? c (ds ++ rest) = some ⟨some (.symbol s), [], ds ++ rest⟩)
    (hb : Spells h ds fun vs => ∀ p, P (⟨.symbol s, p⟩ :: vs)) : Spells h (c :: ds) P := by
  intro p rest hr
  obtain ⟨vs, hvs, he⟩ := hb (p.advance [c]) rest hr
  refine ⟨⟨.symbol s, p⟩ :: vs, hvs p, ?_⟩
  rw [List.cons_append, scanFrom_of_piece? (hs rest hr), he]
  rfl

theorem pathSep (hb : Spells h ds fun vs => ∀ p, P (⟨.symbol .pathSep, p⟩ :: vs)) :
    Spells h (':' :: ':' :: ds) P := by
  have ht : (Lexeme.symbol .pathSep).text.toList = [':', ':'] := rfl
  have ha : Spells (fun _ => false) [':', ':'] fun us => ∃ p, us = [⟨.symbol .pathSep, p⟩] := by
    rw [← ht]
    exact lexeme _ (Lexeme.genuine_symbol .pathSep) fun p => ⟨p, rfl⟩
  refine ha.append (fun _ _ _ _ => rfl) (hb.imp fun vs hvs us hus => ?_)
  obtain ⟨p, rfl⟩ := hus
  exact hvs p

/-- The tokens of a whole text. -/
theorem scan_eq {source : String} (hs : Spells h source.toList P) :
    ∃ us, P us ∧ scan source = ⟨us, none⟩ := by
  obtain ⟨us, hus, he⟩ := hs {} [] halts_nil
  refine ⟨us, hus, ?_⟩
  rw [scan, ← List.append_nil source.toList, he, scanFrom_nil]
  simp [Scan.prepend]

end Spells

section Lists
variable {α : Type} {g : Char → Bool} {text : α → String} {Phrase : List Token → α → Prop}

theorem spells_commaItems (hg : g ',' = false) {as : List α} (hne : as ≠ [])
    (h : ∀ a ∈ as, Spells g (text a).toList (Phrase · a)) :
    Spells g (", ".intercalate (as.map text)).toList (CommaItems Phrase · as) := by
  induction as with
  | nil => exact absurd rfl hne
  | cons a as ih =>
    obtain ⟨ha, has⟩ := List.forall_mem_cons.mp h
    cases as with
    | nil =>
      rw [List.map_singleton, String.intercalate_singleton]
      exact ha.imp fun _ => .last
    | cons b as =>
      simp only [List.map_cons, String.intercalate_cons_cons, String.toList_append,
        String.reduceToList, List.append_assoc, List.cons_append, List.nil_append]
      refine .before ha hg (.mark .comma (fun _ _ => rfl) (.blank ?_))
      exact (ih (by simp) has).imp fun _ hvs p us hus => .cons hus hvs

/-- A list in brackets, without a comma behind the last item. -/
theorem spells_enclosed {h : Char → Bool} {opening closing : Symbol} {c d : Char}
    {P : List Token → Prop} {as : List α}
    (ho : ∀ cs, piece? c cs = some ⟨some (.symbol opening), [], cs⟩)
    (hc : ∀ cs, piece? d cs = some ⟨some (.symbol closing), [], cs⟩) (hg : g ',' = false)
    (hd : g d = false) (has : ∀ a ∈ as, Spells g (text a).toList (Phrase · a))
    (hP : ∀ ts, Enclosed opening closing Phrase ts as → P ts) :
    Spells h (c :: ((", ".intercalate (as.map text)).toList ++ [d])) P := by
  refine .mark opening (fun _ _ => ho _) ?_
  cases as with
  | nil => exact .mark closing (fun _ _ => hc _) (.nil fun q p => hP _ .empty)
  | cons a as =>
    refine .before (spells_commaItems hg (by simp) has) hd ?_
    exact .mark closing (fun _ _ => hc _) (.nil fun q us hus p => hP _ (.items hus))

/-- A first item, and more that each follow a path separator. -/
theorem spells_path (hg : g ':' = false) {Next : List Token → α → Prop}
    (hnext : ∀ p us a, Phrase us a → Next (⟨.symbol .pathSep, p⟩ :: us) a) {a : α} {as : List α}
    (h : ∀ b ∈ a :: as, Spells g (text b).toList (Phrase · b)) :
    Spells g ("::".intercalate ((a :: as).map text)).toList
      fun ts => ∃ us vs, ts = us ++ vs ∧ Phrase us a ∧ Many Next vs as := by
  induction as generalizing a with
  | nil =>
    rw [List.map_singleton, String.intercalate_singleton]
    exact (h a List.mem_cons_self).imp fun us hus => ⟨us, [], by simp, hus, .nil⟩
  | cons b as ih =>
    obtain ⟨ha, has⟩ := List.forall_mem_cons.mp h
    simp only [List.map_cons, String.intercalate_cons_cons, String.toList_append,
      String.reduceToList, List.append_assoc, List.cons_append, List.nil_append] at ih ⊢
    refine .before ha hg (.pathSep ((ih has).imp fun _ hvs p us hus => ?_))
    obtain ⟨vs, ws, rfl, hvs, hws⟩ := hvs
    exact ⟨us, _, rfl, hus, .cons (hnext p vs b hvs) hws⟩

/-- Items with single blanks between them. -/
theorem spells_spaced (hg : g ' ' = false) {as : List α}
    (h : ∀ a ∈ as, Spells g (text a).toList (Phrase · a)) :
    Spells g (" ".intercalate (as.map text)).toList (Many Phrase · as) := by
  induction as with
  | nil => exact .nil .nil
  | cons a as ih =>
    obtain ⟨ha, has⟩ := List.forall_mem_cons.mp h
    cases as with
    | nil =>
      rw [List.map_singleton, String.intercalate_singleton]
      exact ha.imp fun us hus => List.append_nil us ▸ .cons hus .nil
    | cons b as =>
      simp only [List.map_cons, String.intercalate_cons_cons, String.toList_append,
        String.reduceToList, List.append_assoc, List.cons_append, List.nil_append]
      exact .before ha hg (.blank ((ih has).imp fun _ hvs us hus => .cons hus hvs))

end Lists

section Records

theorem genuine_letter {s : String} {c : Char} (hs : s.toList = [c]) (hc : isWordStart c = true) :
    (Lexeme.name s).Genuine := by
  have hfree : ∀ k : Keyword, k.text.toList ≠ [c] := by
    rintro (_ | _) <;> simp [Keyword.text]
  have hname := Terminal.name hc (by simp) hfree
  rw [← hs, String.ofList_toList] at hname
  exact hname

/-- A record with one field is read if its field is spelled out. -/
theorem exists_parse_of_field {text : String} {P : Field → Prop}
    (h : Spells isWordPart text.toList fun ts => ∃ f, NamedFieldPhrase ts f ∧ P f) :
    ∃ p f, P f ∧ parse ("struct S \x7b " ++ text ++ " \x7d") =
      .ok [{ name := "S", fields := [f], location := some p }] := by
  have hname : (Lexeme.name "S").Genuine := genuine_letter rfl rfl
  have htext : ("struct S \x7b " ++ text ++ " \x7d").toList =
      (Lexeme.keyword .struct).text.toList ++ ' ' :: ((Lexeme.name "S").text.toList ++
        ' ' :: '\x7b' :: ' ' :: (text.toList ++ [' ', '\x7d'])) := by
    simp [Lexeme.text, Keyword.text]
  have hs : Spells (fun _ => false) ("struct S \x7b " ++ text ++ " \x7d").toList fun ts =>
      ∃ p f, P f ∧ Start ts [{ name := "S", fields := [f], location := some p }] := by
    rw [htext]
    refine .token _ (Lexeme.genuine_keyword .struct) rfl (.blank (.token _ hname rfl (.blank ?_)))
    refine .mark .openBrace (fun _ _ => rfl) (.blank (.before h rfl (.blank ?_)))
    refine .mark .closeBrace (fun _ _ => rfl) (.nil ?_)
    rintro p us ⟨f, hf, hP⟩ q r s
    refine ⟨s, f, hP, ?_⟩
    rw [← List.append_nil (_ :: _)]
    exact .cons (.mk .nil .absent (.struct (.named (.items (.last hf))))) .nil
  obtain ⟨ts, ⟨p, f, hf, hstart⟩, hscan⟩ := hs.scan_eq
  refine ⟨p, f, hf, ?_⟩
  rw [parse, hscan]
  exact Scan.declarations_eq_ok_iff.mpr ⟨rfl, hstart⟩

end Records

end RecordBuilders.Syntax
