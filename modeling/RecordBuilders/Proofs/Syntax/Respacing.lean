import RecordBuilders.Proofs.Syntax.Layout
import RecordBuilders.Proofs.Syntax.Unplaced
import RecordBuilders.Proofs.Target.Likeness

/-! Texts that differ in what stands between tokens. Main result: if blanks take the place of blanks
and comments, the text is read as before, and makes the same module. -/
namespace RecordBuilders.Syntax
open Text Lexer Grammar

/-- Blanks alone, and some at least where there was something. -/
structure Replaces (gap gap' : List Char) : Prop where
  blank : ∀ c ∈ gap', isBlank c = true
  apart : gap ≠ [] → gap' ≠ []

/-- The second text has the tokens of the first, with blanks in place of what stood before, between
and behind them. Where nothing stood, blanks may have been put in. -/
inductive Respaced : List Char → List Char → Prop where
  | last {gap gap' : List Char} (run : Gap gap []) (replaced : Replaces gap gap') :
      Respaced gap gap'
  | token {gap gap' rest rest' : List Char} {l : Lexeme} (run : Gap gap (l.text.toList ++ rest))
      (replaced : Replaces gap gap') (genuine : l.Genuine) (longest : Longest l.text.toList rest)
      (more : Respaced rest rest') :
      Respaced (gap ++ (l.text.toList ++ rest)) (gap' ++ (l.text.toList ++ rest'))

section Comments
variable {cs : List Char}

theorem splitComment_eq_none_iff : splitComment cs = none ↔ ¬['*', '/'] <:+: cs := by
  constructor
  · intro h
    fun_induction splitComment cs with
    | case1 => cases h
    | case2 c tail hne ih =>
      intro hi
      rcases List.infix_cons_iff.mp hi with ⟨more, he⟩ | hi
      · obtain ⟨hc, he⟩ := List.cons.inj he
        exact hne more hc.symm he.symm
      · exact ih (Option.map_eq_none_iff.mp h) hi
    | case3 => simp
  · intro h
    cases hs : splitComment cs with
    | none => rfl
    | some found =>
      obtain ⟨body, hbody, _⟩ := closed_of_splitComment hs
      rw [← splitComment_append hs, hbody] at h
      exact absurd ⟨body, found.2, rfl⟩ h

end Comments

section Ends

/-- What may follow a token. An asterisk may follow a slash if no comment is closed behind it. -/
def Lexeme.EndsAt : Lexeme → List Char → Prop
  | .number _, rest => Halts (fun d => d.isDigit || d == '_') rest
  | .symbol .slash, rest =>
    Halts (· == '/') rest ∧ ∀ more, rest = '*' :: more → splitComment more = none
  | l, rest => Halts l.continues rest

variable {l : Lexeme} {c d : Char} {ds rest rest' : List Char}

/-- A token cannot be continued where it is the longest terminal. -/
theorem not_longest {word more : List Char} {lexeme? : Option Lexeme}
    (h : Terminal (word ++ more) lexeme?) (hne : more ≠ []) : ¬Longest word (more ++ rest) := by
  intro hl
  have hle := hl _ _ h (by rw [← List.append_assoc]; exact List.prefix_append _ _)
  have hpos := List.length_pos_iff.mpr hne
  rw [List.length_append] at hle
  omega

theorem halts_of_longest {g : Char → Bool} {word : List Char}
    (h : ∀ d, g d = true → ∃ lexeme?, Terminal (word ++ [d]) lexeme?) (hl : Longest word rest) :
    Halts g rest := by
  cases rest with
  | nil => exact halts_nil
  | cons d rest =>
    refine halts_cons.mpr (Bool.eq_false_iff.mpr fun hd => ?_)
    obtain ⟨lexeme?, ht⟩ := h d hd
    exact not_longest ht (by simp) hl

theorem forall_snoc {q : Char → Prop} (hds : ∀ e ∈ ds, q e) (hd : q d) : ∀ e ∈ ds ++ [d], q e := by
  intro e he
  rcases List.mem_append.mp he with he | he
  · exact hds e he
  · exact List.mem_singleton.mp he ▸ hd

theorem endsAt_of_longest {word : List Char} (h : Terminal word (some l)) (hl : Longest word rest) :
    l.EndsAt rest := by
  cases h with
  | keyword k =>
    obtain ⟨c, ds, he⟩ : ∃ c ds, k.text.toList = c :: ds := by cases k <;> exact ⟨_, _, rfl⟩
    obtain ⟨hc, hds⟩ := word_of_keyword he
    rw [he] at hl
    exact halts_of_longest (fun d hd => ⟨_, terminal_ofWord hc (forall_snoc hds hd)⟩) hl
  | symbol s =>
    cases s with
    | slash =>
      constructor
      · refine halts_of_longest (fun d hd => ⟨none, ?_⟩) hl
        rw [beq_iff_eq.mp hd]
        exact .lineComment (by simp)
      · rintro more rfl
        refine splitComment_eq_none_iff.mpr fun hi => ?_
        cases hs : splitComment more with
        | none => exact splitComment_eq_none_iff.mp hs hi
        | some found =>
          obtain ⟨body, hbody, hb⟩ := closed_of_splitComment hs
          rw [← splitComment_append hs, hbody] at hl
          have hblock : Terminal (['/'] ++ '*' :: (body ++ ['*', '/'])) none := .blockComment hb
          exact not_longest hblock (by simp) hl
    | colon =>
      refine halts_of_longest (fun d hd => ⟨some (.symbol .pathSep), ?_⟩) hl
      rw [beq_iff_eq.mp hd]
      exact .symbol .pathSep
    | _ => exact fun _ _ => rfl
  | name hc hds _ =>
    exact halts_of_longest (fun d hd => ⟨_, terminal_ofWord hc (forall_snoc hds hd)⟩) hl
  | lifetime hc hds =>
    exact halts_of_longest (fun d hd => ⟨_, .lifetime hc (forall_snoc hds hd)⟩) hl
  | string _ => exact fun _ _ => rfl
  | number hc hds =>
    refine halts_of_longest (fun d hd => ⟨_, .number hc (forall_snoc hds ?_)⟩) hl
    simpa using hd

theorem piece?_of_endsAt (h : Terminal (c :: ds) (some l)) (hr : l.EndsAt rest) :
    piece? c (ds ++ rest) = some ⟨some l, ds, rest⟩ := by
  cases l with
  | number text =>
    generalize hw : c :: ds = word at h
    cases h with
    | number hc hds =>
      cases hw
      exact piece?_number hc hds hr
  | symbol symbol =>
    cases symbol with
    | slash =>
      generalize hw : c :: ds = word at h
      cases h
      cases hw
      obtain ⟨hslash, hstar⟩ := hr
      change some (slashPiece rest) = _
      unfold slashPiece
      split
      · simp at hslash
      · rw [hstar _ rfl]
      · rfl
    | _ => exact piece?_of_halts h hr
  | _ => exact piece?_of_halts h hr

end Ends

section Respacing
variable {cs cs' : List Char}

/-- What a text begins with now is a blank, or it began with the same before. -/
theorem Respaced.head (h : Respaced cs cs') :
    ∀ c ∈ cs'.head?, isBlank c = true ∨ cs.head? = some c := by
  intro c hc
  cases h with
  | last _ replaced => exact Or.inl (replaced.blank c (List.mem_of_mem_head? hc))
  | @token gap gap' rest rest' l _ replaced genuine _ _ =>
    cases gap' with
    | cons d gap' =>
      cases hc
      exact Or.inl (replaced.blank _ List.mem_cons_self)
    | nil =>
      have hgap : gap = [] := by
        by_contra hne
        exact replaced.apart hne rfl
      obtain ⟨d, ds, he, _⟩ := start_of_terminal genuine
      rw [he] at hc
      rw [hgap, he]
      exact Or.inr hc

theorem infix_of_blank {gap cs : List Char} (h : ∀ c ∈ gap, isBlank c = true)
    (hi : ['*', '/'] <:+: gap ++ cs) : ['*', '/'] <:+: cs := by
  induction gap with
  | nil => exact hi
  | cons d gap ih =>
    obtain ⟨hd, hgap⟩ := List.forall_mem_cons.mp h
    rcases List.infix_cons_iff.mp hi with ⟨more, he⟩ | hi
    · rw [← (List.cons.inj he).1] at hd
      cases hd
    · exact ih hgap hi

theorem pair_infix_append {x y : Char} {xs ys : List Char} (h : [x, y] <:+: xs ++ ys) :
    [x, y] <:+: xs ∨ [x, y] <:+: ys ∨ [x] <:+ xs ∧ [y] <+: ys := by
  rcases List.infix_append_iff.mp h with hx | hy | ⟨a, b, he, ha, hb⟩
  · exact Or.inl hx
  · exact Or.inr (Or.inl hy)
  · cases a with
    | nil =>
      rw [List.nil_append] at he
      exact Or.inr (Or.inl (he ▸ hb.isInfix))
    | cons u a =>
      cases a with
      | nil =>
        obtain ⟨rfl, rfl⟩ : x = u ∧ [y] = b := by simpa using he
        exact Or.inr (Or.inr ⟨ha, hb⟩)
      | cons v a =>
        obtain ⟨rfl, rfl, rfl, rfl⟩ : x = u ∧ y = v ∧ a = [] ∧ b = [] := by simpa using he
        exact Or.inl ha.isInfix

/-- No comment is closed that was not closed before. -/
theorem Respaced.closed (h : Respaced cs cs') (hi : ['*', '/'] <:+: cs') : ['*', '/'] <:+: cs := by
  induction h with
  | @last gap gap' _ replaced =>
    rw [← List.append_nil gap'] at hi
    have hnil := infix_of_blank replaced.blank hi
    simp at hnil
  | @token gap gap' rest rest' l _ replaced _ _ more ih =>
    refine List.IsInfix.trans ?_ (List.suffix_append gap _).isInfix
    rcases pair_infix_append (infix_of_blank replaced.blank hi) with hl | hr | ⟨hl, hr⟩
    · exact hl.trans (List.prefix_append _ _).isInfix
    · exact (ih hr).trans (List.suffix_append _ _).isInfix
    · -- The two characters stand on the two sides of where the token ends.
      have hhead : rest'.head? = some '/' := by
        obtain ⟨behind, rfl⟩ := hr
        rfl
      rcases more.head '/' hhead with hblank | hhead
      · cases hblank
      · obtain ⟨behind, rfl⟩ := List.head?_eq_some_iff.mp hhead
        obtain ⟨before, htext⟩ := hl
        exact ⟨before, behind, by simp [← htext]⟩

theorem eq_star {l : Lexeme} {ds : List Char} (h : Terminal ('*' :: ds) (some l)) : ds = [] := by
  generalize hw : '*' :: ds = word at h
  cases h with
  | keyword k => cases k <;> cases hw
  | symbol s =>
    cases s with
    | star =>
      cases hw
      rfl
    | _ => cases hw
  | name hc =>
    cases hw
    cases hc
  | lifetime | string => cases hw
  | number hc =>
    cases hw
    cases hc

theorem Respaced.star (h : Respaced cs ('*' :: cs')) :
    ∃ more, cs = '*' :: more ∧ Respaced more cs' := by
  generalize hw : '*' :: cs' = text at h
  cases h with
  | last _ replaced =>
    cases replaced.blank '*' (by simp [← hw])
  | @token gap gap' rest rest' l _ replaced genuine _ more =>
    cases gap' with
    | cons d gap' =>
      cases hw
      cases replaced.blank '*' List.mem_cons_self
    | nil =>
      have hgap : gap = [] := by
        by_contra hne
        exact replaced.apart hne rfl
      obtain ⟨d, ds, he, _⟩ := start_of_terminal genuine
      rw [Lexeme.Genuine, he] at genuine
      rw [he] at hw
      obtain ⟨rfl, rfl⟩ := List.cons.inj hw
      obtain rfl := eq_star genuine
      exact ⟨rest, by simp [hgap, he], more⟩

theorem Respaced.halts {g : Char → Bool} (h : Respaced cs cs')
    (hg : ∀ c, isBlank c = true → g c = false) (hc : Halts g cs) : Halts g cs' := by
  intro c hm
  rcases h.head c hm with hblank | hhead
  · exact hg c hblank
  · exact hc c hhead

/-- A token ends where it ended before. -/
theorem Respaced.endsAt {l : Lexeme} (h : Respaced cs cs') (hl : l.EndsAt cs) : l.EndsAt cs' := by
  cases l with
  | number text =>
    refine h.halts (fun c hc => Bool.eq_false_iff.mpr fun hd => ?_) hl
    have hb := not_isBlank_of_isWordPart (isWordPart_of_isNumberPart hd)
    rw [hc] at hb
    cases hb
  | symbol symbol =>
    cases symbol with
    | slash =>
      refine ⟨h.halts (fun c hc => beq_eq_false_iff_ne.mpr ?_) hl.1, ?_⟩
      · rintro rfl
        cases hc
      · rintro more' rfl
        obtain ⟨more, rfl, hmore⟩ := h.star
        have hopen := splitComment_eq_none_iff.mp (hl.2 more rfl)
        exact splitComment_eq_none_iff.mpr (mt hmore.closed hopen)
    | _ => exact h.halts (fun c => Lexeme.not_continues_blank _) hl
  | _ => exact h.halts (fun c => Lexeme.not_continues_blank _) hl

/-- Both texts split into tokens with the same lexemes. -/
theorem Respaced.splits (h : Respaced cs cs') (p q : Position) : ∃ tokens tokens',
    Splits p cs tokens ∧ Splits q cs' tokens' ∧
      tokens'.map Token.lexeme = tokens.map Token.lexeme := by
  induction h generalizing p q with
  | @last gap gap' run replaced =>
    refine ⟨[], [], by simpa using run.splits (p := p) .nil, splits_of_scanFrom ?_, rfl⟩
    rw [← List.append_nil gap', scanFrom_blanks replaced.blank, scanFrom_nil]
  | @token gap gap' rest rest' l run replaced genuine longest more ih =>
    obtain ⟨ts, ts', hts, hts', hsame⟩ :=
      ih ((p.advance gap).advance l.text.toList) ((q.advance gap').advance l.text.toList)
    refine ⟨⟨l, p.advance gap⟩ :: ts, ⟨l, q.advance gap'⟩ :: ts',
      run.splits (.token genuine longest hts), splits_of_scanFrom ?_, by simp [hsame]⟩
    obtain ⟨c, ds, he, _⟩ := start_of_terminal genuine
    rw [Lexeme.Genuine, he] at genuine
    have hends := more.endsAt (endsAt_of_longest genuine (he ▸ longest))
    rw [he] at hts'
    rw [scanFrom_blanks replaced.blank, he, List.cons_append,
      scanFrom_of_piece? (piece?_of_endsAt genuine hends), scanFrom_of_splits hts']
    rfl

/-- Every text has a plain form. -/
theorem respaced_plainText {p : Position} {tokens : List Token} (h : Splits p cs tokens) :
    Respaced cs (plainText (tokens.map Token.lexeme)) := by
  induction tokens generalizing p cs with
  | nil => exact .last h.gap_of_nil ⟨by simp [plainText, isBlank], by simp [plainText]⟩
  | cons t ts ih =>
    obtain ⟨gap, rest, hl, hmore⟩ := h.exists_leads
    rw [hl.text]
    have hblank : Replaces gap [' '] := ⟨by simp [isBlank], by simp⟩
    exact .token hl.between hblank hl.genuine hl.longest (ih hmore)

end Respacing

section Results
open Target
variable {source changed : String} {ds : List Declaration}

/-- With blanks in place of what stands between its tokens, an accepted text is accepted still. It
has the same declarations, apart from their places, and these make the same module. -/
theorem parse_respaced (h : parse source = .ok ds) (hr : Respaced source.toList changed.toList) :
    ∃ ds', parse changed = .ok ds' ∧
      ds'.map Declaration.unplaced = ds.map Declaration.unplaced ∧
      ∀ (c : Config) (file file' : Option String), SameResult
        (generate c (ds.map (Item.mk · file))) (generate c (ds'.map (Item.mk · file'))) := by
  obtain ⟨tokens, hs, hstart⟩ := parse_eq_ok_iff.mp h
  obtain ⟨ts, ts', hts, hts', hsame⟩ := hr.splits {} {}
  obtain rfl := eq_of_splits hs hts
  obtain ⟨ds', hplaces, hstart'⟩ := start_carries _ _ _ hstart hsame
  refine ⟨ds', parse_eq_ok_iff.mpr ⟨ts', hts', hstart'⟩, hplaces, ?_⟩
  intro c file file'
  have hbare : ds.map Declaration.bare = ds'.map Declaration.bare := by
    have hmap := congrArg (List.map Declaration.bare) hplaces
    simpa [Function.comp_def, Declaration.bare_unplaced] using hmap.symm
  have hitems (ds : List Declaration) (file : Option String) :
      (ds.map (Item.mk · file)).map Item.bare = (ds.map Declaration.bare).map (Item.mk · none) := by
    rw [List.map_map, List.map_map]
    rfl
  apply sameResult_of_seen
  rw [← seen_outcomes_bare, hitems, hbare, ← hitems ds' file', seen_outcomes_bare]

/-- A text with two comments, and with a slash and an asterisk that begin none. -/
def crowdedRecord : String := "/**/#[a(/*)]struct//\nS\x7bx:u8\x7d"

/-- Set apart by blanks, the tokens mean the same. -/
theorem parse_respaced_crowded : ∃ ds ds', parse crowdedRecord = .ok ds ∧
    parse " # [ a ( / * ) ] struct S \x7b x : u8 \x7d " = .ok ds' ∧
    ds.map Declaration.location = [some ⟨1, 13⟩] ∧
    ds'.map Declaration.unplaced = ds.map Declaration.unplaced := by
  have hread : parse crowdedRecord = .ok [{
      name := "S"
      fields := [{ name := some "x", type := .path [.plain "u8"], location := some ⟨2, 3⟩ }]
      attributes := [{
        path := ["a"], input := .arguments [.punct "/", .punct "*"], location := some ⟨1, 5⟩ }]
      location := some ⟨1, 13⟩ }] := by cbv
  have hscan : scanFrom {} crowdedRecord.toList = ⟨(scan crowdedRecord).tokens, none⟩ := by cbv
  have hplain : (" # [ a ( / * ) ] struct S \x7b x : u8 \x7d ").toList =
      plainText ((scan crowdedRecord).tokens.map Token.lexeme) := by cbv
  have hr := respaced_plainText (splits_of_scanFrom hscan)
  rw [← hplain] at hr
  obtain ⟨ds', hread', hsame, _⟩ := parse_respaced hread hr
  exact ⟨_, ds', hread, hread', rfl, hsame⟩

end Results

end RecordBuilders.Syntax
