import RecordBuilders.Proofs.Syntax.Extension
import RecordBuilders.Proofs.Syntax.Layout
import RecordBuilders.Proofs.Syntax.Lockstep
import RecordBuilders.Proofs.Syntax.Unplaced
import RecordBuilders.Syntax.SourceFile

/-! Where a text is refused. Main result: at the earliest error, which is the first character that
begins no terminal, the first token with which no text goes on, or the last token of a text that
breaks off. -/
namespace RecordBuilders.Syntax
open Text Lexer Grammar

/-- A text that starts at `p` splits into tokens up to what is left of it at `q`. -/
inductive SplitsTo (q : Position) (left : List Char) :
    Position → List Char → List Token → Prop where
  | here : SplitsTo q left q left []
  | skip {p : Position} {word rest : List Char} {tokens : List Token}
      (terminal : Terminal word none) (longest : Longest word rest)
      (more : SplitsTo q left (p.advance word) rest tokens) :
      SplitsTo q left p (word ++ rest) tokens
  | token {p : Position} {word rest : List Char} {lexeme : Lexeme} {tokens : List Token}
      (terminal : Terminal word (some lexeme)) (longest : Longest word rest)
      (more : SplitsTo q left (p.advance word) rest tokens) :
      SplitsTo q left p (word ++ rest) (⟨lexeme, p⟩ :: tokens)

section Splitting
variable {p q : Position} {cs left : List Char} {c : Char} {tokens pre post : List Token}

theorem scanFrom_of_splitsTo (h : SplitsTo q left p cs tokens) :
    scanFrom p cs = (scanFrom q left).prepend tokens := by
  induction h with
  | here => rfl
  | skip ht hl _ ih | token ht hl _ ih =>
    rw [scanFrom_of_longest ht hl, ih]
    rfl

theorem genuine_of_splitsTo (h : SplitsTo q left p cs tokens) : AllGenuine tokens := by
  induction h with
  | here => simp [AllGenuine]
  | skip _ _ _ ih => exact ih
  | token terminal _ _ ih =>
    refine List.forall_mem_cons.mpr ⟨?_, ih⟩
    rw [Lexeme.Genuine, text_of_terminal terminal]
    exact terminal

/-- The scanner splits a text up to its end, or up to the stray character. -/
theorem exists_splitsTo (p : Position) (cs : List Char) : ∃ q left,
    SplitsTo q left p cs (scanFrom p cs).tokens ∧ ∀ s, (scanFrom p cs).stray = some s →
      s.position = q ∧ ∃ rest, left = s.char :: rest ∧ piece? s.char rest = none := by
  induction hn : cs.length using Nat.strongRecOn generalizing p cs with
  | ind n ih =>
    subst hn
    cases cs with
    | nil =>
      rw [scanFrom_nil]
      exact ⟨p, [], .here, fun s hs => by cases hs⟩
    | cons c cs =>
      rcases exists_longest c cs with hnone | ⟨word, rest, lexeme?, he, hshort, ht, hl⟩
      · rw [scanFrom_stray hnone]
        refine ⟨p, c :: cs, .here, ?_⟩
        intro s hs
        cases hs
        exact ⟨rfl, cs, rfl, hnone⟩
      · obtain ⟨q, left, hsplits, hstray⟩ := ih rest.length hshort (p.advance word) rest rfl
        rw [he, scanFrom_of_longest ht hl]
        cases lexeme? with
        | none => exact ⟨q, left, .skip ht hl hsplits, hstray⟩
        | some lexeme => exact ⟨q, left, .token ht hl hsplits, hstray⟩

/-- A text that splits into tokens splits up to each of them. -/
theorem SplitsTo.of_append (h : SplitsTo q left p cs (pre ++ post)) :
    ∃ q left, SplitsTo q left p cs pre := by
  generalize hts : pre ++ post = tokens at h
  induction h generalizing pre with
  | here =>
    obtain ⟨rfl, rfl⟩ := List.append_eq_nil_iff.mp hts
    exact ⟨_, _, .here⟩
  | skip terminal longest _ ih =>
    obtain ⟨q, left, hpre⟩ := ih hts
    exact ⟨q, left, .skip terminal longest hpre⟩
  | token terminal longest _ ih =>
    cases pre with
    | nil => exact ⟨_, _, .here⟩
    | cons t pre =>
      obtain ⟨rfl, hmore⟩ := List.cons.inj hts
      obtain ⟨q, left, hpre⟩ := ih hmore
      exact ⟨q, left, .token terminal longest hpre⟩

theorem ne_nil_of_terminal {word : List Char} {lexeme? : Option Lexeme}
    (h : Terminal word lexeme?) : word ≠ [] := by
  cases h with
  | keyword k => cases k <;> simp [Keyword.text]
  | symbol s => cases s <;> simp [Symbol.text]
  | _ => simp

/-- Nothing begins at a stray character, not even a comment. -/
theorem piece?_eq_none_iff : piece? c cs = none ↔
    ∀ word lexeme?, Terminal word lexeme? → ¬word <+: c :: cs := by
  constructor
  · intro h word lexeme? ht hp
    obtain ⟨d, ds, rfl⟩ := List.exists_cons_of_ne_nil (ne_nil_of_terminal ht)
    obtain ⟨rfl, hds⟩ := List.cons_prefix_cons.mp hp
    by_cases hb : isBlank d = true
    · simp [piece?, hb] at h
    · obtain ⟨q, hq, _⟩ := covers_of_terminal ht (Bool.eq_false_iff.mpr hb) hds
      rw [hq] at h
      cases h
  · intro h
    cases hq : piece? c cs with
    | none => rfl
    | some q =>
      refine absurd ?_ (h _ _ (terminal_of_piece? hq))
      exact List.cons_prefix_cons.mpr ⟨rfl, q.rest, piece?_append hq⟩

end Splitting

section Viable

/-- Some accepted text begins with tokens of these lexemes. -/
def Viable (ls : List Lexeme) : Prop :=
  ∃ (text : String) (tokens : List Token) (ds : List Declaration), Splits {} text.toList tokens ∧
    parse text = .ok ds ∧ ls <+: tokens.map Token.lexeme

variable {us ts rest : List Token} {t : Token}

theorem Viable.of_prefix {ls ms : List Lexeme} (h : Viable ms) (hp : ls <+: ms) : Viable ls := by
  obtain ⟨text, tokens, ds, hs, hread, hm⟩ := h
  exact ⟨text, tokens, ds, hs, hread, hp.trans hm⟩

/-- Tokens with which declarations can begin are those with which a text does. -/
theorem viable_of_begun (hg : AllGenuine ts) (h : Parser.Begun (Parser.IsPhrase Start) ts) :
    Viable (ts.map Token.lexeme) := by
  obtain ⟨more, hmore, ds, hstart⟩ := h
  have hgenuine : ∀ l ∈ (ts ++ more).map Token.lexeme, l.Genuine := by
    intro l hl
    obtain ⟨t, ht, rfl⟩ := List.mem_map.mp hl
    exact (List.forall_mem_append.mpr ⟨hg, hmore⟩) t ht
  obtain ⟨tokens, hs, hlexemes⟩ := exists_splits_plainText hgenuine {}
  obtain ⟨ds', _, hstart'⟩ := start_carries _ _ _ hstart hlexemes
  rw [← String.toList_ofList (l := plainText _)] at hs
  refine ⟨_, tokens, ds', hs, parse_eq_ok_iff.mpr ⟨tokens, hs, hstart'⟩, ?_⟩
  rw [hlexemes, List.map_append]
  exact List.prefix_append _ _

/-- With a token at which the parser of declarations stops, no accepted text goes on. -/
theorem not_viable_of_error (h : Parser.declarations (us ++ t :: rest) = .error (t :: rest)) :
    ¬Viable ((us ++ [t]).map Token.lexeme) := by
  rintro ⟨text, tokens, ds, hs, hread, ls, hls⟩
  obtain ⟨tokens', hs', hstart⟩ := parse_eq_ok_iff.mp hread
  obtain rfl := eq_of_splits hs hs'
  obtain ⟨vs, ws, rfl, hvs, _⟩ := List.map_eq_append_iff.mp hls.symm
  have hlexemes : (us ++ t :: ws).map Token.lexeme = (vs ++ ws).map Token.lexeme := by
    rw [List.append_cons, List.map_append, ← hvs, ← List.map_append]
  obtain ⟨ds', _, hstart'⟩ := start_carries _ _ _ hstart hlexemes
  have hok := Parser.declarations_eq_ok_iff.mpr ⟨rfl, hstart'⟩
  rw [Parser.declarations_error_of_prefix h ws] at hok
  cases hok

/-- The token is the first with which no text goes on. -/
structure StuckAt (ts us : List Token) (t : Token) (rest : List Token) : Prop where
  tokens : ts = us ++ t :: rest
  viable : Viable (us.map Token.lexeme)
  stuck : ¬Viable ((us ++ [t]).map Token.lexeme)

namespace StuckAt
variable {us' rest' : List Token} {t' : Token}

theorem not_viable (h : StuckAt ts us t rest) {vs : List Token} (hp : us ++ [t] <+: vs) :
    ¬Viable (vs.map Token.lexeme) :=
  fun hv => h.stuck (hv.of_prefix (hp.map Token.lexeme))

theorem prefix_tokens (h : StuckAt ts us t rest) : us ++ [t] <+: ts :=
  ⟨rest, by simp [h.tokens]⟩

theorem eq (h : StuckAt ts us t rest) (h' : StuckAt ts us' t' rest') : t = t' := by
  -- If one of the two came earlier, the tokens before the other would go on with it.
  rcases List.append_eq_append_iff.mp (h.tokens.symm.trans h'.tokens) with
    ⟨as, hus, hts⟩ | ⟨as, hus, hts⟩
  · cases as with
    | nil => exact (List.cons.inj hts).1
    | cons a as =>
      obtain ⟨rfl, _⟩ := List.cons.inj hts
      exact absurd h'.viable (h.not_viable ⟨as, by simp [hus]⟩)
  · cases as with
    | nil => exact (List.cons.inj hts).1.symm
    | cons a as =>
      obtain ⟨rfl, _⟩ := List.cons.inj hts
      exact absurd h.viable (h'.not_viable ⟨as, by simp [hus]⟩)

end StuckAt

/-- Tokens that a text may have are read, or lack something at the end, or are stuck somewhere. -/
theorem declarations_cases (hg : AllGenuine ts) :
    (Viable (ts.map Token.lexeme) ∧ ∃ ds, Parser.declarations ts = .ok (ds, [])) ∨
      (Viable (ts.map Token.lexeme) ∧ Parser.declarations ts = .error []) ∨
      ∃ us t rest, StuckAt ts us t rest ∧ Parser.declarations ts = .error (t :: rest) := by
  cases hd : Parser.declarations ts with
  | ok found =>
    obtain ⟨ds, left⟩ := found
    obtain ⟨rfl, hstart⟩ := Parser.declarations_eq_ok_iff.mp hd
    exact Or.inl ⟨viable_of_begun hg (Parser.begun_of ⟨ds, hstart⟩), ds, rfl⟩
  | error left =>
    obtain ⟨us, rfl, hbegun⟩ := Parser.declarations_extends.error _ left hd
    cases left with
    | nil =>
      rw [List.append_nil] at hg ⊢
      exact Or.inr (Or.inl ⟨viable_of_begun hg hbegun, rfl⟩)
    | cons t rest =>
      have hv := viable_of_begun (List.forall_mem_append.mp hg).1 hbegun
      exact Or.inr (Or.inr ⟨us, t, rest, ⟨rfl, hv, not_viable_of_error hd⟩, rfl⟩)

theorem declarations_of_viable (hg : AllGenuine ts) (hv : Viable (ts.map Token.lexeme)) :
    (∃ ds, Parser.declarations ts = .ok (ds, [])) ∨ Parser.declarations ts = .error [] := by
  rcases declarations_cases hg with ⟨_, hd⟩ | ⟨_, hd⟩ | ⟨us, t, rest, hstuck, _⟩
  · exact Or.inl hd
  · exact Or.inr hd
  · exact absurd hv (hstuck.not_viable hstuck.prefix_tokens)

theorem declarations_of_stuckAt (hg : AllGenuine ts) (h : StuckAt ts us t rest) :
    ∃ left, Parser.declarations ts = .error (t :: left) := by
  rcases declarations_cases hg with ⟨hv, _⟩ | ⟨hv, _⟩ | ⟨us', t', left, hstuck, hd⟩
  · exact absurd hv (h.not_viable h.prefix_tokens)
  · exact absurd hv (h.not_viable h.prefix_tokens)
  · obtain rfl := h.eq hstuck
    exact ⟨left, hd⟩

end Viable

/-- The ways in which a text can be at fault, each with the position that tells of it. -/
inductive EarliestError (source : String) : Position → Prop where
  | stray {tokens : List Token} {q : Position} {c : Char} {rest : List Char}
      (upTo : SplitsTo q (c :: rest) {} source.toList tokens)
      (nothing : ∀ word lexeme?, Terminal word lexeme? → ¬word <+: c :: rest)
      (viable : Viable (tokens.map Token.lexeme)) : EarliestError source q
  | token {tokens : List Token} {t : Token} {q : Position} {rest : List Char}
      (upTo : SplitsTo q rest {} source.toList (tokens ++ [t]))
      (viable : Viable (tokens.map Token.lexeme))
      (stuck : ¬Viable ((tokens ++ [t]).map Token.lexeme)) : EarliestError source t.position
  | last {tokens : List Token} {t : Token} (whole : Splits {} source.toList (tokens ++ [t]))
      (viable : Viable ((tokens ++ [t]).map Token.lexeme))
      (unfinished : ∀ ds, parse source ≠ .ok ds) : EarliestError source t.position

section Refusal
variable {source : String} {e : SyntaxError} {p : Position} {t : Token} {rest : List Token}

theorem scan_genuine (source : String) : AllGenuine (scan source).tokens := by
  obtain ⟨q, left, hall, _⟩ := exists_splitsTo {} source.toList
  exact genuine_of_splitsTo hall

theorem parse_of_stuck (h : Parser.declarations (scan source).tokens = .error (t :: rest)) :
    parse source = .error (.unexpectedToken t) := by
  rw [parse, Scan.declarations, h]

theorem parse_of_unfinished (h : Parser.declarations (scan source).tokens = .error []) :
    parse source = .error (scan source).endError := by
  rw [parse, Scan.declarations, h]

/-- Behind tokens with which a text can begin, a stray character is the earliest error. -/
theorem earliest_of_stray {s : Stray} (h : (scan source).stray = some s)
    (hv : Viable ((scan source).tokens.map Token.lexeme)) : EarliestError source s.position := by
  obtain ⟨q, left, hall, hstray⟩ := exists_splitsTo {} source.toList
  obtain ⟨rfl, rest, rfl, hnone⟩ := hstray s h
  exact .stray hall (piece?_eq_none_iff.mp hnone) hv

/-- Where the tokens break off, a stray character comes next, or else the last token tells of it. -/
theorem earliest_of_unfinished (h : Parser.declarations (scan source).tokens = .error [])
    (hv : Viable ((scan source).tokens.map Token.lexeme)) :
    EarliestError source (scan source).endError.position := by
  cases hs : (scan source).stray with
  | some s =>
    rw [Scan.endError, hs]
    exact earliest_of_stray hs hv
  | none =>
    rcases List.eq_nil_or_concat (scan source).tokens with hnil | ⟨init, t, hlast⟩
    · rw [hnil] at h
      cases h
    · rw [List.concat_eq_append] at hlast
      have hscan : scan source = ⟨init ++ [t], none⟩ := by rw [← hlast, ← hs]
      have hposition : (scan source).endError.position = t.position := by
        simp [hscan, Scan.endError, SyntaxError.position]
      rw [hposition]
      refine .last (splits_of_scanFrom hscan) (hlast ▸ hv) ?_
      intro ds hok
      cases (parse_of_unfinished h).symm.trans hok

theorem earliest_of_error (h : parse source = .error e) : EarliestError source e.position := by
  rcases declarations_cases (scan_genuine source) with
    ⟨hv, ds, hd⟩ | ⟨hv, hd⟩ | ⟨us, t, rest, hstuck, hd⟩
  · rw [parse, Scan.declarations, hd] at h
    dsimp only at h
    split at h
    · next s hs =>
      cases h
      exact earliest_of_stray hs hv
    · cases h
  · cases (parse_of_unfinished hd).symm.trans h
    exact earliest_of_unfinished hd hv
  · cases (parse_of_stuck hd).symm.trans h
    obtain ⟨q, left, hall, _⟩ := exists_splitsTo {} source.toList
    have htokens : (scanFrom {} source.toList).tokens = (us ++ [t]) ++ rest := by
      rw [List.append_assoc]
      exact hstuck.tokens
    rw [htokens] at hall
    obtain ⟨q, left, hupTo⟩ := hall.of_append
    exact .token hupTo hstuck.viable hstuck.stuck

theorem error_of_earliest (h : EarliestError source p) :
    ∃ e, parse source = .error e ∧ e.position = p := by
  have hg := scan_genuine source
  cases h with
  | @stray tokens q c rest upTo nothing viable =>
    have hscan : scan source = ⟨tokens, some ⟨c, p⟩⟩ := by
      rw [scan, scanFrom_of_splitsTo upTo, scanFrom_stray (piece?_eq_none_iff.mpr nothing)]
      simp [Scan.prepend]
    rw [hscan] at hg
    refine ⟨.strayCharacter ⟨c, p⟩, ?_, rfl⟩
    rw [parse, hscan, Scan.declarations]
    rcases declarations_of_viable hg viable with ⟨ds, hd⟩ | hd
    · rw [hd]
    · rw [hd]
      rfl
  | @token tokens t q rest upTo viable stuck =>
    have htokens : (scan source).tokens = tokens ++ t :: (scanFrom q rest).tokens := by
      rw [scan, scanFrom_of_splitsTo upTo]
      simp [Scan.prepend]
    obtain ⟨left, hd⟩ := declarations_of_stuckAt hg ⟨htokens, viable, stuck⟩
    exact ⟨.unexpectedToken t, parse_of_stuck hd, rfl⟩
  | @last tokens t whole viable unfinished =>
    have hscan : scan source = ⟨tokens ++ [t], none⟩ := splits_iff_scanFrom.mp whole
    have hread : parse source = Scan.declarations ⟨tokens ++ [t], none⟩ := by rw [parse, hscan]
    rw [hscan] at hg
    rw [Scan.declarations] at hread
    rcases declarations_of_viable hg viable with ⟨ds, hd⟩ | hd
    · rw [hd] at hread
      exact absurd hread (unfinished ds)
    · rw [hd] at hread
      refine ⟨.unexpectedEnd t.position, ?_, rfl⟩
      rw [hread]
      simp [Scan.endError]

/-- A text is refused at a position exactly if its earliest error is there. A file that is refused
gives one diagnostic, which tells the file and this position. -/
theorem parse_refuses_earliest (source : String) :
    (∀ p, (∃ e, parse source = .error e ∧ e.position = p) ↔ EarliestError source p) ∧
    ∀ s file content e, readFileText content = .ok source.toList → parse source = .error e →
      ∃ d, readSourceFile s file content = .ok (.error d) ∧ d.code = some "E-PARSE" ∧
        d.span = ⟨some file, some e.position.line, some e.position.column⟩ := by
  constructor
  · intro p
    constructor
    · rintro ⟨e, h, rfl⟩
      exact earliest_of_error h
    · exact error_of_earliest
  · intro s file content e hcontent h
    refine ⟨e.diagnostic file, ?_, rfl, rfl⟩
    have hon : parseOn s source = .ok (.error e) := parseOn_eq_ok_error_iff.mpr h
    rw [readSourceFile, hcontent]
    simp only [bind, Except.bind, pure, Except.pure, Except.mapError, String.ofList_toList, hon]

/-- The second line lacks a name, which is told at its only word. -/
theorem parse_refuses_unfinished : EarliestError "struct S;\nenum" ⟨2, 1⟩ ∧
    ∃ d, readSourceFile (.ofDepth 0) "a.rs"
        ("struct S;\nenum".toList.map fun c => UInt8.ofNat c.toNat) = .ok (.error d) ∧
      d.code = some "E-PARSE" ∧ d.span = ⟨some "a.rs", some 2, some 1⟩ := by
  have hread : parse "struct S;\nenum" = .error (.unexpectedEnd ⟨2, 1⟩) := by cbv
  have hcontent : readFileText ("struct S;\nenum".toList.map fun c => UInt8.ofNat c.toNat) =
      .ok "struct S;\nenum".toList := by cbv
  obtain ⟨hplace, hfile⟩ := parse_refuses_earliest "struct S;\nenum"
  exact ⟨(hplace ⟨2, 1⟩).mp ⟨_, hread, rfl⟩, hfile _ "a.rs" _ _ hcontent hread⟩

end Refusal

end RecordBuilders.Syntax
