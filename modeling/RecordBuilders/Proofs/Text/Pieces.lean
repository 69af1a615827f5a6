import Mathlib.Data.List.SplitBy
import RecordBuilders.Proofs.Text.Word
import RecordBuilders.Text.Lines

/-! Taking texts apart: into lines, into lines under headings, into names and what stands between
them. Each of these gives back what was put together, if the parts keep out of each other's way. -/
namespace RecordBuilders.Text

section Fronts

/-- What follows `mark`, if the text begins with it. -/
def after? (mark s : String) : Option String :=
  (mark.toList.isPrefixOf? s.toList).map String.ofList

/-- The characters of a name at the front of a text, and what follows them. -/
def leadingName (s : String) : String × String :=
  (String.ofList (s.toList.takeWhile isIdentifierPart),
    String.ofList (s.toList.dropWhile isIdentifierPart))

/-- All characters may stand in a name. -/
def IsNameLike (s : String) : Prop := ∀ c ∈ s.toList, isIdentifierPart c = true

theorem isNameLike_of_isWord {name : String} (h : IsWord name) : IsNameLike name :=
  fun c hc => isIdentifierPart_of_isWordPart (h.parts c hc)

theorem isNameLike_literal {name : String} (h : name.toList.all isWordPart = true) :
    IsNameLike name :=
  fun c hc => isIdentifierPart_of_isWordPart (List.all_eq_true.mp h c hc)

/-- Names that a class or a member may have are made of characters of names. -/
theorem isNameLike_of_isIdentifier {name : String} (h : isIdentifier name = true) :
    IsNameLike name := by
  unfold isIdentifier at h
  intro c hc
  split at h
  · cases h
  · next start rest hname =>
    obtain ⟨hstart, hrest⟩ := Bool.and_eq_true_iff.mp h
    rw [hname] at hc
    rcases List.mem_cons.mp hc with rfl | hc
    · unfold isIdentifierStart at hstart
      unfold isIdentifierPart
      rcases Bool.or_eq_true_iff.mp hstart with hw | hu
      · simp [isWordPart_of_isWordStart hw]
      · simp [hu]
    · exact List.all_eq_true.mp hrest c hc

theorem isNameLike_of_isUsable {name : String} (h : Target.isUsable name = true) : IsNameLike name :=
  isNameLike_of_isIdentifier (Bool.and_eq_true_iff.mp h).1

theorem isPrefixOf?_append (cs ds : List Char) : cs.isPrefixOf? (cs ++ ds) = some ds := by
  induction cs with
  | nil => rfl
  | cons c cs ih => simp [List.isPrefixOf?, ih]

theorem isPrefixOf?_eq_none {c : Char} {cs ds : List Char} (h : ds.head? ≠ some c) :
    (c :: cs).isPrefixOf? ds = none := by
  cases ds with
  | nil => rfl
  | cons d ds =>
    have hne : (c == d) = false := beq_eq_false_iff_ne.mpr fun he => h (by rw [he]; rfl)
    simp [List.isPrefixOf?, hne]

@[simp] theorem after?_append (mark s : String) : after? mark (mark ++ s) = some s := by
  rw [after?, String.toList_append, isPrefixOf?_append]
  simp

/-- A text that goes on with a character that cannot stand in a name. -/
def EndsName (s : String) : Prop := s.toList.head?.all (fun c => !isIdentifierPart c) = true

/-- Characters that stand between names in code. -/
def codeMarks : List Char := ['\t', ' ', '.', ',', ':', '=', '(', ')', '"', '@']

theorem not_isIdentifierPart_of_mem_codeMarks {c : Char} (h : c ∈ codeMarks) :
    isIdentifierPart c = false := by
  have hall : codeMarks.all (!isIdentifierPart ·) = true := by decide +kernel
  simpa using List.all_eq_true.mp hall c h

theorem endsName_of_mark {s : String} (h : s.toList.head?.all (codeMarks.contains ·) = true) :
    EndsName s := by
  unfold EndsName
  cases hs : s.toList.head? with
  | none => rfl
  | some c =>
    rw [hs, Option.all_some, List.contains_iff_mem] at h
    simp [not_isIdentifierPart_of_mem_codeMarks h]

/-- A mark ends a name, whatever stands behind it. -/
theorem endsName_append {mark : String}
    (h : mark.toList.head?.any (codeMarks.contains ·) = true) (rest : String) :
    EndsName (mark ++ rest) := by
  cases hm : mark.toList with
  | nil => simp [hm] at h
  | cons c cs =>
    have hc : c ∈ codeMarks := by simpa [hm] using h
    simp [EndsName, hm, not_isIdentifierPart_of_mem_codeMarks hc]

theorem leadingName_append {name rest : String} (hn : IsNameLike name) (hr : EndsName rest) :
    leadingName (name ++ rest) = (name, rest) := by
  have hr : rest.toList.takeWhile isIdentifierPart = [] ∧
      rest.toList.dropWhile isIdentifierPart = rest.toList := by
    cases hl : rest.toList with
    | nil => simp
    | cons c cs =>
      have hc : isIdentifierPart c = false := by simpa [EndsName, hl] using hr
      simp [hc]
  rw [leadingName, String.toList_append, List.takeWhile_append_of_pos hn,
    List.dropWhile_append_of_pos hn, hr.1, hr.2]
  simp

end Fronts

/-- What holds of the characters of all texts and of what stands between them holds of the whole. -/
theorem forall_mem_intercalate {Q : Char → Prop} {mark : String} {texts : List String}
    (hm : ∀ c ∈ mark.toList, Q c) (ht : ∀ s ∈ texts, ∀ c ∈ s.toList, Q c) :
    ∀ c ∈ (mark.intercalate texts).toList, Q c := by
  rw [String.toList_intercalate]
  induction texts with
  | nil => simp [List.intercalate]
  | cons s texts ih =>
    obtain ⟨hs, htexts⟩ := List.forall_mem_cons.mp ht
    cases texts with
    | nil => simpa [List.intercalate] using hs
    | cons t texts =>
      intro c hc
      simp only [List.intercalate, List.map_cons, List.intersperse_cons_cons, List.flatten_cons,
        List.mem_append] at hc ih
      rcases hc with hc | hc | hc
      · exact hs c hc
      · exact hm c hc
      · exact ih htexts c hc

section Lines

/-- What stands between the characters at which a text is cut. -/
def pieces (cut : Char → Bool) (s : String) : List String :=
  (s.toList.splitOnP cut).map String.ofList

/-- The text is one piece. -/
def Unbroken (cut : Char → Bool) (s : String) : Prop := ∀ c ∈ s.toList, cut c = false

theorem all_iff_unbroken {cut : Char → Bool} {s : String} :
    s.toList.all (!cut ·) = true ↔ Unbroken cut s := by
  simp [Unbroken]

instance (cut : Char → Bool) (s : String) : Decidable (Unbroken cut s) :=
  decidable_of_iff _ all_iff_unbroken

theorem pieces_eq {cut : Char → Bool} {s : String} (h : Unbroken cut s) : pieces cut s = [s] := by
  rw [pieces, List.splitOnP_eq_singleton h]
  simp

theorem pieces_append {cut : Char → Bool} {s mark : String} {c : Char} (h : Unbroken cut s)
    (hm : mark.toList = [c]) (hc : cut c = true) (rest : String) :
    pieces cut (s ++ (mark ++ rest)) = s :: pieces cut rest := by
  rw [pieces, String.toList_append, String.toList_append, hm, List.singleton_append,
    List.splitOnP_append_cons_of_forall_mem h c hc]
  simp [pieces]

/-- Readers differ in which characters end a line. They agree on the line feed. -/
structure LineEnds (ends : Char → Bool) : Prop where
  lineFeed : ends '\n' = true
  breaks : ∀ c, ends c = true → isLineBreak c = true

variable {ends : Char → Bool}

theorem unbroken_append {s t : String} :
    Unbroken ends (s ++ t) ↔ Unbroken ends s ∧ Unbroken ends t := by
  simp [Unbroken, or_imp, forall_and]

theorem LineEnds.unbroken (h : LineEnds ends) {s : String}
    (hs : ∀ c ∈ s.toList, isLineBreak c = false) : Unbroken ends s := by
  intro c hc
  refine Bool.eq_false_iff.mpr fun he => ?_
  exact absurd (h.breaks c he) (by simp [hs c hc])

theorem LineEnds.unbroken_literal (h : LineEnds ends) {s : String}
    (hs : s.toList.all (!isLineBreak ·) = true) : Unbroken ends s :=
  h.unbroken fun c hc => by simpa using List.all_eq_true.mp hs c hc

theorem not_isLineBreak_of_isIdentifierPart {c : Char} (h : isIdentifierPart c = true) :
    isLineBreak c = false := by
  have hall : ['\n', '\x0b', '\x0c', '\r', '\x1c', '\x1d', '\x1e', '\u0085', '\u2028',
      '\u2029'].all (!isIdentifierPart ·) = true := by decide +kernel
  refine Bool.eq_false_iff.mpr fun hb => ?_
  have hc := List.all_eq_true.mp hall c (List.contains_iff_mem.mp hb)
  rw [h] at hc
  cases hc

theorem LineEnds.unbroken_of_isNameLike (h : LineEnds ends) {s : String} (hs : IsNameLike s) :
    Unbroken ends s :=
  h.unbroken fun c hc => not_isLineBreak_of_isIdentifierPart (hs c hc)

/-- Lines that are joined by line feeds are read back; behind the last line feed stands an empty
line. -/
theorem pieces_joined (h : LineEnds ends) {ls : List String} (hne : ls ≠ [])
    (hu : ∀ l ∈ ls, Unbroken ends l) : pieces ends ("\n".intercalate ls ++ "\n") = ls ++ [""] := by
  induction ls with
  | nil => exact absurd rfl hne
  | cons l ls ih =>
    obtain ⟨hl, hls⟩ := List.forall_mem_cons.mp hu
    cases ls with
    | nil =>
      have hempty : pieces ends "" = [""] := pieces_eq (by simp [Unbroken])
      rw [String.intercalate_singleton, ← String.append_empty (s := "\n"),
        pieces_append hl rfl h.lineFeed, hempty]
      rfl
    | cons m ls =>
      rw [String.intercalate_cons_cons, String.append_assoc, String.append_assoc,
        pieces_append hl rfl h.lineFeed, ih (by simp) hls]
      rfl

end Lines

section Headings
variable {heading? : String → Option String}

/-- The headings among lines, each with the lines below it up to the next one. -/
def sections (heading? : String → Option String) : List String → List (String × List String)
  | [] => []
  | l :: ls =>
    match heading? l with
    | some name => (name, ls.takeWhile fun l => (heading? l).isNone) :: sections heading? ls
    | none => sections heading? ls

theorem sections_append_of_none {ls ms : List String} (h : ∀ l ∈ ls, heading? l = none) :
    sections heading? (ls ++ ms) = sections heading? ms := by
  induction ls with
  | nil => rfl
  | cons l ls ih =>
    obtain ⟨hl, hls⟩ := List.forall_mem_cons.mp h
    rw [List.cons_append, sections, hl]
    exact ih hls

/-- Blocks that consist of a heading and lines without one. -/
theorem sections_blocks {α : Type} {head name : α → String} {body : α → List String}
    {blocks : List α} (hh : ∀ b ∈ blocks, heading? (head b) = some (name b))
    (hb : ∀ b ∈ blocks, ∀ l ∈ body b, heading? l = none) :
    sections heading? (blocks.flatMap fun b => head b :: body b) =
      blocks.map fun b => (name b, body b) := by
  induction blocks with
  | nil => rfl
  | cons b blocks ih =>
    obtain ⟨hhead, hheads⟩ := List.forall_mem_cons.mp hh
    obtain ⟨hbody, hbodies⟩ := List.forall_mem_cons.mp hb
    have hrest : (blocks.flatMap fun b => head b :: body b).takeWhile
        (fun l => (heading? l).isNone) = [] := by
      cases blocks with
      | nil => rfl
      | cons c blocks => simp [(List.forall_mem_cons.mp hheads).1]
    rw [List.flatMap_cons, List.cons_append, sections, hhead, List.map_cons,
      sections_append_of_none hbody, ih hheads hbodies]
    rw [List.takeWhile_append_of_pos (by simpa using hbody), hrest, List.append_nil]

end Headings

section Words

/-- Stretches of characters that may stand in names, and of others, in turn. -/
def runs (s : String) : List String :=
  (s.toList.splitBy fun c d => isIdentifierPart c == isIdentifierPart d).map String.ofList

/-- The names that follow `receiver` and a dot. -/
def attributesOf (receiver : String) : List String → List String
  | word :: dot :: name :: rest =>
    if word = receiver ∧ dot = "." then name :: attributesOf receiver rest
    else attributesOf receiver (dot :: name :: rest)
  | _ => []

/-- A stretch of characters of one kind. -/
def IsRun (p : Bool × String) : Prop := p.2 ≠ "" ∧ ∀ c ∈ p.2.toList, isIdentifierPart c = p.1

/-- A stretch of ASCII letters or of marks. No table of identifiers is needed to see that. -/
def IsPlainRun (p : Bool × String) : Prop :=
  p.2 ≠ "" ∧ p.2.toList.all (if p.1 then isWordPart else (codeMarks.contains ·)) = true

instance (p : Bool × String) : Decidable (IsPlainRun p) := inferInstanceAs (Decidable (_ ∧ _))

theorem IsPlainRun.isRun {p : Bool × String} (h : IsPlainRun p) : IsRun p := by
  obtain ⟨ofName, s⟩ := p
  refine ⟨h.1, fun c hc => ?_⟩
  have hchar := List.all_eq_true.mp h.2 c hc
  cases ofName with
  | true => exact isIdentifierPart_of_isWordPart hchar
  | false => exact not_isIdentifierPart_of_mem_codeMarks (List.contains_iff_mem.mp hchar)

/-- Stretches of either kind in turn, each with a flag that says which kind it is of. -/
theorem runs_eq {s : String} {parts : List (Bool × String)}
    (hs : s.toList = (parts.map fun p => p.2.toList).flatten) (hp : ∀ p ∈ parts, IsRun p)
    (hc : parts.IsChain fun p q => p.1 ≠ q.1) :
    runs s = parts.map Prod.snd := by
  have hchars (p : Bool × String) (hm : p ∈ parts) : p.2.toList ≠ [] := by
    simpa using (hp p hm).1
  have hwithin : ∀ cs ∈ parts.map (fun p => p.2.toList),
      cs.IsChain fun c d => isIdentifierPart c == isIdentifierPart d := by
    intro cs hcs
    obtain ⟨p, hm, rfl⟩ := List.mem_map.mp hcs
    refine (List.pairwise_of_forall_mem_list fun c hc d hd => ?_).isChain
    rw [(hp p hm).2 c hc, (hp p hm).2 d hd, beq_self_eq_true]
  have hbetween : (parts.map fun p => p.2.toList).IsChain fun cs ds => ∃ hcs hds,
      (isIdentifierPart (cs.getLast hcs) == isIdentifierPart (ds.head hds)) = false := by
    rw [List.isChain_map]
    refine hc.imp_of_mem_imp fun p q hpm hqm hne => ⟨hchars p hpm, hchars q hqm, ?_⟩
    rw [(hp p hpm).2 _ (List.getLast_mem _), (hp q hqm).2 _ (List.head_mem _)]
    simpa using hne
  rw [runs, hs, List.splitBy_flatten ?_ hwithin hbetween]
  · simp
  · intro hnil
    obtain ⟨p, hm, he⟩ := List.mem_map.mp hnil
    exact hchars p hm he

end Words

end RecordBuilders.Text
