import RecordBuilders.Proofs.Syntax.Yields
import RecordBuilders.Proofs.Text.Word
import RecordBuilders.Syntax.Source

/-! The names in declarations that were read from a source text are words of the declaration
language. The scanner sees to that, and the parser passes the names on as they are. -/
namespace RecordBuilders.Syntax
open Text

/-- A name token holds a word. Nothing is asked of the other tokens. -/
def Lexeme.NamesWord : Lexeme → Prop
  | .name text => IsWord text
  | _ => True

theorem Lexeme.namesWord_ofWord {s : String} (h : IsWord s) : (Lexeme.ofWord s).NamesWord := by
  unfold Lexeme.ofWord
  split
  · trivial
  · exact h

section Scanning

theorem Lexer.slashPiece_namesWord {cs : List Char} {lexeme : Lexeme}
    (h : (slashPiece cs).lexeme? = some lexeme) : lexeme.NamesWord := by
  unfold slashPiece at h
  split at h
  · cases h
  · split at h
    · cases h
    · cases h
      trivial
  · cases h
    trivial

theorem Lexer.lifetimePiece?_namesWord {cs : List Char} {p : Piece} {lexeme : Lexeme}
    (hp : lifetimePiece? cs = some p) (h : p.lexeme? = some lexeme) : lexeme.NamesWord := by
  unfold lifetimePiece? at hp
  split at hp
  · split at hp
    · cases hp
      cases h
      trivial
    · cases hp
  · cases hp

theorem Lexer.colonPiece_namesWord {cs : List Char} {lexeme : Lexeme}
    (h : (colonPiece cs).lexeme? = some lexeme) : lexeme.NamesWord := by
  unfold colonPiece at h
  split at h
  · cases h
    trivial
  · cases h
    trivial

theorem Lexer.piece?_namesWord {c : Char} {cs : List Char} {p : Piece} {lexeme : Lexeme}
    (hp : piece? c cs = some p) (h : p.lexeme? = some lexeme) : lexeme.NamesWord := by
  unfold piece? at hp
  split at hp
  · cases hp
    cases h
  split at hp
  · rename_i hc
    cases hp
    cases h
    exact Lexeme.namesWord_ofWord (isWord_ofList hc (List.all_eq_true.mp List.all_takeWhile))
  split at hp
  · cases hp
    cases h
    trivial
  split at hp
  · cases hp
    exact slashPiece_namesWord h
  split at hp
  · exact lifetimePiece?_namesWord hp h
  split at hp
  · obtain ⟨_, _, rfl⟩ := Option.map_eq_some_iff.mp hp
    cases h
    trivial
  split at hp
  · cases hp
    exact colonPiece_namesWord h
  · obtain ⟨_, _, rfl⟩ := Option.map_eq_some_iff.mp hp
    cases h
    trivial

theorem Scan.push_namesWord {s : Scan} {lexeme? : Option Lexeme} {position : Position}
    (hs : ∀ t ∈ s.tokens, t.lexeme.NamesWord)
    (h : ∀ lexeme, lexeme? = some lexeme → lexeme.NamesWord) :
    ∀ t ∈ (s.push lexeme? position).tokens, t.lexeme.NamesWord := by
  cases lexeme? with
  | none => exact hs
  | some lexeme => exact List.forall_mem_cons.mpr ⟨h lexeme rfl, hs⟩

theorem scanFrom_namesWord (position : Position) (cs : List Char) :
    ∀ t ∈ (scanFrom position cs).tokens, t.lexeme.NamesWord := by
  fun_induction scanFrom position cs with
  | case1 => simp
  | case2 => simp
  | case3 position c cs p hp ih =>
    exact Scan.push_namesWord ih fun lexeme h => Lexer.piece?_namesWord hp h

end Scanning

/-- A field that has a name has a word for it. -/
def Field.NamesWord (f : Field) : Prop := ∀ name, f.name = some name → IsWord name

structure Declaration.NamesWords (d : Declaration) : Prop where
  name : IsWord d.name
  fields : ∀ f ∈ d.fields, f.NamesWord

namespace Parser

/-- From tokens whose names are words, the parser gets results with the property `P`. -/
abbrev FromWords {α : Type} (p : Parser α) (P : α → Prop) : Prop :=
  Yields (fun token => token.lexeme.NamesWord) p P

theorem name_fromWords : FromWords name IsWord := by
  apply Yields.branch
  rintro ⟨lexeme, position⟩ k ht hk
  cases lexeme with
  | name text =>
    cases hk
    exact Yields.pure ht
  | _ => cases hk

theorem number_fromWords : FromWords number fun _ => True := by
  apply Yields.branch
  rintro ⟨lexeme, position⟩ k _ hk
  cases lexeme with
  | number text =>
    cases hk
    exact Yields.pure trivial
  | _ => cases hk

section Types
variable {type : Parser TypeExpr}

theorem genericArg_fromWords (ht : FromWords type fun _ => True) :
    FromWords (genericArg type) fun _ => True := by
  apply Yields.choose
  · rintro ⟨lexeme, position⟩ k _ hk
    cases lexeme with
    | lifetime name =>
      cases hk
      exact Yields.pure trivial
    | number value =>
      cases hk
      exact Yields.pure trivial
    | _ => cases hk
  · exact ht.map fun _ _ => trivial

theorem segment_fromWords (ht : FromWords type fun _ => True) (name : String) :
    FromWords (segment type name) fun _ => True := by
  apply Yields.choose
  · rintro ⟨lexeme, position⟩ k _ hk
    cases lexeme with
    | symbol symbol =>
      cases symbol with
      | less =>
        cases hk
        exact ((genericArg_fromWords ht).commaList _).map fun _ _ => trivial
      | _ => cases hk
    | _ => cases hk
  · exact Yields.pure trivial

theorem path_fromWords (ht : FromWords type fun _ => True) (first : String) :
    FromWords (path type first) fun _ => True := by
  refine (segment_fromWords ht first).bind fun head _ => ?_
  refine Yields.bind (Yields.many (P := fun _ => True) ?_ _) fun _ _ => Yields.pure trivial
  refine (Yields.expect _).bind fun _ _ => ?_
  exact Yields.bind name_fromWords fun next _ => segment_fromWords ht next

theorem reference_fromWords (ht : FromWords type fun _ => True) :
    FromWords (reference type) fun _ => True := by
  refine Yields.bind (P := fun _ => True) ?_ fun _ _ => ?_
  · apply Yields.choose
    · rintro ⟨lexeme, position⟩ k _ hk
      cases lexeme with
      | lifetime name =>
        cases hk
        exact Yields.pure trivial
      | _ => cases hk
    · exact Yields.pure trivial
  · exact (Yields.optional _).bind fun _ _ => ht.bind fun _ _ => Yields.pure trivial

theorem array_fromWords (ht : FromWords type fun _ => True) :
    FromWords (array type) fun _ => True := by
  refine ht.bind fun _ _ => ?_
  refine (Yields.expect _).bind fun _ _ => ?_
  refine Yields.bind number_fromWords fun _ _ => ?_
  exact (Yields.expect _).bind fun _ _ => Yields.pure trivial

end Types

theorem typeUpTo_fromWords (depth : Nat) : FromWords (typeUpTo depth) fun _ => True := by
  induction depth with
  | zero => exact Yields.fail
  | succ depth ih =>
    apply Yields.branch
    rintro ⟨lexeme, position⟩ k _ hk
    cases lexeme with
    | name first =>
      cases hk
      exact path_fromWords ih first
    | symbol symbol =>
      cases symbol with
      | ampersand =>
        cases hk
        exact reference_fromWords ih
      | openParen =>
        cases hk
        exact (ih.commaList _).map fun _ _ => trivial
      | openBracket =>
        cases hk
        exact array_fromWords ih
      | _ => cases hk
    | _ => cases hk

theorem type_fromWords : FromWords Parser.type fun _ => True :=
  fun tokens => typeUpTo_fromWords tokens.length tokens

theorem argumentsUpTo_fromWords (bound : Nat) : FromWords (argumentsUpTo bound) fun _ => True := by
  induction bound with
  | zero => exact Yields.fail
  | succ bound ih =>
    apply Yields.branch
    rintro ⟨lexeme, position⟩ k _ hk
    have hmore : ∀ argument, FromWords
        (do return argument :: (← argumentsUpTo bound)) fun _ => True :=
      fun _ => ih.bind fun _ _ => Yields.pure trivial
    cases lexeme with
    | symbol symbol =>
      cases symbol with
      | closeParen =>
        cases hk
        exact Yields.pure trivial
      | openParen =>
        cases hk
        exact ih.bind fun group _ => hmore (.group group)
      | openBrace | closeBrace => cases hk
      | _ =>
        cases hk
        exact hmore _
    | lifetime | keyword => cases hk
    | _ =>
      cases hk
      exact hmore _

theorem attrInput_fromWords : FromWords attrInput fun _ => True := by
  apply Yields.branch
  rintro ⟨lexeme, position⟩ k _ hk
  cases lexeme with
  | symbol symbol =>
    cases symbol with
    | closeBracket =>
      cases hk
      exact Yields.pure trivial
    | openParen =>
      cases hk
      refine Yields.bind (P := fun _ => True)
        (fun tokens => argumentsUpTo_fromWords tokens.length tokens) fun _ _ => ?_
      exact (Yields.expect _).bind fun _ _ => Yields.pure trivial
    | equal =>
      cases hk
      refine Yields.bind (P := fun _ => True) ?_ fun _ _ => ?_
      · apply Yields.branch
        intro token k _ hk
        obtain ⟨_, _, rfl⟩ := Option.map_eq_some_iff.mp hk
        exact Yields.pure trivial
      · exact (Yields.expect _).bind fun _ _ => Yields.pure trivial
    | _ => cases hk
  | _ => cases hk

theorem outerAttribute_fromWords : FromWords outerAttribute fun _ => True := by
  refine Yields.bind Yields.here fun _ _ => ?_
  refine (Yields.expect _).bind fun _ _ => ?_
  refine (Yields.expect _).bind fun _ _ => ?_
  refine Yields.bind name_fromWords fun _ _ => ?_
  refine Yields.bind (Yields.many (P := IsWord) ?_ _) fun _ _ => ?_
  · exact (Yields.expect _).bind fun _ _ => name_fromWords
  · exact Yields.bind attrInput_fromWords fun _ _ => Yields.pure trivial

theorem attributes_fromWords : FromWords attributes fun _ => True :=
  (Yields.many outerAttribute_fromWords _).trivial

theorem namedField_fromWords : FromWords namedField Field.NamesWord := by
  refine Yields.bind attributes_fromWords fun _ _ => ?_
  refine (Yields.optional _).bind fun _ _ => ?_
  refine Yields.bind Yields.here fun _ _ => ?_
  refine Yields.bind name_fromWords fun name hn => ?_
  refine (Yields.expect _).bind fun _ _ => ?_
  refine Yields.bind type_fromWords fun _ _ => Yields.pure ?_
  rintro _ ⟨⟩
  exact hn

theorem tupleField_fromWords : FromWords tupleField Field.NamesWord := by
  refine Yields.bind Yields.here fun _ _ => ?_
  refine Yields.bind attributes_fromWords fun _ _ => ?_
  refine (Yields.optional _).bind fun _ _ => ?_
  refine Yields.bind type_fromWords fun _ _ => Yields.pure ?_
  rintro _ ⟨⟩

theorem namedFields_fromWords : FromWords namedFields fun fs => ∀ f ∈ fs, f.NamesWord :=
  Yields.commaList namedField_fromWords _

theorem tupleFields_fromWords : FromWords tupleFields fun fs => ∀ f ∈ fs, f.NamesWord :=
  Yields.commaList tupleField_fromWords _

theorem variant_fromWords : FromWords variant fun _ => True := by
  refine Yields.bind attributes_fromWords fun _ _ => ?_
  refine Yields.bind name_fromWords fun _ _ => ?_
  refine Yields.bind (P := fun _ => True) ?_ fun _ _ => Yields.pure trivial
  apply Yields.choose
  · rintro ⟨lexeme, position⟩ k _ hk
    cases lexeme with
    | symbol symbol =>
      cases symbol with
      | openBrace =>
        cases hk
        exact Yields.trivial namedFields_fromWords
      | openParen =>
        cases hk
        exact Yields.trivial tupleFields_fromWords
      | _ => cases hk
    | _ => cases hk
  · exact Yields.pure trivial

theorem structFields_fromWords : FromWords structFields fun fs => ∀ f ∈ fs, f.NamesWord := by
  apply Yields.branch
  rintro ⟨lexeme, position⟩ k _ hk
  cases lexeme with
  | symbol symbol =>
    cases symbol with
    | openBrace =>
      cases hk
      exact namedFields_fromWords
    | openParen =>
      cases hk
      exact Yields.bind tupleFields_fromWords fun _ hfs =>
        (Yields.expect _).bind fun _ _ => Yields.pure hfs
    | semicolon =>
      cases hk
      exact Yields.pure (by simp)
    | _ => cases hk
  | _ => cases hk

theorem declaration_fromWords : FromWords declaration Declaration.NamesWords := by
  refine Yields.bind attributes_fromWords fun _ _ => ?_
  refine (Yields.optional _).bind fun _ _ => ?_
  refine Yields.bind Yields.here fun _ _ => ?_
  apply Yields.branch
  rintro ⟨lexeme, position⟩ k _ hk
  cases lexeme with
  | keyword keyword =>
    cases keyword with
    | struct =>
      cases hk
      refine Yields.bind name_fromWords fun _ hn => ?_
      exact Yields.bind structFields_fromWords fun _ hfs => Yields.pure ⟨hn, hfs⟩
    | union =>
      cases hk
      refine Yields.bind name_fromWords fun _ hn => ?_
      refine (Yields.expect _).bind fun _ _ => ?_
      exact Yields.bind namedFields_fromWords fun _ hfs => Yields.pure ⟨hn, hfs⟩
    | enum =>
      cases hk
      refine Yields.bind name_fromWords fun _ hn => ?_
      refine (Yields.expect _).bind fun _ _ => ?_
      exact (Yields.commaList variant_fromWords _).bind fun _ _ => Yields.pure ⟨hn, by simp⟩
    | _ => cases hk
  | _ => cases hk

theorem declarationsUpTo_fromWords (bound : Nat) :
    FromWords (declarationsUpTo bound) fun ds => ∀ d ∈ ds, d.NamesWords := by
  induction bound with
  | zero => exact Yields.pure (by simp)
  | succ bound ih =>
    intro tokens ds rest ht hr
    have hmore : FromWords (do return (← declaration) :: (← declarationsUpTo bound))
        fun ds => ∀ d ∈ ds, d.NamesWords :=
      Yields.bind declaration_fromWords fun d hd =>
        ih.bind fun ds hds => Yields.pure (List.forall_mem_cons.mpr ⟨hd, hds⟩)
    unfold declarationsUpTo at hr
    split at hr
    · cases hr
      exact ⟨by simp, by simp⟩
    · exact hmore tokens ds rest ht hr

end Parser

/-- Whatever the source text, its declarations and their fields are named by words. -/
theorem namesWords_of_parse {source : String} {ds : List Declaration}
    (h : parse source = .ok ds) : ∀ d ∈ ds, d.NamesWords := by
  unfold parse Scan.declarations at h
  split at h
  · cases h
  · cases h
  · rename_i found _ hd
    split at h
    · cases h
    · cases h
      exact (Parser.declarationsUpTo_fromWords _ _ _ _ (scanFrom_namesWord _ _) hd).1

end RecordBuilders.Syntax
