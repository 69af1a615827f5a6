import RecordBuilders.Proofs.Target.SourceHints

/-! The grammar of annotations, and which hints it takes in. A type passes on its names as they are
unless the type map has others for them. So the hint of a type is an annotation if and only if none
of these names is a reserved word. -/
namespace RecordBuilders.Target
open Syntax Text

section Words

/-- The names in a text: what stands between the characters that no name has. -/
def words (s : String) : List String :=
  ((s.toList.splitOnP (!isIdentifierPart ·)).filter (!·.isEmpty)).map String.ofList

@[simp] theorem words_empty : words "" = [] := rfl

theorem words_of_isIdentifier {name : String} (h : isIdentifier name = true) :
    words name = [name] := by
  have hne : name.toList ≠ [] := fun he => by simp [isIdentifier, he] at h
  have hlike := isNameLike_of_isIdentifier h
  rw [words, List.splitOnP_eq_singleton fun c hc => by simp [hlike c hc]]
  simp [hne]

theorem words_append {s mark : String} {c : Char} (hm : mark.toList = [c])
    (hc : isIdentifierPart c = false) (rest : String) :
    words (s ++ (mark ++ rest)) = words s ++ words rest := by
  rw [words, String.toList_append, String.toList_append, hm, List.singleton_append,
    List.splitOnP_append_cons _ _ (by simp [hc]), List.filter_append, List.map_append]
  rfl

theorem words_intercalate (texts : List String) :
    words (", ".intercalate texts) = texts.flatMap words := by
  induction texts with
  | nil => rfl
  | cons s texts ih =>
    cases texts with
    | nil => simp
    | cons t texts =>
      have hcomma : s ++ ", " ++ ", ".intercalate (t :: texts) =
          s ++ ("," ++ ("" ++ (" " ++ ", ".intercalate (t :: texts)))) := by
        rw [← String.toList_inj]
        simp
      rw [String.intercalate_cons_cons, hcomma,
        words_append rfl (not_isIdentifierPart_of_mem_codeMarks (by decide)),
        words_append rfl (not_isIdentifierPart_of_mem_codeMarks (by decide)), ih]
      rfl

theorem words_bracketed (head : String) (texts : List String) :
    words (head ++ "[" ++ ", ".intercalate texts ++ "]") = words head ++ texts.flatMap words := by
  have hbrackets : head ++ "[" ++ ", ".intercalate texts ++ "]" =
      head ++ ("[" ++ (", ".intercalate texts ++ ("]" ++ ""))) := by
    rw [← String.toList_inj]
    simp
  rw [hbrackets, words_append rfl (by decide +kernel), words_append rfl (by decide +kernel),
    words_intercalate, words_empty, List.append_nil]

end Words

/-- `A ::= N | N "[" A ("," A)* "]" | "tuple[()]"`, with names that are not reserved. -/
inductive WellFormed : String → Prop where
  | name {name : String} (identifier : isIdentifier name = true) (free : name ∉ reservedWords) :
      WellFormed name
  | applied {name : String} {arguments : List String} (identifier : isIdentifier name = true)
      (free : name ∉ reservedWords) (nonempty : arguments ≠ [])
      (all : ∀ s ∈ arguments, WellFormed s) :
      WellFormed (name ++ "[" ++ ", ".intercalate arguments ++ "]")
  | unit : WellFormed "tuple[()]"

theorem WellFormed.words_free {s : String} (h : WellFormed s) :
    ∀ word ∈ words s, word ∉ reservedWords := by
  induction h with
  | name identifier free => simpa [words_of_isIdentifier identifier] using free
  | applied identifier free _ _ ih =>
    rw [words_bracketed, words_of_isIdentifier identifier, List.singleton_append]
    refine List.forall_mem_cons.mpr ⟨free, fun word hword => ?_⟩
    obtain ⟨s, hs, hword⟩ := List.mem_flatMap.mp hword
    exact ih s hs word hword
  | unit => decide +kernel

/-- A type map that has no say in reserved words: it renders none of them, and no name as one. -/
structure KeepsReserved (map : TypeMap) : Prop where
  names : ∀ entry ∈ map, entry.1 ∉ reservedWords
  targets : ∀ entry ∈ map, entry.2 ≠ "" → isIdentifier entry.2 = true ∧ entry.2 ∉ reservedWords

theorem keepsReserved_default : KeepsReserved .default where
  names := by decide
  targets := by decide +kernel

/-- The texts that types with these names are rendered as. -/
structure Renders (names texts : List String) : Prop where
  wellFormed : (∀ name ∈ names, name ∉ reservedWords) → ∀ s ∈ texts, WellFormed s
  reserved : ∀ name ∈ names, name ∈ reservedWords → name ∈ texts.flatMap words

namespace Renders
variable {names names' texts texts' : List String} {s : String}

theorem nil : Renders [] [] := ⟨by simp, by simp⟩

theorem append (h : Renders names texts) (h' : Renders names' texts') :
    Renders (names ++ names') (texts ++ texts') where
  wellFormed hfree := by
    obtain ⟨hnames, hnames'⟩ := List.forall_mem_append.mp hfree
    exact List.forall_mem_append.mpr ⟨h.wellFormed hnames, h'.wellFormed hnames'⟩
  reserved name hname hr := by
    rw [List.flatMap_append]
    rcases List.mem_append.mp hname with hname | hname
    · exact List.mem_append_left _ (h.reserved name hname hr)
    · exact List.mem_append_right _ (h'.reserved name hname hr)

theorem bracketed (h : Renders names texts) (hne : texts ≠ []) {head : String}
    (hi : isIdentifier head = true) (hf : head ∉ reservedWords) :
    Renders names [head ++ "[" ++ ", ".intercalate texts ++ "]"] where
  wellFormed hfree := by simpa using WellFormed.applied hi hf hne (h.wellFormed hfree)
  reserved name hname hr := by
    rw [List.flatMap_singleton, words_bracketed]
    exact List.mem_append_right _ (h.reserved name hname hr)

/-- A text is an annotation exactly if none of the names in it is reserved, which is to say none of
those that it was made from. -/
theorem wellFormed_iff (h : Renders names [s]) :
    (WellFormed s ↔ ∀ word ∈ words s, word ∉ reservedWords) ∧
      (WellFormed s ↔ ∀ name ∈ names, name ∉ reservedWords) := by
  have hnames (hwords : ∀ word ∈ words s, word ∉ reservedWords) :
      ∀ name ∈ names, name ∉ reservedWords := fun name hname hr =>
    hwords name (by simpa using h.reserved name hname hr) hr
  have hformed (hfree : ∀ name ∈ names, name ∉ reservedWords) : WellFormed s :=
    h.wellFormed hfree s (by simp)
  exact ⟨⟨WellFormed.words_free, fun hwords => hformed (hnames hwords)⟩,
    ⟨fun hs => hnames hs.words_free, hformed⟩⟩

end Renders

theorem isIdentifier_of_isWord {name : String} (h : IsWord name) : isIdentifier name = true := by
  obtain ⟨c, cs, hname, hc, hcs⟩ := h
  simp only [isIdentifier, hname, isIdentifierStart_of_isWordStart hc, Bool.true_and,
    List.all_eq_true]
  exact fun d hd => isIdentifierPart_of_isWordPart (hcs d hd)

namespace KeepsReserved
variable {map : TypeMap} {name : String} {names texts : List String}

/-- What the hint of a type begins with. Nothing else can stand for a reserved word. -/
theorem head_cases (h : KeepsReserved map) (hw : IsWord name) :
    isIdentifier (if (map.target name).isEmpty then name else map.target name) = true ∧
      (name ∈ reservedWords → map.target name = name) ∧
      (name ∉ reservedWords →
        (if (map.target name).isEmpty then name else map.target name) ∉ reservedWords) := by
  have hname := isIdentifier_of_isWord hw
  unfold TypeMap.target
  cases hl : map.lookup name with
  | none => simp [hname]
  | some target =>
    obtain ⟨before, behind, hmap, _⟩ := List.lookup_eq_some_iff.mp hl
    have hentry : (name, target) ∈ map := by simp [hmap]
    have hfree : name ∉ reservedWords := h.names _ hentry
    have htarget := h.targets _ hentry
    by_cases he : target = ""
    · simp [he, hname, hfree]
    · simp [he, htarget he, hfree]

theorem renders_applyHint (h : KeepsReserved map) (hw : IsWord name) (ht : Renders names texts) :
    Renders (name :: names) [applyHint map name texts] := by
  obtain ⟨hidentifier, hkept, hfree⟩ := h.head_cases hw
  have htransparent : (map.target name).isEmpty = true → name ∉ reservedWords := fun he hr => by
    rw [hkept hr] at he
    exact hw.ne_empty (String.isEmpty_iff.mp he)
  have hhead (hr : name ∈ reservedWords) :
      (if (map.target name).isEmpty then name else map.target name) = name := by
    rw [hkept hr, ite_self]
  unfold applyHint
  dsimp only
  split
  · next argument he =>
    refine ⟨fun hall => ht.wellFormed (List.forall_mem_cons.mp hall).2, ?_⟩
    exact List.forall_mem_cons.mpr ⟨fun hr => absurd hr (htransparent he), ht.reserved⟩
  · next texts _ _ _ =>
    generalize (if (map.target name).isEmpty then name else map.target name) = head at *
    split
    · next he =>
      rw [List.isEmpty_iff.mp he] at ht
      refine ⟨fun hall => ?_, List.forall_mem_cons.mpr ⟨fun hr => ?_, fun other hother hr => ?_⟩⟩
      · simpa using WellFormed.name hidentifier (hfree (List.forall_mem_cons.mp hall).1)
      · simp [hhead hr, words_of_isIdentifier (isIdentifier_of_isWord hw)]
      · exact absurd (ht.reserved other hother hr) List.not_mem_nil
    · next hne =>
      have hne : texts ≠ [] := by simpa using hne
      refine ⟨fun hall => ?_, fun other hother hr => ?_⟩
      · obtain ⟨hname, hnames⟩ := List.forall_mem_cons.mp hall
        exact (ht.bracketed hne hidentifier (hfree hname)).wellFormed hnames
      · rw [List.flatMap_singleton, words_bracketed]
        rcases List.mem_cons.mp hother with rfl | hother
        · simp [hhead hr, words_of_isIdentifier (isIdentifier_of_isWord hw)]
        · exact List.mem_append_right _ (ht.reserved other hother hr)

theorem invariant (h : KeepsReserved map) : HintInvariant map Renders where
  nil := .nil
  append := .append
  applied := h.renders_applyHint
  bracketed hhead hne hr := by
    have hfree : ∀ head ∈ sequenceHeads, isIdentifier head = true ∧ head ∉ reservedWords := by
      decide +kernel
    exact hr.bracketed hne (hfree _ hhead).1 (hfree _ hhead).2
  unit hr := ⟨fun _ => by simpa using WellFormed.unit, fun name hname hres => by
    simpa using hr.reserved name hname hres⟩

end KeepsReserved

end RecordBuilders.Target
