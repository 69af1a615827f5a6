import RecordBuilders.Proofs.Target.Outline

/-! The parts of an outline, read back from the lines that say them. -/
namespace RecordBuilders.Target
open Syntax Text

namespace Outline

section Headings
variable {name : String}

theorem className?_eq (hn : IsNameLike name) : className? ("class " ++ name ++ ":") = some name := by
  have hrest : EndsName ":" := endsName_of_mark (by decide)
  rw [className?, String.append_assoc, after?_append]
  simp [leadingName_append hn hrest]

theorem className?_line (depth : Nat) (s : String) : className? (line (depth + 1) s) = none := by
  simp [className?, after?, line, List.replicate_succ, List.isPrefixOf?]

theorem methodName?_eq (hn : IsNameLike name) (rest : String) :
    methodName? (line 1 ("def " ++ name ++ "(self" ++ rest)) = some name := by
  have hrest : EndsName ("(self" ++ rest) := endsName_append (by decide) _
  have hline : line 1 ("def " ++ name ++ "(self" ++ rest) =
      "\tdef " ++ (name ++ ("(self" ++ rest)) := by
    rw [← String.toList_inj]
    simp [line]
  rw [methodName?, hline, after?_append]
  simp [leadingName_append hn hrest]

theorem methodName?_line (depth : Nat) (s : String) : methodName? (line (depth + 2) s) = none := by
  simp [methodName?, after?, line, List.replicate_succ, List.isPrefixOf?]

end Headings

section Members
variable {m : HintedMember}

theorem field?_fieldLine (hn : IsNameLike m.name) :
    field? m.fieldLine = some (m.name, m.declaredHint) := by
  have hrest : EndsName (": " ++ m.declaredHint) := endsName_append (by decide) _
  have hline : m.fieldLine = "\t" ++ (m.name ++ (": " ++ m.declaredHint)) := by
    rw [← String.toList_inj]
    simp [HintedMember.fieldLine, line]
  rw [field?, hline, after?_append]
  simp [leadingName_append hn hrest]

theorem initial?_eq {slot hint value : String} (hs : IsNameLike slot)
    (hv : value = "None" ∨ value = "[]") :
    initial? (line 2 ("self." ++ slot ++ ": " ++ hint ++ " = " ++ value)) = some (slot, value) := by
  have hrest : EndsName (": " ++ (hint ++ (" = " ++ value))) :=
    endsName_append (by decide) _
  have hline : line 2 ("self." ++ slot ++ ": " ++ hint ++ " = " ++ value) =
      "\t\tself." ++ (slot ++ (": " ++ (hint ++ (" = " ++ value)))) := by
    rw [← String.toList_inj]
    simp [line]
  rw [initial?, hline, after?_append]
  simp only [Option.bind_eq_bind, Option.bind_some, leadingName_append hs hrest, after?_append]
  rcases hv with rfl | rfl
  · simp [List.isSuffixOf, List.isPrefixOf]
  · simp [List.isSuffixOf, List.isPrefixOf]

theorem check?_eq {slot name : String} (hs : IsNameLike slot) (hn : IsNameLike name) :
    check? (line 2 ("if self." ++ slot ++ " is None:"))
      (line 3 ("raise _MissingFieldError(\"" ++ name ++ "\")")) = some (slot, name) := by
  have hrest : EndsName " is None:" := endsName_of_mark (by decide)
  have hclosing : EndsName "\")" := endsName_of_mark (by decide)
  have htest : line 2 ("if self." ++ slot ++ " is None:") =
      "\t\tif self." ++ (slot ++ " is None:") := by
    rw [← String.toList_inj]
    simp [line]
  have hraise : line 3 ("raise _MissingFieldError(\"" ++ name ++ "\")") =
      "\t\t\traise _MissingFieldError(\"" ++ (name ++ "\")") := by
    rw [← String.toList_inj]
    simp [line]
  rw [check?, htest, hraise, after?_append, after?_append]
  simp [leadingName_append hs hrest, leadingName_append hn hclosing]

end Members

section References
variable {slot : String}

theorem isRun_of_isWord (h : IsWord slot) : IsRun (true, slot) := by
  refine ⟨?_, isNameLike_of_isWord h⟩
  rintro rfl
  obtain ⟨c, cs, hcs, _⟩ := h
  cases hcs

/-- The slot is an attribute of the receiver between other stretches of code. -/
theorem references_slot (hs : IsWord slot) {code : String} (before behind : List (Bool × String))
    (hcode : code.toList = (before.map fun p => p.2.toList).flatten ++ "self.".toList ++
      slot.toList ++ (behind.map fun p => p.2.toList).flatten)
    (hparts : ∀ p ∈ before ++ behind, IsPlainRun p)
    (hc : (before.map Prod.fst ++ [true, false, true] ++ behind.map Prod.fst).IsChain (· ≠ ·)) :
    references code =
      attributesOf "self" (before.map Prod.snd ++ "self" :: "." :: slot :: behind.map Prod.snd) := by
  have hslot : IsRun (true, slot) := isRun_of_isWord hs
  have hself : IsPlainRun (true, "self") := by decide
  have hdot : IsPlainRun (false, ".") := by decide
  have hruns := @runs_eq code (before ++ (true, "self") :: (false, ".") :: (true, slot) :: behind)
    (by simp [hcode]) ?_ ?_
  · rw [references, hruns]
    simp
  · intro p hp
    simp only [List.mem_append, List.mem_cons] at hp hparts
    rcases hp with hp | rfl | rfl | rfl | hp
    · exact (hparts p (Or.inl hp)).isRun
    · exact hself.isRun
    · exact hdot.isRun
    · exact hslot
    · exact (hparts p (Or.inr hp)).isRun
  · rw [← List.isChain_map Prod.fst]
    simpa using hc

theorem references_store (hs : IsWord slot) :
    references (line 2 ("self." ++ slot ++ " = value")) = [slot] := by
  rw [references_slot hs [(false, "\t\t")] [(false, " = "), (true, "value")] (by simp [line])
    (by decide) (by decide)]
  simp [attributesOf]

theorem references_append (hs : IsWord slot) :
    references (line 2 ("self." ++ slot ++ ".append(value)")) = [slot] := by
  rw [references_slot hs [(false, "\t\t")]
    [(false, "."), (true, "append"), (false, "("), (true, "value"), (false, ")")]
    (by simp [line]) (by decide) (by decide)]
  simp [attributesOf]

theorem references_replace (hs : IsWord slot) :
    references (line 2 ("self." ++ slot ++ " = list(value)")) = [slot] := by
  rw [references_slot hs [(false, "\t\t")]
    [(false, " = "), (true, "list"), (false, "("), (true, "value"), (false, ")")]
    (by simp [line]) (by decide) (by decide)]
  simp [attributesOf]

theorem references_return : references (line 2 "return self") = [] := by
  have hparts : ∀ p ∈ [(false, "\t\t"), (true, "return"), (false, " "), (true, "self")],
      IsPlainRun p := by decide
  have hruns : runs (line 2 "return self") = ["\t\t", "return", " ", "self"] :=
    @runs_eq _ [(false, "\t\t"), (true, "return"), (false, " "), (true, "self")] (by simp [line])
      (fun p hp => IsPlainRun.isRun (hparts p hp)) (by decide)
  rw [references, hruns]
  simp [attributesOf]

theorem references_value (hs : IsWord slot) : references ("self." ++ slot ++ ",") = [slot] := by
  rw [references_slot hs [] [(false, ",")] (by simp) (by decide) (by decide)]
  simp [attributesOf]

theorem references_copy (hs : IsWord slot) :
    references ("list(self." ++ slot ++ "),") = [slot] := by
  rw [references_slot hs [(true, "list"), (false, "(")] [(false, "),")] (by simp)
    (by decide) (by decide)]
  simp [attributesOf]

end References

section Tuples

/-- A name has no quotes, so it is one piece of a tuple. -/
theorem unbroken_of_isNameLike {name : String} (h : IsNameLike name) :
    Unbroken (· == '"') name := by
  intro c hc
  have hquote : isIdentifierPart '"' = false :=
    not_isIdentifierPart_of_mem_codeMarks (by decide)
  refine Bool.eq_false_iff.mpr fun he => ?_
  rw [← eq_of_beq he, h c hc] at hquote
  cases hquote

/-- The items behind the first one, each behind a comma, up to the end of the tuple. -/
def tupleTail (closing : String) : List String → String
  | [] => closing
  | slot :: slots => ", " ++ ("\"" ++ (slot ++ ("\"" ++ tupleTail closing slots)))

theorem intercalate_quoted (closing slot : String) (slots : List String) :
    ", ".intercalate ((slot :: slots).map fun slot => "\"" ++ slot ++ "\"") ++ closing =
      "\"" ++ (slot ++ ("\"" ++ tupleTail closing slots)) := by
  induction slots generalizing slot with
  | nil => simp [tupleTail, String.append_assoc]
  | cons next slots ih =>
    have ih := ih next
    rw [List.map_cons] at ih
    rw [List.map_cons, List.map_cons, String.intercalate_cons_cons, String.append_assoc, ih]
    simp only [tupleTail, String.append_assoc]

theorem moreItems?_tupleTail {closing : String} (hc : closing = ")" ∨ closing = ",)")
    {slots : List String} (h : ∀ slot ∈ slots, IsNameLike slot) :
    moreItems? (pieces (· == '"') (tupleTail closing slots)) = some slots := by
  induction slots with
  | nil =>
    rw [tupleTail, pieces_eq (by rcases hc with rfl | rfl <;> decide)]
    rw [moreItems?, if_pos hc]
  | cons slot slots ih =>
    obtain ⟨hslot, hslots⟩ := List.forall_mem_cons.mp h
    rw [tupleTail, pieces_append (by decide) rfl rfl,
      pieces_append (unbroken_of_isNameLike hslot) rfl rfl]
    simp [moreItems?, ih hslots]

/-- A tuple of one slot has a comma of its own. -/
theorem tupleItems?_slotTuple {slots : List String} (h : ∀ slot ∈ slots, IsNameLike slot) :
    tupleItems? (slotTuple slots) = some slots := by
  cases slots with
  | nil => decide
  | cons slot slots =>
    obtain ⟨hslot, hslots⟩ := List.forall_mem_cons.mp h
    have hclosing : ∃ closing, (closing = ")" ∨ closing = ",)") ∧
        (slots = [] → closing = ",)") ∧
        (if (slot :: slots).length = 1 then "," else "") ++ ")" = closing := by
      cases slots with
      | nil => exact ⟨",)", by simp⟩
      | cons => exact ⟨")", by simp⟩
    obtain ⟨closing, hc, hone, he⟩ := hclosing
    have htail : pieces (· == '"') (tupleTail closing slots) ≠ [")"] := by
      cases slots with
      | nil =>
        rw [hone rfl]
        decide
      | cons next slots =>
        rw [tupleTail, pieces_append (by decide) rfl rfl]
        simp
    rw [slotTuple]
    rw [String.append_assoc, he, String.append_assoc, intercalate_quoted, tupleItems?,
      pieces_append (by decide) rfl rfl,
      pieces_append (unbroken_of_isNameLike hslot) rfl rfl]
    simp [htail, moreItems?_tupleTail hc hslots]

end Tuples

section Lists
variable {members : List HintedMember}

/-- Texts that are all read are read as a list. -/
theorem mapM_read {α β : Type} {read : String → Option β} {write : α → String} {value : α → β}
    {xs : List α} (h : ∀ x ∈ xs, read (write x) = some (value x)) :
    (xs.map write).mapM read = some (xs.map value) := by
  induction xs with
  | nil => rfl
  | cons x xs ih =>
    obtain ⟨hx, hxs⟩ := List.forall_mem_cons.mp h
    rw [List.map_cons, List.mapM_cons, hx, ih hxs]
    rfl

theorem fields?_fieldLines (hn : ∀ m ∈ members, IsNameLike m.name) (rest : List String) :
    fields? (members.map HintedMember.fieldLine ++ line 1 "@staticmethod" :: rest) =
      some (members.map fun m => (m.name, m.declaredHint)) := by
  have hfactory : line 1 "@staticmethod" = "\t@staticmethod" := by decide
  have hunread : field? "\t@staticmethod" = none := by
    have hempty : IsNameLike "" := by simp [IsNameLike]
    have hat : EndsName "@staticmethod" := endsName_of_mark (by decide)
    have hline : "\t@staticmethod" = "\t" ++ ("" ++ "@staticmethod") := by decide
    rw [field?, hline, after?_append]
    simp only [Option.bind_eq_bind, Option.bind_some, leadingName_append hempty hat]
    simp [after?]
  have hfields : ∀ l ∈ members.map HintedMember.fieldLine, (l != "\t@staticmethod") = true := by
    intro l hl
    obtain ⟨m, hm, rfl⟩ := List.mem_map.mp hl
    refine bne_iff_ne.mpr fun he => ?_
    rw [← he, field?_fieldLine (hn m hm)] at hunread
    cases hunread
  rw [fields?, hfactory, if_pos (by simp), List.takeWhile_append_of_pos hfields,
    List.takeWhile_cons_of_neg (by simp), List.append_nil]
  exact mapM_read fun m hm => field?_fieldLine (hn m hm)

theorem initial?_initialLine {m : HintedMember} (hs : IsNameLike m.slot) :
    initial? m.initialLine = some (m.slot, initialValue m.toMember) := by
  have hsequence : line 2 ("self." ++ m.slot ++ ": " ++ m.sequenceHint ++ " = []") =
      line 2 ("self." ++ m.slot ++ ": " ++ m.sequenceHint ++ " = " ++ "[]") := by
    rw [← String.toList_inj]
    simp [line]
  have hsingle : line 2 ("self." ++ m.slot ++ ": Optional[" ++ m.valueHint ++ "] = None") =
      line 2 ("self." ++ m.slot ++ ": " ++ ("Optional[" ++ m.valueHint ++ "]") ++ " = " ++
        "None") := by
    rw [← String.toList_inj]
    simp [line]
  unfold HintedMember.initialLine initialValue
  cases m.role with
  | required => rw [hsingle, initial?_eq hs (Or.inl rfl)]
  | optional _ => rw [hsingle, initial?_eq hs (Or.inl rfl)]
  | repeatable _ _ => rw [hsequence, initial?_eq hs (Or.inr rfl)]

theorem initials?_initialLines (hn : ∀ m ∈ members, IsNameLike m.slot) :
    initials? (if members.isEmpty then [line 2 "pass"] else members.map HintedMember.initialLine) =
      some (members.map fun m => (m.slot, initialValue m.toMember)) := by
  have hpass : line 2 "pass" = "\t\tpass" := by decide
  have hunread : initial? "\t\tpass" = none := by simp [initial?, after?, List.isPrefixOf?]
  cases members with
  | nil => simp [initials?, hpass]
  | cons m members =>
    have hne : (m :: members).map HintedMember.initialLine ≠ ["\t\tpass"] := by
      intro he
      obtain ⟨he, _⟩ := List.cons.inj he
      rw [← he, initial?_initialLine (hn m List.mem_cons_self)] at hunread
      cases hunread
    rw [List.isEmpty_cons, if_neg Bool.false_ne_true, initials?, if_neg hne]
    exact mapM_read fun m hm => initial?_initialLine (hn m hm)

theorem leadingChecks_checkLines (hn : ∀ m ∈ members, IsNameLike m.slot ∧ IsNameLike m.name)
    {rest : List String} (hr : leadingChecks rest = ([], rest)) :
    leadingChecks (members.flatMap HintedMember.checkLines ++ rest) =
      ((members.filter fun m => m.isRequired).map fun m => (m.slot, m.name), rest) := by
  induction members with
  | nil => exact hr
  | cons m members ih =>
    obtain ⟨⟨hs, hm⟩, hms⟩ := List.forall_mem_cons.mp hn
    cases hq : m.isRequired with
    | false => simp [HintedMember.checkLines, hq, ih hms]
    | true => simp [HintedMember.checkLines, hq, leadingChecks, check?_eq hs hm, ih hms]

theorem leadingChecks_return (s : String) (ls : List String) :
    leadingChecks (line 2 ("return " ++ s) :: ls) = ([], line 2 ("return " ++ s) :: ls) := by
  have hcheck (raised : String) : check? (line 2 ("return " ++ s)) raised = none := by
    simp [check?, after?, line, List.replicate_succ, List.isPrefixOf?]
  cases ls with
  | nil => rfl
  | cons raised ls => rw [leadingChecks, hcheck]

theorem argument?_eq {name value : String} (hn : IsWord name) (hv : [','].isSuffixOf value.toList) :
    argument? (line 3 (name ++ ("=" ++ value))) = some (name, references value) := by
  have hrest : EndsName ("=" ++ value) := endsName_append (by decide) _
  have hline : line 3 (name ++ ("=" ++ value)) = "\t\t\t" ++ (name ++ ("=" ++ value)) := by
    rw [← String.toList_inj]
    simp [line]
  rw [argument?, hline, after?_append]
  simp only [Option.bind_eq_bind, Option.bind_some,
    leadingName_append (isNameLike_of_isWord hn) hrest, after?_append]
  rw [if_pos hv]

theorem argument?_argumentLine {m : HintedMember} (hn : IsWord m.name) :
    argument? m.argumentLine = some (m.name, [m.slot]) := by
  have hslot : IsWord m.slot := hn.slot
  unfold HintedMember.argumentLine
  split
  · have hline : m.name ++ "=list(self." ++ m.slot ++ ")," =
        m.name ++ ("=" ++ ("list(self." ++ m.slot ++ "),")) := by
      rw [← String.toList_inj]
      simp
    rw [hline, argument?_eq hn (by simp [List.isSuffixOf, List.isPrefixOf]), references_copy hslot]
  · have hline : m.name ++ "=self." ++ m.slot ++ "," =
        m.name ++ ("=" ++ ("self." ++ m.slot ++ ",")) := by
      rw [← String.toList_inj]
      simp
    rw [hline, argument?_eq hn (by simp [List.isSuffixOf, List.isPrefixOf]), references_value hslot]

theorem arguments?_none (record : String) :
    arguments? record [line 2 ("return " ++ (record ++ "()"))] = some [] := by
  rw [arguments?, if_pos]
  rw [← String.toList_inj]
  simp [line]

theorem arguments?_lines (record : String) {ls : List String} (hne : ls ≠ []) :
    arguments? record (line 2 ("return " ++ (record ++ "(")) :: (ls ++ [line 2 ")"])) =
      ls.mapM argument? := by
  have hopening : line 2 ("return " ++ (record ++ "(")) = "\t\treturn " ++ record ++ "(" := by
    rw [← String.toList_inj]
    simp [line]
  have hclosing : line 2 ")" = "\t\t)" := by decide
  rw [arguments?, if_pos]
  · simp
  · simp [hopening, hclosing]
  · simp [hne]

end Lists

end Outline

end RecordBuilders.Target
