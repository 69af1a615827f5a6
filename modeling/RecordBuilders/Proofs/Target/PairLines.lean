import RecordBuilders.Target.ClassPair

/-! The lines of a record class and its builder class without the empty ones: two headings, below
each the lines of its class, which are indented, and among those of the builder class its methods. -/
namespace RecordBuilders.Target

section Lines

theorem line_zero (text : String) : line 0 text = text := by
  rw [← String.toList_inj]
  simp [line]

/-- The line stands at least this deep. -/
def Indented (least : Nat) (l : String) : Prop := ∃ depth text, l = line (depth + least) text

theorem indented_line (depth least : Nat) (text : String) :
    Indented least (line (depth + least) text) :=
  ⟨depth, text, rfl⟩

theorem Indented.of_deeper {least : Nat} {l : String} (h : Indented (least + 1) l) :
    Indented least l := by
  obtain ⟨depth, text, rfl⟩ := h
  exact ⟨depth + 1, text, by rw [Nat.add_right_comm]; rfl⟩

theorem Indented.not_isEmpty {l : String} (h : Indented 1 l) : (!l.isEmpty) = true := by
  obtain ⟨depth, text, rfl⟩ := h
  simp [line, List.replicate_succ]

theorem isEmpty_line (depth : Nat) (text : String) : (line (depth + 1) text).isEmpty = false := by
  simpa using (indented_line depth 1 text).not_isEmpty

theorem filter_indented {ls : List String} (h : ∀ l ∈ ls, Indented 1 l) :
    ls.filter (fun l => !l.isEmpty) = ls :=
  List.filter_eq_self.mpr fun l hl => (h l hl).not_isEmpty

end Lines

/-- A method of a builder class. -/
structure MethodText where
  name : String
  /-- What follows the receiver. -/
  signature : String
  body : List String

namespace MethodText

def heading (t : MethodText) : String := line 1 ("def " ++ t.name ++ "(self" ++ t.signature)

def lines (t : MethodText) : List String := t.heading :: t.body

end MethodText

namespace ClassPair

/-- The lines below the heading of the record class. -/
def recordBody (p : ClassPair) : List String :=
  p.members.map HintedMember.fieldLine ++ line 1 "@staticmethod" ::
    [line 1 ("def " ++ p.factory ++ "() -> " ++ p.builder ++ ":"),
      line 2 ("return " ++ p.builder ++ "()")]

def slotsLine (p : ClassPair) : String :=
  line 1 ("__slots__ = " ++ slotTuple (p.members.map fun m => m.slot))

def initializerText (p : ClassPair) : MethodText where
  name := "__init__"
  signature := ") -> None:"
  body := if p.members.isEmpty then [line 2 "pass"] else p.members.map HintedMember.initialLine

def setterText (p : ClassPair) (name parameterHint code : String) : MethodText where
  name
  signature := ", value: " ++ parameterHint ++ ") -> " ++ p.builder ++ ":"
  body := [line 2 code, line 2 "return self"]

def setterTexts (p : ClassPair) (m : HintedMember) : List MethodText :=
  match m.role with
  | .repeatable _ method =>
    p.setterText method m.valueHint ("self." ++ m.slot ++ ".append(value)") ::
      if m.hasBulkSetter then
        [p.setterText m.name m.sequenceHint ("self." ++ m.slot ++ " = list(value)")]
      else []
  | _ => [p.setterText m.name m.valueHint ("self." ++ m.slot ++ " = value")]

/-- What setters do to their slots. -/
def effects : List String := [" = value", " = list(value)", ".append(value)"]

/-- The call of the record class. -/
def callLines (p : ClassPair) : List String :=
  if p.members.isEmpty then [line 2 ("return " ++ (p.record ++ "()"))]
  else
    line 2 ("return " ++ (p.record ++ "(")) ::
      (p.members.map HintedMember.argumentLine ++ [line 2 ")"])

def buildText (p : ClassPair) : MethodText where
  name := p.buildMethod
  signature := ") -> " ++ p.record ++ ":"
  body := p.members.flatMap HintedMember.checkLines ++ p.callLines

def methodTexts (p : ClassPair) : List MethodText :=
  p.initializerText :: (p.members.flatMap p.setterTexts ++ [p.buildText])

/-- The two classes by their names, each with the lines below its heading. -/
def bodies (p : ClassPair) : List (String × List String) :=
  [(p.record, p.recordBody), (p.builder, p.slotsLine :: p.methodTexts.flatMap MethodText.lines)]

section
variable {p : ClassPair}

theorem indented_recordBody : ∀ l ∈ p.recordBody, Indented 1 l := by
  simp only [recordBody, List.forall_mem_append, List.forall_mem_cons, List.forall_mem_map]
  refine ⟨fun m _ => indented_line 0 1 _, indented_line 0 1 _, indented_line 0 1 _,
    indented_line 1 1 _, by simp⟩

/-- There is a setter for each method of a member. -/
theorem map_name_setterTexts (m : HintedMember) :
    (p.setterTexts m).map MethodText.name = m.methods := by
  unfold setterTexts Member.methods
  cases m.role with
  | required => rfl
  | optional _ => rfl
  | repeatable _ method => cases m.hasBulkSetter <;> rfl

/-- A setter does something to the slot of its member. -/
theorem exists_of_mem_setterTexts {m : HintedMember} {t : MethodText} (h : t ∈ p.setterTexts m) :
    ∃ parameterHint ∈ [m.valueHint, m.sequenceHint], ∃ effect ∈ effects,
      t = p.setterText t.name parameterHint ("self." ++ m.slot ++ effect) := by
  unfold setterTexts at h
  split at h
  · split at h
    · rcases List.mem_cons.mp h with rfl | h
      · exact ⟨m.valueHint, by simp, ".append(value)", by simp [effects], rfl⟩
      · rw [List.mem_singleton.mp h]
        exact ⟨m.sequenceHint, by simp, " = list(value)", by simp [effects], rfl⟩
    · rw [List.mem_singleton.mp h]
      exact ⟨m.valueHint, by simp, ".append(value)", by simp [effects], rfl⟩
  · rw [List.mem_singleton.mp h]
    exact ⟨m.valueHint, by simp, " = value", by simp [effects], rfl⟩

theorem indented_initializerText : ∀ l ∈ p.initializerText.body, Indented 2 l := by
  unfold initializerText
  dsimp only
  split
  · simpa using indented_line 0 2 "pass"
  · rw [List.forall_mem_map]
    intro m _
    unfold HintedMember.initialLine
    split
    · exact indented_line 0 2 _
    · exact indented_line 0 2 _

theorem indented_callLines : ∀ l ∈ p.callLines, Indented 2 l := by
  unfold callLines
  split
  · simpa using indented_line 0 2 _
  · simp only [List.forall_mem_cons, List.forall_mem_append, List.forall_mem_map]
    refine ⟨indented_line 0 2 _, ?_, indented_line 0 2 _, by simp⟩
    intro m _
    unfold HintedMember.argumentLine
    split
    · exact indented_line 1 2 _
    · exact indented_line 1 2 _

theorem indented_buildText : ∀ l ∈ p.buildText.body, Indented 2 l := by
  intro l hl
  rcases List.mem_append.mp hl with hl | hl
  · obtain ⟨m, _, hl⟩ := List.mem_flatMap.mp hl
    unfold HintedMember.checkLines at hl
    split at hl
    · rcases List.mem_cons.mp hl with rfl | hl
      · exact indented_line 0 2 _
      · rw [List.mem_singleton.mp hl]
        exact indented_line 1 2 _
    · cases hl
  · exact indented_callLines l hl

theorem indented_methodTexts : ∀ t ∈ p.methodTexts, ∀ l ∈ t.body, Indented 2 l := by
  intro t ht
  rcases List.mem_cons.mp ht with rfl | ht
  · exact indented_initializerText
  rcases List.mem_append.mp ht with ht | ht
  · obtain ⟨m, _, ht⟩ := List.mem_flatMap.mp ht
    obtain ⟨parameterHint, _, effect, _, he⟩ := exists_of_mem_setterTexts ht
    rw [he]
    simp only [setterText, List.forall_mem_cons]
    exact ⟨indented_line 0 2 _, indented_line 0 2 _, by simp⟩
  · rw [List.mem_singleton.mp ht]
    exact indented_buildText

theorem indented_lines {t : MethodText} (h : ∀ l ∈ t.body, Indented 2 l) :
    ∀ l ∈ t.lines, Indented 1 l :=
  List.forall_mem_cons.mpr ⟨indented_line 0 1 _, fun l hl => (h l hl).of_deeper⟩

theorem filter_recordLines : p.recordLines.filter (fun l => !l.isEmpty) =
    "@_dataclass" :: ("class " ++ p.record ++ ":") :: p.recordBody := by
  have hfields : (p.members.map HintedMember.fieldLine).filter (fun l => !l.isEmpty) =
      p.members.map HintedMember.fieldLine :=
    filter_indented fun l hl => indented_recordBody l (List.mem_append_left _ hl)
  have hblank :
      (if p.members.isEmpty then [] else [""]).filter (fun l : String => !l.isEmpty) = [] := by
    split <;> rfl
  rw [recordLines]
  simp only [List.filter_append, hfields, hblank]
  simp [recordBody, line_zero, isEmpty_line]

theorem filter_storageLines : p.storageLines.filter (fun l => !l.isEmpty) =
    ("class " ++ p.builder ++ ":") :: p.slotsLine :: p.initializerText.lines := by
  have hheading : line 1 "def __init__(self) -> None:" = p.initializerText.heading := by
    simp [initializerText, MethodText.heading, line]
  have hlines : p.storageLines =
      ["class " ++ p.builder ++ ":", p.slotsLine, ""] ++ p.initializerText.lines := by
    rw [storageLines, hheading]
    simp [slotsLine, MethodText.lines, initializerText]
  rw [hlines, List.filter_append, filter_indented (indented_lines indented_initializerText)]
  simp [slotsLine, isEmpty_line]

theorem filter_methodLines (name parameterHint code : String) :
    (p.methodLines name parameterHint code).filter (fun l => !l.isEmpty) =
      (p.setterText name parameterHint code).lines := by
  have hheading : line 1 ("def " ++ name ++ "(self, value: " ++ parameterHint ++ ") -> " ++
      p.builder ++ ":") = (p.setterText name parameterHint code).heading := by
    rw [← String.toList_inj]
    simp [setterText, MethodText.heading, line]
  rw [methodLines, hheading]
  simp [MethodText.heading, MethodText.lines, setterText, isEmpty_line]

theorem filter_setterLines (m : HintedMember) :
    (p.setterLines m).filter (fun l => !l.isEmpty) = (p.setterTexts m).flatMap MethodText.lines := by
  unfold setterLines setterTexts
  cases m.role with
  | required => simp [filter_methodLines]
  | optional _ => simp [filter_methodLines]
  | repeatable _ method => cases m.hasBulkSetter <;> simp [filter_methodLines]

theorem filter_buildLines : p.buildLines.filter (fun l => !l.isEmpty) = p.buildText.lines := by
  have hheading : line 1 ("def " ++ p.buildMethod ++ "(self) -> " ++ p.record ++ ":") =
      p.buildText.heading := by
    rw [← String.toList_inj]
    simp [buildText, MethodText.heading, line]
  have hlines : p.buildLines = "" :: p.buildText.lines := by
    rw [buildLines, hheading]
    simp [MethodText.lines, buildText, callLines, String.append_assoc]
  rw [hlines, List.filter_cons_of_neg (by simp)]
  exact filter_indented (indented_lines indented_buildText)

/-- Without the empty lines there is one decorator, and then there are the two classes. -/
theorem filter_lines : p.lines.filter (fun l => !l.isEmpty) =
    "@_dataclass" :: p.bodies.flatMap fun b => ("class " ++ b.1 ++ ":") :: b.2 := by
  rw [ClassPair.lines]
  simp only [List.filter_append, List.filter_flatMap, filter_recordLines, filter_storageLines,
    filter_setterLines, filter_buildLines]
  simp [bodies, methodTexts, List.flatMap_assoc]

end

end ClassPair

end RecordBuilders.Target
