import RecordBuilders.Proofs.Field.Classification
import RecordBuilders.Proofs.Syntax.Spelling
import RecordBuilders.Proofs.Syntax.WrittenTypes
import RecordBuilders.Proofs.Text.Pieces

/-! The roles of fields that were read from a source text. What the field is due is said of its type
and of its first attribute as they are written; only a literal that quotes an identifier names an
element method. In a source text nothing else survives the removal of the quotes as an identifier,
since a quote inside of a string stands behind a backslash. -/
namespace RecordBuilders
open Syntax Syntax.Grammar Text

section Quotes

theorem mem_dropWhile {α : Type} {p : α → Bool} {x : α} {xs : List α} (hx : x ∈ xs)
    (hp : p x = false) : x ∈ xs.dropWhile p := by
  rw [← List.takeWhile_append_dropWhile (p := p) (l := xs)] at hx
  refine (List.mem_append.mp hx).resolve_left fun ht => ?_
  rw [List.all_eq_true.mp List.all_takeWhile x ht] at hp
  cases hp

theorem mem_stripQuotes {text : String} {x : Char} (hx : x ∈ text.toList) (hq : isQuote x = false) :
    x ∈ (stripQuotes text).toList := by
  rw [stripQuotes, String.toList_ofList, List.mem_reverse]
  exact mem_dropWhile (List.mem_reverse.mpr (mem_dropWhile hx hq)) hq

theorem stripQuotes_quoted {name : String} (h : ∀ c ∈ name.toList, isQuote c = false) :
    stripQuotes ("\"" ++ name ++ "\"") = name := by
  have hlist : ("\"" ++ name ++ "\"").toList = '"' :: (name.toList ++ ['"']) := by simp
  have hfront : ('"' :: (name.toList ++ ['"'])).dropWhile isQuote =
      (name.toList ++ ['"']).dropWhile isQuote := rfl
  rw [stripQuotes, hlist, hfront]
  cases hname : name.toList with
  | nil =>
    rw [String.toList_eq_nil_iff.mp hname]
    rfl
  | cons c cs =>
    rw [hname] at h
    have hc : isQuote c = false := h c List.mem_cons_self
    have hends : isQuote '"' = true := rfl
    rw [List.cons_append, List.dropWhile_cons_of_neg (by simp [hc]), ← List.cons_append,
      List.reverse_append, List.reverse_singleton, List.singleton_append,
      List.dropWhile_cons_of_pos hends,
      dropWhile_eq_self fun x hx => h x (List.mem_reverse.mp hx), List.reverse_reverse, ← hname,
      String.ofList_toList]

/-- Without a backslash there is no quote between the quotes. -/
theorem not_isQuote_of_stringBody {cs : List Char} (h : StringBody cs) (hb : '\\' ∉ cs) :
    ∀ c ∈ cs, isQuote c = false := by
  induction h with
  | nil => simp
  | escaped => simp at hb
  | plain quote _ _ ih =>
    have hrest := ih fun hm => hb (List.mem_cons_of_mem _ hm)
    exact List.forall_mem_cons.mpr ⟨beq_eq_false_iff_ne.mpr quote, hrest⟩

/-- If a string names an identifier once it has lost its quotes, it had one at each end. -/
theorem quoted_of_isIdentifier_stripQuotes {cs : List Char} (h : StringBody cs)
    (hi : isIdentifier (stripQuotes (String.ofList ('"' :: (cs ++ ['"'])))) = true) :
    String.ofList ('"' :: (cs ++ ['"'])) =
      "\"" ++ stripQuotes (String.ofList ('"' :: (cs ++ ['"']))) ++ "\"" := by
  have htext : String.ofList ('"' :: (cs ++ ['"'])) = "\"" ++ String.ofList cs ++ "\"" :=
    String.toList_inj.mp (by simp)
  have hb : '\\' ∉ cs := fun hm => by
    have hkept : '\\' ∈ (stripQuotes (String.ofList ('"' :: (cs ++ ['"'])))).toList :=
      mem_stripQuotes (by simp [hm]) rfl
    exact absurd (isNameLike_of_isIdentifier hi _ hkept) (by decide +kernel)
  rw [htext, stripQuotes_quoted (by simpa using not_isQuote_of_stringBody h hb)]

end Quotes

namespace Syntax

/-- The text of a literal in a source: a string with its quotes, or a number. -/
inductive LiteralText : String → Prop where
  | string {cs : List Char} (body : StringBody cs) :
      LiteralText (String.ofList ('"' :: (cs ++ ['"'])))
  | number {c : Char} {cs : List Char} (start : c.isDigit = true) :
      LiteralText (String.ofList (c :: cs))

theorem literalText_of_phrase {ts : List Token} {text : String}
    (h : LiteralPhrase ts (.literal text)) (hg : AllGenuine ts) : LiteralText text := by
  cases h with
  | @string _ p =>
    have ht : Terminal text.toList (some (.string text)) := hg ⟨.string text, p⟩ List.mem_cons_self
    generalize text.toList = word at ht
    cases ht with
    | string body => exact .string body
  | @number _ p =>
    have ht : Terminal text.toList (some (.number text)) := hg ⟨.number text, p⟩ List.mem_cons_self
    generalize text.toList = word at ht
    cases ht with
    | number start _ => exact .number start

/-- The literals among the arguments are literals of a source. -/
def Attribute.HasLiterals (a : Attribute) : Prop :=
  ∀ tokens, a.input = .arguments tokens → ∀ text, .literal text ∈ tokens → LiteralText text

theorem hasLiterals_of_phrase {ts : List Token} {a : Attribute} (h : AttributePhrase ts a)
    (hg : AllGenuine ts) : a.HasLiterals := by
  rintro tokens htokens text hmem
  obtain @⟨ns, us, first, others, input, p, q, r, s, names, inside⟩ := h
  cases htokens
  cases inside with
  | @arguments vs _ p' q' list =>
    obtain ⟨ws, hws, token⟩ := list.exists_phrase _ hmem
    cases token with
    | literal literal =>
      refine literalText_of_phrase literal fun t ht => hg t ?_
      have ht : t ∈ vs := hws.subset ht
      simp [ht]

theorem hasLiterals_of_parse {source : String} {ds : List Declaration} {d : Declaration} {f : Field}
    (h : parse source = .ok ds) (hd : d ∈ ds) (hf : f ∈ d.fields) :
    ∀ a ∈ f.annotations, a.HasLiterals := by
  intro a ha
  obtain ⟨tokens, ts, hsplits, hts, phrase⟩ :=
    (field_occurs h hd hf).part fun _ hp => hp.exists_attribute a ha
  exact hasLiterals_of_phrase phrase ((genuine_of_splits hsplits).within hts)

/-- A path whose first segment is the wrapper around one type. -/
def TypeExpr.Wraps (wrapper : String) (t inner : TypeExpr) : Prop :=
  ∃ others, t = .path (.applied wrapper [.type inner] :: others)

theorem TypeExpr.unwrap?_eq_some_iff {t inner : TypeExpr} {wrapper : String} (h : t.Written) :
    t.unwrap? wrapper = some inner ↔ t.Wraps wrapper inner := by
  refine ⟨eq_of_unwrap?, ?_⟩
  rintro ⟨others, rfl⟩
  cases h with
  | path _ segments =>
    cases segments _ List.mem_cons_self with
    | applied _ arguments =>
      cases arguments _ List.mem_cons_self with
      | type type => cases type <;> simp [unwrap?]

theorem TypeExpr.unwrap?_eq_none_iff {t : TypeExpr} {wrapper : String} (h : t.Written) :
    t.unwrap? wrapper = none ↔ ∀ inner, ¬t.Wraps wrapper inner := by
  simp only [Option.eq_none_iff_forall_ne_some, ne_eq, unwrap?_eq_some_iff h]

end Syntax

namespace Config
variable {c : Config} {f : Field} {a : Attribute}

/-- `attribute(each = "method")`, with an identifier between one pair of quotes. -/
structure Marks (c : Config) (a : Attribute) (method : String) : Prop where
  path : a.path = [c.attributeName]
  input : a.input =
    .arguments [.word c.eachKey, .punct "=", .literal ("\"" ++ method ++ "\"")]
  identifier : isIdentifier method = true

/-- What a field is due: a role, or an error of some category. -/
inductive Due (c : Config) (f : Field) : Except Category Role → Prop where
  | required (plain : f.annotations = [])
      (bare : ∀ inner, ¬f.type.Wraps c.optionalWrapper inner) : Due c f (.ok .required)
  | optional {inner : TypeExpr} (plain : f.annotations = [])
      (wrapped : f.type.Wraps c.optionalWrapper inner) : Due c f (.ok (.optional inner))
  | unread {a : Attribute} {others : List Attribute} (marked : f.annotations = a :: others)
      (misread : ∀ method, ¬c.Marks a method) : Due c f (.error .attr)
  | repeatable {a : Attribute} {others : List Attribute} {method : String} {element : TypeExpr}
      (marked : f.annotations = a :: others) (read : c.Marks a method)
      (wrapped : f.type.Wraps c.sequenceWrapper element) :
      Due c f (.ok (.repeatable element method))
  | shapeless {a : Attribute} {others : List Attribute} {method : String}
      (marked : f.annotations = a :: others) (read : c.Marks a method)
      (bare : ∀ element, ¬f.type.Wraps c.sequenceWrapper element) : Due c f (.error .shape)

/-- There is something due to every field. -/
theorem exists_due (c : Config) (f : Field) : ∃ outcome, c.Due f outcome := by
  cases hf : f.annotations with
  | nil =>
    by_cases hw : ∃ inner, f.type.Wraps c.optionalWrapper inner
    · obtain ⟨inner, hw⟩ := hw
      exact ⟨_, .optional hf hw⟩
    · exact ⟨_, .required hf fun inner hi => hw ⟨inner, hi⟩⟩
  | cons a others =>
    by_cases hm : ∃ method, c.Marks a method
    · obtain ⟨method, hm⟩ := hm
      by_cases hw : ∃ element, f.type.Wraps c.sequenceWrapper element
      · obtain ⟨element, hw⟩ := hw
        exact ⟨_, .repeatable hf hm hw⟩
      · exact ⟨_, .shapeless hf hm fun element he => hw ⟨element, he⟩⟩
    · exact ⟨_, .unread hf fun method hr => hm ⟨method, hr⟩⟩

theorem elementMethod_of_marks {method : String} (h : c.Marks a method) :
    c.elementMethod a = .ok method := by
  obtain ⟨path, input, identifier⟩ := h
  have hquotes : ∀ x ∈ method.toList, isQuote x = false := fun x hx => by
    refine beq_eq_false_iff_ne.mpr ?_
    rintro rfl
    exact absurd (isNameLike_of_isIdentifier identifier _ hx) (by decide +kernel)
  simp [elementMethod, path, input, identifier, stripQuotes_quoted hquotes, isQuote]

theorem marks_of_elementMethod (ha : a.HasLiterals) {method : String}
    (h : c.elementMethod a = .ok method) : c.Marks a method := by
  unfold elementMethod at h
  split at h
  · next hpath =>
    split at h
    · next key sign text hinput =>
      split at h
      · next hshape =>
        obtain ⟨rfl, rfl, hquote⟩ := hshape
        dsimp only at h
        split at h
        · next hi =>
          cases h
          refine ⟨hpath, ?_, hi⟩
          rw [hinput]
          cases ha _ hinput text (by simp) with
          | string body => rw [← quoted_of_isIdentifier_stripQuotes body hi]
          | number start =>
            -- No digit is a quote.
            simp only [String.toList_ofList, List.head?_cons, Option.any_some, isQuote,
              beq_iff_eq] at hquote
            subst hquote
            cases start
        · cases h
      · cases h
    · cases h
    · cases h
  · cases h

/-- With literals of a source, nothing but the due form of the attribute names a method. -/
theorem elementMethod_eq_ok_iff (ha : a.HasLiterals) {method : String} :
    c.elementMethod a = .ok method ↔ c.Marks a method :=
  ⟨marks_of_elementMethod ha, elementMethod_of_marks⟩

theorem exists_fault_of_elementMethod (ha : a.HasLiterals) (h : ∀ method, ¬c.Marks a method) :
    ∃ fault, c.elementMethod a = .error fault := by
  cases hm : c.elementMethod a with
  | ok method => exact absurd ((elementMethod_eq_ok_iff ha).mp hm) (h method)
  | error fault => exact ⟨fault, rfl⟩

/-- Fields with written types and literals get what they are due. -/
theorem fieldOutcome_of_due {name : String} (hname : f.usableName? = some name)
    (ht : f.type.Written) (ha : ∀ a ∈ f.annotations, a.HasLiterals) {outcome : Except Category Role}
    (h : c.Due f outcome) : (c.fieldOutcome f).mapError Issue.category =
      outcome.map fun role => ⟨name, f.type, role, f.location⟩ := by
  have hgiven {role : Role} (hg : c.Gives f role) :
      c.fieldOutcome f = .ok ⟨name, f.type, role, f.location⟩ :=
    fieldOutcome_eq_ok_iff.mpr (classify_eq_ok_iff.mpr ⟨name, role, hname, hg, rfl⟩)
  have hrefused {fault : FieldFault} (hr : c.Refuses f fault) :
      c.fieldOutcome f = .error (fault.issue c f) :=
    fieldOutcome_eq_error_iff.mpr ⟨fault, classify_eq_error_iff.mpr hr, rfl⟩
  cases h with
  | required plain bare =>
    rw [hgiven (.required plain ((TypeExpr.unwrap?_eq_none_iff ht).mpr bare))]
    rfl
  | optional plain wrapped =>
    rw [hgiven (.optional plain ((TypeExpr.unwrap?_eq_some_iff ht).mpr wrapped))]
    rfl
  | unread marked misread =>
    obtain ⟨fault, hfault⟩ := exists_fault_of_elementMethod (ha _ (by simp [marked])) misread
    rw [hrefused (.mark hname marked hfault)]
    rfl
  | repeatable marked read wrapped =>
    have hmethod := elementMethod_of_marks read
    rw [hgiven (.repeatable marked hmethod ((TypeExpr.unwrap?_eq_some_iff ht).mpr wrapped))]
    rfl
  | shapeless marked read bare =>
    have hmethod := elementMethod_of_marks read
    rw [hrefused (.notASequence hname marked hmethod ((TypeExpr.unwrap?_eq_none_iff ht).mpr bare))]
    rfl

/-- To a field of a source text exactly one outcome is due, and this is what becomes of it: a member
with the role that is due, or an issue of the category that is due. -/
theorem source_field_due {source name : String} {ds : List Declaration} {d : Declaration}
    {f : Field} (c : Config) (hp : parse source = .ok ds) (hd : d ∈ ds) (hf : f ∈ d.fields)
    (hname : f.name = some name) :
    ∃ outcome, c.Due f outcome ∧ (∀ other, c.Due f other → other = outcome) ∧
      (c.fieldOutcome f).mapError Issue.category =
        outcome.map fun role => ⟨name, f.type, role, f.location⟩ := by
  have hword : IsWord name := (namesWords_of_parse hp d hd).fields f hf name hname
  have husable : f.usableName? = some name := usableName?_eq_some hname hword.ne_empty
  have hdue {outcome : Except Category Role} (h : c.Due f outcome) :=
    fieldOutcome_of_due husable (written_of_parse hp d hd f hf) (hasLiterals_of_parse hp hd hf) h
  obtain ⟨outcome, h⟩ := exists_due c f
  refine ⟨outcome, h, fun other hother => ?_, hdue h⟩
  have he := (hdue hother).symm.trans (hdue h)
  cases other with
  | ok role =>
    cases outcome with
    | ok role' => simpa [Except.map] using he
    | error category => cases he
  | error category =>
    cases outcome with
    | ok role => cases he
    | error category' => simpa [Except.map] using he

/-- Neither a second attribute nor what follows the wrapper makes a difference. -/
theorem source_field_due_sequence :
    ∃ ds, parse "struct S \x7b #[builder(each = \"y\")] #[x] ys: Vec<u8>::T \x7d" = .ok ds ∧
      ∃ d ∈ ds, ∃ f ∈ d.fields, f.name = some "ys" ∧
        (Config.default.fieldOutcome f).mapError Issue.category =
          .ok ⟨"ys", f.type, .repeatable (.path [.plain "u8"]) "y", f.location⟩ := by
  have hp : parse "struct S \x7b #[builder(each = \"y\")] #[x] ys: Vec<u8>::T \x7d" = .ok [{
      name := "S"
      fields := [{
        name := some "ys"
        type := .path [.applied "Vec" [.type (.path [.plain "u8"])], .plain "T"]
        annotations := [{
          path := ["builder"]
          input := .arguments [.word "each", .punct "=", .literal "\"y\""]
          location := some ⟨1, 12⟩ }, { path := ["x"], location := some ⟨1, 35⟩ }]
        location := some ⟨1, 40⟩ }]
      location := some ⟨1, 1⟩ }] := by cbv
  refine ⟨_, hp, _, List.mem_cons_self, _, List.mem_cons_self, rfl, ?_⟩
  obtain ⟨outcome, _, honly, hgiven⟩ :=
    source_field_due .default hp List.mem_cons_self List.mem_cons_self rfl
  have hdue := honly (.ok (.repeatable (.path [.plain "u8"]) "y"))
    (.repeatable rfl ⟨rfl, rfl, by decide +kernel⟩ ⟨_, rfl⟩)
  rw [hgiven, ← hdue]
  rfl

end Config
end RecordBuilders
