import RecordBuilders.Proofs.Syntax.Recognition
import RecordBuilders.Syntax.Parser

/-! Types are read as the grammar has them. -/
namespace RecordBuilders.Syntax.Parser
open Text Grammar

/-- The tokens with which a path goes on. -/
def typeTail : List Lexeme := [.symbol .pathSep, .symbol .less]

/-- The tokens with which a type begins. -/
def StartsType (l : Lexeme) : Prop :=
  (∃ name, l = .name name) ∨ l = .symbol .ampersand ∨ l = .symbol .openParen ∨
    l = .symbol .openBracket

/-- The tokens with which a generic argument begins. -/
def StartsArgument (l : Lexeme) : Prop :=
  StartsType l ∨ (∃ name, l = .lifetime name) ∨ ∃ value, l = .number value

section Sound
variable {type : Parser TypeExpr}

theorem genericArg_sound (ht : Sound type TypePhrase) :
    Sound (genericArg type) ArgumentPhrase := by
  apply Sound.choose
  · intro lexeme position k hk
    cases lexeme with
    | lifetime name =>
      cases hk
      exact .pure .lifetime
    | number value =>
      cases hk
      exact .pure .const
    | _ => cases hk
  · exact ht.map fun _ _ => .type

theorem segment_sound (ht : Sound type TypePhrase) (name : String) (p : Position) :
    Sound (segment type name) fun ts s => SegmentPhrase (⟨.name name, p⟩ :: ts) s := by
  apply Sound.choose
  · intro lexeme position k hk
    cases lexeme with
    | symbol symbol =>
      cases symbol with
      | less =>
        cases hk
        exact ((genericArg_sound ht).commaList .less .greater position).map fun _ _ => .applied
      | _ => cases hk
    | _ => cases hk
  · exact .pure .plain

theorem nextSegment_sound (ht : Sound type TypePhrase) :
    Sound (do expect (.symbol .pathSep); segment type (← name)) NextSegment := by
  refine (Sound.expect _).bind fun ws _ hws => Sound.bind Sound.name fun xs name hxs => ?_
  obtain ⟨q, rfl⟩ := hws
  obtain ⟨r, rfl⟩ := hxs
  exact (segment_sound ht name r).imp fun _ _ => .mk

theorem path_sound (ht : Sound type TypePhrase) (first : String) (p : Position) :
    Sound (path type first) fun ts t => TypePhrase (⟨.name first, p⟩ :: ts) t := by
  refine (segment_sound ht first p).bind fun us s hs => ?_
  refine Sound.bind ((nextSegment_sound ht).many _) fun vs ss hss => .pure ?_
  rw [List.append_nil, ← List.cons_append]
  exact .path hs hss

theorem optionalLifetime_sound : Sound (choose (fun
    | .lifetime name => some (pure (some name))
    | _ => none) (pure none)) OptionalLifetime := by
  apply Sound.choose
  · intro lexeme position k hk
    cases lexeme with
    | lifetime name =>
      cases hk
      exact .pure .present
    | _ => cases hk
  · exact .pure .absent

theorem reference_sound (ht : Sound type TypePhrase) (p : Position) :
    Sound (reference type) fun ts t => TypePhrase (⟨.symbol .ampersand, p⟩ :: ts) t := by
  refine Sound.bind optionalLifetime_sound fun ls lifetime hl => ?_
  refine (Sound.optionalWord .mut).bind fun ms mutable hm => ht.bind fun ts t hts => .pure ?_
  rw [List.append_nil, ← List.append_assoc]
  exact .reference hl hm hts

theorem array_sound (ht : Sound type TypePhrase) (p : Position) :
    Sound (array type) fun ts t => TypePhrase (⟨.symbol .openBracket, p⟩ :: ts) t := by
  refine ht.bind fun ts t hts => (Sound.expect _).bind fun us _ hus => ?_
  refine Sound.bind Sound.number fun vs length hvs => (Sound.expect _).bind fun ws _ hws => .pure ?_
  obtain ⟨q, rfl⟩ := hus
  obtain ⟨r, rfl⟩ := hvs
  obtain ⟨s, rfl⟩ := hws
  exact .array hts

theorem typeUpTo_sound (depth : Nat) : Sound (typeUpTo depth) TypePhrase := by
  induction depth with
  | zero => exact .fail
  | succ depth ih =>
    apply Sound.branch
    intro lexeme position k hk
    cases lexeme with
    | name first =>
      cases hk
      exact path_sound ih first position
    | symbol symbol =>
      cases symbol with
      | ampersand =>
        cases hk
        exact reference_sound ih position
      | openParen =>
        cases hk
        exact (ih.commaList .openParen .closeParen position).map fun _ _ => .tuple
      | openBracket =>
        cases hk
        exact array_sound ih position
      | _ => cases hk
    | _ => cases hk

theorem type_sound : Sound Parser.type TypePhrase :=
  fun tokens => typeUpTo_sound tokens.length tokens

end Sound

section Complete
variable {type : Parser TypeExpr} {n : Nat}

theorem exists_name {ts : List Token} {s : Segment} (h : SegmentPhrase ts s) :
    ∃ name p us, ts = ⟨.name name, p⟩ :: us := by
  cases h with
  | plain => exact ⟨_, _, _, rfl⟩
  | applied _ => exact ⟨_, _, _, rfl⟩

theorem typePhrase_begins : BeginsWith TypePhrase StartsType := by
  intro used t h
  cases h with
  | path head _ =>
    obtain ⟨name, p, us, rfl⟩ := exists_name head
    exact ⟨_, _, rfl, Or.inl ⟨name, rfl⟩⟩
  | reference => exact ⟨_, _, rfl, by simp [StartsType]⟩
  | tuple types => cases types <;> exact ⟨_, _, rfl, by simp [StartsType]⟩
  | array => exact ⟨_, _, rfl, by simp [StartsType]⟩

theorem argumentPhrase_begins : BeginsWith ArgumentPhrase StartsArgument := by
  intro used a h
  cases h with
  | type type =>
    obtain ⟨t, ts, rfl, ht⟩ := typePhrase_begins _ _ type
    exact ⟨t, ts, rfl, Or.inl ht⟩
  | lifetime => exact ⟨_, _, rfl, by simp [StartsArgument]⟩
  | const => exact ⟨_, _, rfl, by simp [StartsArgument]⟩

theorem nextSegment_begins : BeginsWith NextSegment (· = .symbol .pathSep) := by
  rintro used s ⟨_⟩
  exact ⟨_, _, rfl, rfl⟩

theorem genericArg_complete (ht : Complete n type TypePhrase typeTail) :
    Complete n (genericArg type) ArgumentPhrase typeTail := by
  intro used a rest hb h hr
  cases h with
  | type phrase =>
    obtain ⟨t, ts, rfl, hfirst⟩ := typePhrase_begins _ _ phrase
    have hread := map_eq (f := GenericArg.type) (ht _ _ rest hb phrase hr)
    obtain ⟨lexeme, p⟩ := t
    rcases hfirst with ⟨name, rfl⟩ | rfl | rfl | rfl <;> exact hread
  | lifetime => rfl
  | const => rfl

theorem segment_complete (ht : Complete n type TypePhrase typeTail) (name : String)
    (p : Position) :
    Complete n (segment type name) (fun ts s => SegmentPhrase (⟨.name name, p⟩ :: ts) s)
      [.symbol .less] := by
  intro used s rest hb h hr
  cases h with
  | plain =>
    cases rest with
    | nil => rfl
    | cons t ts =>
      obtain ⟨lexeme, q⟩ := t
      have hne : lexeme ≠ .symbol .less := by simpa using hr
      cases lexeme with
      | symbol symbol =>
        cases symbol with
        | less => exact absurd rfl hne
        | _ => rfl
      | _ => rfl
  | applied list =>
    obtain ⟨q, us, rfl, hlist⟩ := commaList_eq (genericArg_complete ht) argumentPhrase_begins
      ⟨by simp [StartsArgument, StartsType], by simp [typeTail], by simp [typeTail, comma],
        by simp [comma]⟩ list (Nat.le_succ_of_le hb)
    exact map_eq (hlist rest)

theorem nextSegment_complete (ht : Complete n type TypePhrase typeTail) :
    Complete n (do expect (.symbol .pathSep); segment type (← name)) NextSegment
      [.symbol .less] := by
  rintro used s rest hb ⟨phrase⟩ hr
  obtain ⟨name, p, ts, rfl⟩ := exists_name phrase
  simp only [List.length_cons] at hb
  rw [List.cons_append, List.cons_append, bind_eq expect_cons, bind_eq name_cons]
  exact segment_complete ht name p ts s rest (by omega) phrase hr

theorem path_eq (ht : Complete n type TypePhrase typeTail) {first : String} {p : Position}
    {ts us rest : List Token} {s : Segment} {ss : List Segment}
    (hs : SegmentPhrase (⟨.name first, p⟩ :: ts) s) (hss : Many NextSegment us ss)
    (hb : ts.length + us.length ≤ n) (hr : Stops typeTail rest) :
    path type first (ts ++ us ++ rest) = .ok (.path (s :: ss), rest) := by
  have hnext : Stops [.symbol .less] (us ++ rest) :=
    stops_many hss nextSegment_begins (by simp) (hr.of_subset (by simp [typeTail]))
  have hhead := segment_complete ht first p ts s (us ++ rest) (by omega) hs hnext
  have htail := (nextSegment_complete ht).many nextSegment_begins (by simp) us ss rest (by omega)
    hss (hr.of_subset (by simp [typeTail]))
  rw [List.append_assoc, path, bind_eq hhead, bind_eq htail]
  rfl

theorem reference_eq (ht : Complete n type TypePhrase typeTail) {ls ms ts rest : List Token}
    {lifetime : Option String} {mutable : Bool} {t : TypeExpr}
    (hl : OptionalLifetime ls lifetime) (hm : OptionalWord .mut ms mutable) (h : TypePhrase ts t)
    (hb : ts.length ≤ n) (hr : Stops typeTail rest) :
    reference type (ls ++ ms ++ ts ++ rest) = .ok (.reference lifetime mutable t, rest) := by
  have hread := ht ts t rest hb h hr
  obtain ⟨⟨lexeme, q⟩, us, rfl, hfirst⟩ := typePhrase_begins _ _ h
  have hword : optional (.keyword .mut) (ms ++ (⟨lexeme, q⟩ :: us ++ rest)) =
      .ok (mutable, ⟨lexeme, q⟩ :: us ++ rest) := by
    refine complete_optionalWord .mut ms mutable _ (Nat.le_refl _) hm (stops_cons.mpr ?_)
    rcases hfirst with ⟨name, rfl⟩ | rfl | rfl | rfl <;> simp
  rw [List.append_assoc, List.append_assoc]
  refine (bind_eq (a := lifetime) (r := ms ++ (⟨lexeme, q⟩ :: us ++ rest)) ?_).trans ?_
  · cases hl with
    | present => rfl
    | absent =>
      cases hm with
      | present => rfl
      | absent => rcases hfirst with ⟨name, rfl⟩ | rfl | rfl | rfl <;> rfl
  · rw [bind_eq hword, bind_eq hread]
    rfl

theorem array_eq (ht : Complete n type TypePhrase typeTail) {ts rest : List Token} {t : TypeExpr}
    {length : String} {p q r : Position} (h : TypePhrase ts t) (hb : ts.length ≤ n) :
    array type (ts ++ ⟨.symbol .semicolon, p⟩ :: ⟨.number length, q⟩ ::
      ⟨.symbol .closeBracket, r⟩ :: rest) = .ok (.array t length, rest) := by
  have hread := ht ts t (⟨.symbol .semicolon, p⟩ :: ⟨.number length, q⟩ ::
    ⟨.symbol .closeBracket, r⟩ :: rest) hb h (stops_cons.mpr (by simp [typeTail]))
  rw [array, bind_eq hread, bind_eq expect_cons, bind_eq number_cons, bind_eq expect_cons]
  rfl

/-- A bound on the depth is large enough for every type of at most as many tokens. -/
theorem typeUpTo_complete (n : Nat) : Complete n (typeUpTo n) TypePhrase typeTail := by
  induction n with
  | zero =>
    intro used t rest hb h _
    obtain ⟨_, _, rfl, _⟩ := typePhrase_begins _ _ h
    simp at hb
  | succ n ih =>
    intro used t rest hb h hr
    cases h with
    | path head tail =>
      obtain ⟨first, p, us, rfl⟩ := exists_name head
      simp only [List.cons_append, List.length_cons, List.length_append] at hb
      exact path_eq ih head tail (by omega) hr
    | reference name word phrase =>
      simp only [List.length_cons, List.length_append] at hb
      exact reference_eq ih name word phrase (by omega) hr
    | tuple types =>
      obtain ⟨p, us, rfl, hlist⟩ := commaList_eq ih typePhrase_begins
        ⟨by simp [StartsType], by simp [typeTail], by simp [typeTail, comma], by simp [comma]⟩
        types hb
      exact map_eq (hlist rest)
    | array phrase =>
      simp only [List.length_cons, List.length_append] at hb
      rw [List.cons_append, List.append_assoc]
      exact array_eq ih phrase (by omega)

theorem type_complete (n : Nat) : Complete n Parser.type TypePhrase typeTail :=
  fun used t rest _ h => (typeUpTo_complete _).mono (by simp) used t rest (Nat.le_refl _) h

end Complete

end RecordBuilders.Syntax.Parser
