import Mathlib.Data.List.Basic
import RecordBuilders.Json.Reader
import RecordBuilders.Proofs.Success

/-! Where surrogates keep a JSON text from being read: reading stops at one only if one is spelled
out in the text. Main result: `hasSurrogate_of_parse`. -/
namespace RecordBuilders.Json

/-- Somewhere in the text there is the escape of a surrogate. -/
def HasSurrogate (text : List Char) : Prop :=
  ∃ a b c d unit, ['\\', 'u', a, b, c, d] <:+: text ∧ codeUnit? a b c d = some unit ∧
    0xD800 ≤ unit ∧ unit ≤ 0xDFFF

variable {α β : Type} {text rest : List Char}

theorem HasSurrogate.of_suffix (h : HasSurrogate rest) (hs : rest <:+ text) : HasSurrogate text := by
  obtain ⟨a, b, c, d, unit, hi, hunit⟩ := h
  exact ⟨a, b, c, d, unit, hi.trans hs.isInfix, hunit⟩

/-- Reading leaves an end of the text, and stops at a surrogate only if there is one. -/
inductive Within (text : List Char) : Except Failure (α × List Char) → Prop where
  | read {value : α} {rest : List Char} (left : rest <:+ text) : Within text (.ok (value, rest))
  | stopped {f : Failure} (cause : f.fault = .surrogate → HasSurrogate text) :
      Within text (.error f)

namespace Within
variable {x : Except Failure (α × List Char)}

theorem of_suffix (h : Within rest x) (hs : rest <:+ text) : Within text x := by
  cases h with
  | read left => exact .read (left.trans hs)
  | stopped cause => exact .stopped fun hf => (cause hf).of_suffix hs

theorem bind {f : α × List Char → Except Failure (β × List Char)} (h : Within text x)
    (hf : ∀ a rest, rest <:+ text → Within text (f (a, rest))) : Within text (x >>= f) := by
  cases h with
  | read left => exact hf _ _ left
  | stopped cause => exact .stopped cause

theorem map {f : α × List Char → β × List Char} (h : Within text x)
    (hf : ∀ a rest, (f (a, rest)).2 = rest) : Within text (x.map f) := by
  cases h with
  | read left => exact .read (hf _ _ ▸ left)
  | stopped cause => exact .stopped cause

end Within

theorem hasSurrogate_cons {a b c d : Char} {unit : Nat} (h : codeUnit? a b c d = some unit)
    (hs : (isHighSurrogate unit || isLowSurrogate unit) = true) :
    HasSurrogate ('\\' :: 'u' :: a :: b :: c :: d :: rest) := by
  have hrange : 0xD800 ≤ unit ∧ unit ≤ 0xDFFF := by
    simp only [isHighSurrogate, isLowSurrogate, Bool.or_eq_true, decide_eq_true_eq] at hs
    omega
  exact ⟨a, b, c, d, unit, (List.prefix_append _ rest).isInfix, h, hrange⟩

theorem Within.prepend {found : Except Failure (List Char × List Char)} (h : Within rest found)
    (hs : rest <:+ text) (c : Char) : Within text (readString.prepend c found) :=
  (h.of_suffix hs).map fun _ _ => rfl

theorem within_readString (start text : List Char) : Within text (readString start text) := by
  fun_induction readString start text with
  -- Reading stops for another reason.
  | case1 | case3 | case4 | case9 | case10 | case12 | case13 => exact .stopped nofun
  | case2 rest => exact .read (List.suffix_cons _ _)
  | case5 a b c d e rest unit _ low _ _ ih =>
    exact ih.prepend ((List.drop_suffix _ _).trans (List.suffix_append [_, _, _, _, _, _, _] rest)) _
  | case6 a b c d e rest unit hunit low hlow =>
    -- Only behind the first half of a pair the other half is looked for.
    refine .stopped fun _ => hasSurrogate_cons hunit ?_
    cases hhigh : isHighSurrogate unit with
    | true => rfl
    | false => simp [hhigh] at hlow
  | case7 a b c d e rest unit _ _ character _ ih =>
    exact ih.prepend (List.suffix_append [_, _, _, _, _, _] _) _
  | case8 a b c d e rest unit hunit _ hnone =>
    refine .stopped fun _ => hasSurrogate_cons hunit ?_
    unfold ofCodeUnit? at hnone
    split at hnone
    · assumption
    · cases hnone
  | case11 e rest _ _ character _ ih => exact ih.prepend (List.suffix_append [_, _] _) _
  | case14 c rest _ _ _ _ _ _ ih => exact ih.prepend (List.suffix_cons _ _) _

section Values
variable {item : Step Json}

theorem skipBlanks_suffix (text : List Char) : skipBlanks text <:+ text := List.dropWhile_suffix _

/-- A mark behind blanks is passed. -/
theorem suffix_of_skipBlanks {c : Char} {left : List Char} (h : skipBlanks text = c :: left) :
    left <:+ text :=
  (List.suffix_cons c left).trans (h ▸ skipBlanks_suffix text)

/-- What is read behind a mark, and behind further blanks, is read within the text. -/
theorem Within.behind {x : Except Failure (α × List Char)} {c : Char} {left : List Char}
    (h : Within (skipBlanks left) x) (hblank : skipBlanks rest = c :: left) (hs : rest <:+ text) :
    Within text x :=
  h.of_suffix ((skipBlanks_suffix left).trans ((suffix_of_skipBlanks hblank).trans hs))

theorem within_readItems (h : ∀ text, Within text (item text)) (bound : Nat) (text : List Char) :
    Within text (readItems item bound text) := by
  induction bound generalizing text with
  | zero => exact .stopped nofun
  | succ bound ih =>
    refine (h text).bind fun first rest hs => ?_
    dsimp only
    split
    · next hblank => exact .read ((suffix_of_skipBlanks hblank).trans hs)
    · next hblank => exact ((ih _).behind hblank hs).bind fun items rest hs => .read hs
    · exact .stopped nofun

theorem within_readMember (h : ∀ text, Within text (item text)) (text : List Char) :
    Within text (readMember item text) := by
  unfold readMember
  split
  · next left =>
    refine ((within_readString _ left).of_suffix (List.suffix_cons _ _)).bind fun name rest hs => ?_
    dsimp only
    split
    · next hblank => exact ((h _).behind hblank hs).bind fun value rest hs => .read hs
    · exact .stopped nofun
  · exact .stopped nofun

theorem within_readMembers (h : ∀ text, Within text (item text)) (bound : Nat) (text : List Char) :
    Within text (readMembers item bound text) := by
  induction bound generalizing text with
  | zero => exact .stopped nofun
  | succ bound ih =>
    refine (within_readMember h text).bind fun first rest hs => ?_
    dsimp only
    split
    · next hblank => exact .read ((suffix_of_skipBlanks hblank).trans hs)
    · next hblank => exact ((ih _).behind hblank hs).bind fun items rest hs => .read hs
    · exact .stopped nofun

theorem suffix_of_readConstant? {v : Json} (h : readConstant? text = some (v, rest)) :
    rest <:+ text := by
  obtain ⟨⟨word, value⟩, _, hr⟩ := List.exists_of_findSome?_eq_some h
  obtain ⟨left, hprefix, he⟩ := Option.map_eq_some_iff.mp hr
  cases he
  exact ⟨word.toList, List.append_eq_of_isPrefixOf?_eq_some hprefix⟩

/-- What may be missing at the front of a text leaves an end of it. -/
theorem suffix_getD {found? : Option (α × List Char)} (h : ∀ found ∈ found?, found.2 <:+ text)
    (a : α) : (found?.getD (a, text)).2 <:+ text := by
  cases found? with
  | none => exact List.suffix_rfl
  | some found => exact h found rfl

theorem suffix_of_splitDigits {digits : List Char} (h : splitDigits text = (digits, rest)) :
    rest <:+ text := by
  cases h
  exact List.dropWhile_suffix _

theorem suffix_of_readFraction? (text : List Char) :
    ∀ found ∈ readFraction? text, found.2 <:+ text := by
  intro found h
  unfold readFraction? at h
  split at h
  · next left =>
    split at h
    · cases h
    · cases h
      exact (List.dropWhile_suffix _).trans (List.suffix_cons _ _)
  · cases h

theorem suffix_of_readExponent? (text : List Char) :
    ∀ found ∈ readExponent? text, found.2 <:+ text := by
  intro found h
  unfold readExponent? at h
  split at h
  · next c left =>
    split at h
    · split at h
      next negative unsigned hsign =>
      have hunsigned : unsigned <:+ c :: left := by
        split at hsign
        · cases hsign
          exact List.suffix_append [_, _] _
        · cases hsign
          exact List.suffix_append [_, _] _
        · cases hsign
          exact List.suffix_cons _ _
      split at h
      · cases h
      · next hsplit =>
        cases h
        exact (suffix_of_splitDigits hsplit).trans hunsigned
    · cases h
  · cases h

theorem suffix_of_readIntegral? (text : List Char) :
    ∀ found ∈ readIntegral? text, found.2 <:+ text := by
  intro found h
  unfold readIntegral? at h
  split at h
  · cases h
    exact List.suffix_cons _ _
  · split at h
    · cases h
    · cases h
      exact List.dropWhile_suffix _

theorem suffix_of_readNumber? {v : Json} (h : readNumber? text = some (v, rest)) :
    rest <:+ text := by
  unfold readNumber? at h
  split at h
  next negative unsigned hsign =>
  have hunsigned : unsigned <:+ text := by
    split at hsign
    · cases hsign
      exact List.suffix_cons _ _
    · cases hsign
      exact List.suffix_rfl
  obtain ⟨⟨integral, left⟩, hintegral, h⟩ := Option.bind_eq_some_iff.mp h
  have hleft : left <:+ text := (suffix_of_readIntegral? _ _ hintegral).trans hunsigned
  have hfraction := suffix_getD (suffix_of_readFraction? left) []
  have hexponent := suffix_getD (suffix_of_readExponent? ((readFraction? left).getD ([], left)).2) 0
  have hrest := hexponent.trans (hfraction.trans hleft)
  dsimp only at h
  split at h
  · cases h
    exact hrest
  · cases h
    exact hrest

theorem suffix_of_front {v : Json} (h : (readConstant? text <|> readNumber? text) = some (v, rest)) :
    rest <:+ text := by
  cases hc : readConstant? text with
  | some constant =>
    rw [hc] at h
    cases h
    exact suffix_of_readConstant? hc
  | none =>
    rw [hc] at h
    exact suffix_of_readNumber? h

theorem within_readValue (depth : Nat) (text : List Char) :
    Within text (readValue depth text) := by
  induction depth generalizing text with
  | zero => exact .stopped nofun
  | succ depth ih =>
    unfold readValue
    split
    · next left =>
      exact ((within_readString _ left).of_suffix (List.suffix_cons _ _)).bind
        fun value rest hs => .read hs
    · next left =>
      split
      · next hblank => exact .read ((suffix_of_skipBlanks hblank).trans (List.suffix_cons _ _))
      · have hs := (skipBlanks_suffix left).trans (List.suffix_cons '\x7b' left)
        exact ((within_readMembers ih _ _).of_suffix hs).bind fun members rest hs => .read hs
    · next left =>
      split
      · next hblank => exact .read ((suffix_of_skipBlanks hblank).trans (List.suffix_cons _ _))
      · have hs := (skipBlanks_suffix left).trans (List.suffix_cons '[' left)
        exact ((within_readItems ih _ _).of_suffix hs).bind fun items rest hs => .read hs
    · split
      · next hfound =>
        dsimp only
        split
        · exact .read (suffix_of_front hfound)
        · exact .stopped nofun
      · next found _ hfound => exact .read (suffix_of_front hfound)
      · exact .stopped nofun

theorem hasSurrogate_of_parse {e : ReadError} (h : parse text = .error e)
    (he : e.fault = .surrogate) : HasSurrogate text := by
  obtain ⟨f, hf, rfl⟩ := mapError_eq_error_iff.mp h
  unfold readText at hf
  split at hf
  · cases hf
    cases he
  · have hvalue := (within_readValue (text.length + 1) _).of_suffix (skipBlanks_suffix text)
    rcases bind_eq_error_iff.mp hf with hf | ⟨⟨value, rest⟩, _, hf⟩
    · rw [hf] at hvalue
      cases hvalue with
      | stopped cause => exact cause he
    · dsimp only at hf
      split at hf
      · cases hf
      · cases hf
        cases he

end Values

end RecordBuilders.Json
