import RecordBuilders.Proofs.Text.Word

/-! What normalization does to a text that begins with ASCII characters. It keeps all of them but the
last one, which may take on marks that follow it, and it makes no underscore out of anything that was
composed. -/
namespace RecordBuilders.Text

section Tables

/-- A line of a table is checked as the characters that it consists of. -/
theorem all_hexTable_cons {p : List Nat → Bool} {cs : List Char} {lines : List String}
    (hcs : (hexRowsFrom 0 [] cs).all p = true) (hlines : (hexTable lines).all p = true) :
    (hexTable (String.ofList cs :: lines)).all p = true := by
  have hline : hexRows (String.ofList cs) = hexRowsFrom 0 [] cs := by
    rw [hexRows, String.toList_ofList]
  have hcons : hexTable (String.ofList cs :: lines) = hexRowsFrom 0 [] cs ++ hexTable lines := by
    rw [hexTable, List.flatMap_cons, hline, hexTable]
  rw [hcons, List.all_append, hcs, hlines, Bool.and_self]

theorem of_mem_rangeEntries {q : Nat × Nat × Nat → Bool} {rows : List (List Nat)}
    (h : rows.all (fun row => ( rangeEntry? row).all q) = true) :
    ∀ entry ∈ rows.filterMap rangeEntry?, q entry = true := by
  intro entry he
  obtain ⟨row, hr, hentry⟩ := List.mem_filterMap.mp he
  have hrow := List.all_eq_true.mp h row hr
  rwa [hentry] at hrow

theorem le_of_mem_combiningRanges : ∀ range ∈ combiningRanges, 0x80 ≤ range.1 := by
  have h : ∀ range ∈ combiningRanges, decide (0x80 ≤ range.1) = true := by
    apply of_mem_rangeEntries
    repeat apply all_hexTable_cons (by decide +kernel)
    rfl
  exact fun range hr => of_decide_eq_true (h range hr)

theorem le_of_mem_compositions : ∀ entry ∈ compositions, 0x80 ≤ entry.2.1 ∧ 0x80 ≤ entry.2.2 := by
  have h : ∀ entry ∈ compositions, decide (0x80 ≤ entry.2.1 ∧ 0x80 ≤ entry.2.2) = true := by
    apply of_mem_rangeEntries
    repeat apply all_hexTable_cons (by decide +kernel)
    rfl
  exact fun entry he => of_decide_eq_true (h entry he)

end Tables

theorem combiningClass_ascii {c : Char} (h : c.toNat < 0x80) : combiningClass c = 0 := by
  have hn : rangeValue? combiningRanges c.toNat = none := by
    rw [rangeValue?, Option.map_eq_none_iff, List.find?_eq_none]
    rintro ⟨low, high, value⟩ hm
    have hl : 0x80 ≤ low := le_of_mem_combiningRanges _ hm
    simp only [Bool.and_eq_true, decide_eq_true_eq, not_and]
    omega
  simp [combiningClass, hn]

theorem compatibleParts_ascii {c : Char} (h : c.toNat < 0x80) : compatibleParts c = [c] := by
  simp [compatibleParts, h]

theorem flatMap_compatibleParts_ascii {cs : List Char} (h : ∀ c ∈ cs, c.toNat < 0x80) :
    cs.flatMap compatibleParts = cs := by
  induction cs with
  | nil => rfl
  | cons c cs ih =>
    obtain ⟨hc, hcs⟩ := List.forall_mem_cons.mp h
    rw [List.flatMap_cons, compatibleParts_ascii hc, ih hcs, List.singleton_append]

theorem composeSyllable?_ascii {a b : Nat} (h : b < 0x80) : composeSyllable? a b = none := by
  unfold composeSyllable?
  have hv : ¬firstVowel ≤ b := by
    unfold firstVowel
    omega
  have ht : ¬noTrailing < b := by
    unfold noTrailing
    omega
  rw [if_neg fun h => hv h.2.2.1, if_neg fun h => ht h.2.2.1]

/-- Nothing takes an ASCII character for a mark. -/
theorem composePair?_ascii {a b : Char} (h : b.toNat < 0x80) : composePair? a b = none := by
  unfold composePair?
  split
  · rename_i first second composite hf
    have hs : 0x80 ≤ second := (le_of_mem_compositions _ (List.mem_of_find?_eq_some hf)).1
    have he := List.find?_some hf
    simp only [Bool.and_eq_true, beq_iff_eq] at he
    omega
  · rw [composeSyllable?_ascii h, Option.map_none]

theorem ofNat_ne_underscore {n : Nat} (h : n ≠ 0x5F) : Char.ofNat n ≠ '_' := by
  intro he
  by_cases hv : n.isValidChar
  · have hn : (Char.ofNat n).toNat = n := by
      rw [Char.ofNat, dif_pos hv]
      rfl
    rw [he] at hn
    exact h hn.symm
  · rw [Char.ofNat, dif_neg hv] at he
    exact absurd he (by decide)

theorem lt_of_composeSyllable?_eq_some {a b n : Nat} (h : composeSyllable? a b = some n) :
    0x5F < n := by
  have hfirst : 0x5F < firstSyllable := by decide
  unfold composeSyllable? at h
  split at h
  · have hn := Option.some.inj h
    omega
  · split at h
    · rename_i hs
      have hn := Option.some.inj h
      have hs := hs.1
      simp only [isSyllable, Bool.and_eq_true, decide_eq_true_eq] at hs
      omega
    · cases h

/-- No composite is an underscore. -/
theorem composePair?_ne_underscore {a b composite : Char} (h : composePair? a b = some composite) :
    composite ≠ '_' := by
  unfold composePair? at h
  split at h
  · rename_i first second value hf
    cases h
    have hv : 0x80 ≤ value := (le_of_mem_compositions _ (List.mem_of_find?_eq_some hf)).2
    exact ofNat_ne_underscore (by omega)
  · obtain ⟨n, hn, rfl⟩ := Option.map_eq_some_iff.mp h
    exact ofNat_ne_underscore (Nat.ne_of_gt (lt_of_composeSyllable?_eq_some hn))

theorem orderMarks_ascii_append {cs ds : List Char} (h : ∀ c ∈ cs, c.toNat < 0x80) :
    orderMarks (cs ++ ds) = cs ++ orderMarks ds := by
  induction cs with
  | nil => rfl
  | cons c cs ih =>
    obtain ⟨hc, hcs⟩ := List.forall_mem_cons.mp h
    have hfront (es : List Char) : insertMark c es = c :: es := by
      cases es with
      | nil => rfl
      | cons e es => simp [insertMark, combiningClass_ascii hc]
    calc orderMarks (c :: cs ++ ds) = insertMark c (orderMarks (cs ++ ds)) := rfl
      _ = c :: (cs ++ orderMarks ds) := by rw [hfront, ih hcs]

/-- The first of several ASCII characters stays as it is. -/
theorem composeFrom_ascii {c d : Char} {cs : List Char} (h : d.toNat < 0x80) :
    composeFrom c [] (d :: cs) = c :: composeFrom d [] cs := by
  simp [composeFrom, isBlocked, composePair?_ascii h, combiningClass_ascii h]

/-- What a starter becomes is no underscore unless it was one. -/
theorem composeFrom_head (starter : Char) (between cs : List Char) :
    ∃ first rest, composeFrom starter between cs = first :: rest ∧
      (first = starter ∨ first ≠ '_') := by
  induction cs generalizing starter between with
  | nil => exact ⟨starter, between, rfl, Or.inl rfl⟩
  | cons c cs ih =>
    unfold composeFrom
    split
    · rename_i composite hc
      obtain ⟨first, rest, he, hf⟩ := ih composite between
      refine ⟨first, rest, he, Or.inr ?_⟩
      rcases hf with rfl | hf
      · split at hc
        · cases hc
        · exact composePair?_ne_underscore hc
      · exact hf
    · split
      · exact ⟨starter, between ++ composeFrom c [] cs, rfl, Or.inl rfl⟩
      · exact ih starter (between ++ [c])

theorem composeFrom_ascii_append {cs ds : List Char} {b c : Char} (hcs : ∀ d ∈ cs, d.toNat < 0x80)
    (hc : c.toNat < 0x80) : composeFrom b [] (cs ++ c :: ds) = b :: cs ++ composeFrom c [] ds := by
  induction cs generalizing b with
  | nil => exact composeFrom_ascii hc
  | cons d cs ih =>
    obtain ⟨hd, hcs⟩ := List.forall_mem_cons.mp hcs
    rw [List.cons_append, composeFrom_ascii hd, ih hcs]
    rfl

/-- Only the last of the ASCII characters at the front can take on marks. -/
theorem compose_ascii_append {cs ds : List Char} {c : Char} (hcs : ∀ d ∈ cs, d.toNat < 0x80)
    (hc : c.toNat < 0x80) : compose (cs ++ c :: ds) = cs ++ composeFrom c [] ds := by
  cases cs with
  | nil => rfl
  | cons b cs => exact composeFrom_ascii_append (List.forall_mem_cons.mp hcs).2 hc

/-- Normalization keeps what stands before the last of the ASCII characters at the front, and makes
no underscore of that one. -/
theorem nfkc_ascii_append {s : String} {cs ds : List Char} {c : Char}
    (hs : s.toList = cs ++ c :: ds) (hcs : ∀ d ∈ cs, d.toNat < 0x80) (hc : c.toNat < 0x80) :
    ∃ first rest, (nfkc s).toList = cs ++ first :: rest ∧ (first = c ∨ first ≠ '_') := by
  unfold nfkc
  split
  · exact ⟨c, ds, hs, Or.inl rfl⟩
  · have hself := flatMap_compatibleParts_ascii hcs
    have hparts : s.toList.flatMap compatibleParts = (cs ++ [c]) ++ ds.flatMap compatibleParts := by
      rw [hs, List.flatMap_append, List.flatMap_cons, compatibleParts_ascii hc, hself,
        List.append_assoc]
    obtain ⟨first, rest, he, hf⟩ :=
      composeFrom_head c [] (orderMarks (ds.flatMap compatibleParts))
    refine ⟨first, rest, ?_, hf⟩
    rw [String.toList_ofList, hparts, orderMarks_ascii_append, List.append_assoc,
      List.singleton_append, compose_ascii_append hcs hc, he]
    intro d hd
    rcases List.mem_append.mp hd with hd | hd
    · exact hcs d hd
    · rwa [List.mem_singleton.mp hd]

end RecordBuilders.Text
