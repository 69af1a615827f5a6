import RecordBuilders.CommandLine.Run
import RecordBuilders.Proofs.Config.Acceptance
import RecordBuilders.Proofs.Json.Surrogates
import RecordBuilders.Proofs.Target.SourceModule

/-! What a run makes of the files that it is given: a configuration, and for each source its
declarations or one diagnostic, up to the first source that ends the command. -/
namespace RecordBuilders.Command
open Syntax Target Text

variable {s : Stack} {t : FileTree} {path : Path} {paths : List Path} {text : List Char}

/-- The file at the path can be read, and its content is this text. -/
inductive HoldsText (t : FileTree) (path : Path) : List Char → Prop where
  | mk {content : List UInt8} {text : List Char} (nul : path.hasNul = false)
      (read : t.read path = .ok content) (decoded : readFileText content = .ok text) :
      HoldsText t path text

theorem textAt_eq_ok_iff : textAt t.read path = .ok text ↔ HoldsText t path text := by
  rw [textAt]
  constructor
  · intro h
    split at h
    · cases h
    · next hnul =>
      obtain ⟨content, hread, h⟩ := bind_eq_ok_iff.mp h
      exact .mk (Bool.eq_false_iff.mpr hnul) (mapError_eq_ok_iff.mp hread) (mapError_eq_ok_iff.mp h)
  · rintro ⟨nul, read, decoded⟩
    simp [nul, read, decoded, Except.mapError, bind, Except.bind]

theorem HoldsText.unique {text' : List Char} (h : HoldsText t path text)
    (h' : HoldsText t path text') : text = text' :=
  Except.ok.inj ((textAt_eq_ok_iff.mpr h).symm.trans (textAt_eq_ok_iff.mpr h'))

section Configuration
variable {supplied : Option Supplied} {c : Config}

/-- The configuration that is asked for: the conventional one, or one that a file holds. -/
inductive Loads (s : Stack) (t : FileTree) : Option Supplied → Config → Prop where
  | default : Loads s t none .default
  | file {path : Path} {text : List Char} {c : Config} (holds : HoldsText t path text)
      (room : s.decodes text = true) (valid : Config.ofText text = .ok c) :
      Loads s t (some (.path path)) c

/-- The configuration file holds a text that there is no room for. -/
inductive Overruns (s : Stack) (t : FileTree) : Option Supplied → Prop where
  | file {path : Path} {text : List Char} (holds : HoldsText t path text)
      (full : s.decodes text = false) : Overruns s t (some (.path path))

/-- If there are surrogates in the configuration file, none of them keeps it from being read. -/
def Paired (t : FileTree) (supplied : Option Supplied) : Prop :=
  ∀ path text, supplied = some (.path path) → HoldsText t path text → Json.HasSurrogate text →
    ∀ e, Config.ofText text = .error e → e.isSurrogate = false

theorem hasSurrogate_of_ofText {e : ConfigError} (h : Config.ofText text = .error e)
    (he : e.isSurrogate = true) : Json.HasSurrogate text := by
  rcases bind_eq_error_iff.mp h with h | ⟨doc, _, h⟩
  · obtain ⟨error, herror, rfl⟩ := mapError_eq_error_iff.mp h
    exact Json.hasSurrogate_of_parse herror (by simpa [ConfigError.isSurrogate] using he)
  · cases e with
    | malformed error => exact absurd rfl (Config.ofJson_ne_malformed h error)
    | _ => cases he

theorem Loads.unique {c' : Config} (h : Loads s t supplied c) (h' : Loads s t supplied c') :
    c = c' := by
  cases h with
  | default =>
    cases h'
    rfl
  | file holds room valid =>
    obtain _ | ⟨holds', _, valid'⟩ := h'
    cases holds.unique holds'
    exact Except.ok.inj (valid.symm.trans valid')

theorem Loads.not_dropped (h : Loads s t supplied c) : supplied ≠ some .dropped := by
  rintro rfl
  cases h

theorem Loads.not_overruns (h : Loads s t supplied c) : ¬Overruns s t supplied := by
  rintro ⟨holds, full⟩
  obtain _ | ⟨holds', room, _⟩ := h
  cases holds.unique holds'
  cases full.symm.trans room

theorem Overruns.not_dropped (h : Overruns s t supplied) : supplied ≠ some .dropped := by
  rintro rfl
  cases h

/-- A file holds a configuration, or a text that is too deep, or it is reported. -/
theorem configAt_cases (hp : Paired t (some (.path path))) :
    (∃ c, Loads s t (some (.path path)) c ∧ configAt s t.read path = .ok (.ok c)) ∨
      Overruns s t (some (.path path)) ∧ configAt s t.read path = .error .overflow ∨
      (∀ c, ¬Loads s t (some (.path path)) c) ∧ ¬Overruns s t (some (.path path)) ∧
        ∃ message, configAt s t.read path = .ok (.error (configDiagnostic path message)) := by
  unfold configAt
  cases htext : textAt t.read path with
  | error message =>
    have hnone (text : List Char) : ¬HoldsText t path text := fun holds => by
      cases htext.symm.trans (textAt_eq_ok_iff.mpr holds)
    refine Or.inr (Or.inr ⟨?_, ?_, message, rfl⟩)
    · rintro c ⟨⟩
      exact hnone _ ‹_›
    · rintro ⟨holds, _⟩
      exact hnone _ holds
  | ok text =>
    have hholds : HoldsText t path text := textAt_eq_ok_iff.mp htext
    cases hroom : s.decodes text with
    | false => exact Or.inr (Or.inl ⟨.file hholds hroom, by simp [hroom]⟩)
    | true =>
      cases hvalid : Config.ofText text with
      | ok c => exact Or.inl ⟨c, .file hholds hroom hvalid, by simp [hroom, hvalid]⟩
      | error e =>
        have hpaired : e.isSurrogate = false := by
          by_contra hsurrogate
          have hsurrogate : e.isSurrogate = true := Bool.eq_true_of_not_eq_false hsurrogate
          have hhas := hasSurrogate_of_ofText hvalid hsurrogate
          cases (hp path text rfl hholds hhas e hvalid).symm.trans hsurrogate
        refine Or.inr (Or.inr ⟨?_, ?_, e.message, by simp [hroom, hvalid, hpaired]⟩)
        · rintro c (_ | ⟨holds, _, valid⟩)
          cases hholds.unique holds
          cases hvalid.symm.trans valid
        · rintro ⟨holds, full⟩
          cases hholds.unique holds
          cases hroom.symm.trans full

end Configuration

section Sources

/-- The declarations of a source, put down to its name. -/
inductive Declares (s : Stack) (t : FileTree) (path : Path) : List Item → Prop where
  | mk {text : List Char} {ds : List Declaration} (holds : HoldsText t path text)
      (parsed : parse (String.ofList text) = .ok ds) (room : ∀ d ∈ ds, s.builds d = true) :
      Declares s t path (ds.map (⟨·, some path.text⟩))

/-- A source that cannot be read or parsed, and what is reported of it. -/
inductive Fails (t : FileTree) (path : Path) : Diagnostic → Prop where
  | unreadable {fault : FileFault} (nul : path.hasNul = false) (read : t.read path = .error fault) :
      Fails t path {
        message := fault.message path
        code := some "E-IO"
        phase := some "parser"
        span := { file := some path.text } }
  | unparsed {text : List Char} {e : SyntaxError} (holds : HoldsText t path text)
      (parsed : parse (String.ofList text) = .error e) : Fails t path {
        message := e.message
        code := some "E-PARSE"
        phase := some "parser"
        span := ⟨some path.text, some e.position.line, some e.position.column⟩ }

/-- There is room for each declaration of the source. -/
def Fits (s : Stack) (t : FileTree) (path : Path) : Prop :=
  ∀ text ds, HoldsText t path text → parse (String.ofList text) = .ok ds →
    ∀ d ∈ ds, s.builds d = true

/-- If there is a file at the path, it is a text. -/
structure IsText (t : FileTree) (path : Path) : Prop where
  nul : path.hasNul = false
  decodes : ∀ content, t.read path = .ok content → ∃ text, readFileText content = .ok text

/-- A text that there is room for. -/
structure Legible (s : Stack) (t : FileTree) (path : Path) : Prop extends IsText t path where
  fits : Fits s t path

/-- How a source that is not legible ends the command. -/
inductive Illegible (s : Stack) (t : FileTree) (path : Path) : Escape → Prop where
  | senseless (nul : path.hasNul = true) : Illegible s t path .nulInPath
  | undecodable {content : List UInt8} {e : Utf8.DecodeError} (nul : path.hasNul = false)
      (read : t.read path = .ok content) (decoded : readFileText content = .error e) :
      Illegible s t path (.undecodable e)
  | overflow {text : List Char} {ds : List Declaration} {d : Declaration}
      (holds : HoldsText t path text) (parsed : parse (String.ofList text) = .ok ds) (mem : d ∈ ds)
      (full : s.builds d = false) : Illegible s t path .overflow

/-- The items of all sources that can be read and parsed, and one diagnostic for each of the
others, both in the order of the sources. -/
inductive Reads (s : Stack) (t : FileTree) : List Path → List Item → Diagnostics → Prop where
  | nil : Reads s t [] [] []
  | good {path : Path} {paths : List Path} {own items : List Item} {ds : Diagnostics}
      (head : Declares s t path own) (tail : Reads s t paths items ds) :
      Reads s t (path :: paths) (own ++ items) ds
  | bad {path : Path} {paths : List Path} {d : Diagnostic} {items : List Item} {ds : Diagnostics}
      (head : Fails t path d) (tail : Reads s t paths items ds) :
      Reads s t (path :: paths) items (d :: ds)

/-- The sources are gone through up to the first one that is not legible. -/
inductive BreaksOff (s : Stack) (t : FileTree) : List Path → Escape → Prop where
  | here {path : Path} {paths : List Path} {e : Escape} (head : Illegible s t path e) :
      BreaksOff s t (path :: paths) e
  | good {path : Path} {paths : List Path} {own : List Item} {e : Escape}
      (head : Declares s t path own) (tail : BreaksOff s t paths e) : BreaksOff s t (path :: paths) e
  | bad {path : Path} {paths : List Path} {d : Diagnostic} {e : Escape} (head : Fails t path d)
      (tail : BreaksOff s t paths e) : BreaksOff s t (path :: paths) e

/-- The line tells of a source that has been parsed, and of nothing else. -/
def TellsParsed (l : LogLine) : Prop := ∃ count file, l = .parsed count file

variable {own items : List Item} {d : Diagnostic} {ds : Diagnostics} {e : Escape}

theorem Illegible.not_legible (h : Illegible s t path e) : ¬Legible s t path := by
  rintro ⟨⟨hnul, hdecodes⟩, hfits⟩
  cases h with
  | senseless nul => cases nul.symm.trans hnul
  | undecodable nul read decoded =>
    obtain ⟨text, htext⟩ := hdecodes _ read
    cases decoded.symm.trans htext
  | overflow holds parsed mem full => cases full.symm.trans (hfits _ _ holds parsed _ mem)

theorem Declares.legible (h : Declares s t path own) : Legible s t path := by
  obtain ⟨⟨nul, read, decoded⟩, parsed, room⟩ := id h
  refine ⟨⟨nul, fun content hread => ?_⟩, fun text ds hholds hparsed => ?_⟩
  · cases read.symm.trans hread
    exact ⟨_, decoded⟩
  · cases hholds.unique (.mk nul read decoded)
    cases parsed.symm.trans hparsed
    exact room

theorem Fails.legible (h : Fails t path d) : Legible s t path := by
  cases h with
  | unreadable nul read =>
    refine ⟨⟨nul, fun content hread => ?_⟩, fun text ds hholds => ?_⟩
    · cases read.symm.trans hread
    · obtain ⟨_, hread, _⟩ := hholds
      cases read.symm.trans hread
  | unparsed holds parsed =>
    refine ⟨⟨?_, fun content hread => ?_⟩, fun text ds hholds hparsed => ?_⟩
    · cases holds with
      | mk nul => exact nul
    · obtain ⟨_, read, decoded⟩ := holds
      cases read.symm.trans hread
      exact ⟨_, decoded⟩
    · cases hholds.unique holds
      cases parsed.symm.trans hparsed

/-- A source declares something, fails, or ends the command. -/
theorem declares_or_fails_or_illegible (s : Stack) (t : FileTree) (path : Path) :
    (∃ own, Declares s t path own) ∨ (∃ d, Fails t path d) ∨ ∃ e, Illegible s t path e := by
  cases hnul : path.hasNul with
  | true => exact Or.inr (Or.inr ⟨_, .senseless hnul⟩)
  | false =>
    cases hread : t.read path with
    | error fault => exact Or.inr (Or.inl ⟨_, .unreadable hnul hread⟩)
    | ok content =>
      cases htext : readFileText content with
      | error e => exact Or.inr (Or.inr ⟨_, .undecodable hnul hread htext⟩)
      | ok text =>
        have hholds : HoldsText t path text := .mk hnul hread htext
        cases hparse : parse (String.ofList text) with
        | error e => exact Or.inr (Or.inl ⟨_, .unparsed hholds hparse⟩)
        | ok ds =>
          by_cases hroom : ∀ d ∈ ds, s.builds d = true
          · exact Or.inl ⟨_, .mk hholds hparse hroom⟩
          · obtain ⟨d, hd, hfull⟩ : ∃ d ∈ ds, s.builds d = false := by simpa using hroom
            exact Or.inr (Or.inr ⟨_, .overflow hholds hparse hd hfull⟩)

theorem reads_or_breaksOff (s : Stack) (t : FileTree) (paths : List Path) :
    (∃ items ds, Reads s t paths items ds) ∨ ∃ e, BreaksOff s t paths e := by
  induction paths with
  | nil => exact Or.inl ⟨[], [], .nil⟩
  | cons path paths ih =>
    rcases declares_or_fails_or_illegible s t path with ⟨own, hown⟩ | ⟨d, hd⟩ | ⟨e, he⟩
    · rcases ih with ⟨items, ds, htail⟩ | ⟨e, htail⟩
      · exact Or.inl ⟨_, _, .good hown htail⟩
      · exact Or.inr ⟨e, .good hown htail⟩
    · rcases ih with ⟨items, ds, htail⟩ | ⟨e, htail⟩
      · exact Or.inl ⟨_, _, .bad hd htail⟩
      · exact Or.inr ⟨e, .bad hd htail⟩
    · exact Or.inr ⟨e, .here he⟩

theorem Reads.legible (h : Reads s t paths items ds) : ∀ path ∈ paths, Legible s t path := by
  induction h with
  | nil => simp
  | good head _ ih => exact List.forall_mem_cons.mpr ⟨head.legible, ih⟩
  | bad head _ ih => exact List.forall_mem_cons.mpr ⟨head.legible, ih⟩

theorem BreaksOff.exists_not_legible (h : BreaksOff s t paths e) :
    ∃ path ∈ paths, ¬Legible s t path := by
  induction h with
  | here head => exact ⟨_, List.mem_cons_self, head.not_legible⟩
  | good _ _ ih | bad _ _ ih =>
    obtain ⟨path, hp, hpath⟩ := ih
    exact ⟨path, List.mem_cons_of_mem _ hp, hpath⟩

theorem BreaksOff.exists_illegible (h : BreaksOff s t paths e) :
    ∃ path ∈ paths, Illegible s t path e := by
  induction h with
  | here head => exact ⟨_, List.mem_cons_self, head⟩
  | good _ _ ih | bad _ _ ih =>
    obtain ⟨path, hp, hpath⟩ := ih
    exact ⟨path, List.mem_cons_of_mem _ hp, hpath⟩

/-- Sources all of which are legible yield their items and diagnostics. -/
theorem exists_reads_of_legible (h : ∀ path ∈ paths, Legible s t path) :
    ∃ items ds, Reads s t paths items ds := by
  rcases reads_or_breaksOff s t paths with hreads | ⟨e, he⟩
  · exact hreads
  · obtain ⟨path, hp, hpath⟩ := he.exists_not_legible
    exact absurd (h path hp) hpath

theorem exists_breaksOff_iff :
    (∃ e, BreaksOff s t paths e) ↔ ∃ path ∈ paths, ¬Legible s t path := by
  constructor
  · rintro ⟨e, he⟩
    exact he.exists_not_legible
  · rintro ⟨path, hp, hpath⟩
    rcases reads_or_breaksOff s t paths with ⟨items, ds, hreads⟩ | he
    · exact absurd (hreads.legible path hp) hpath
    · exact he

end Sources

section Loading
variable {own items : List Item} {d : Diagnostic} {ds : Diagnostics} {e : Escape}

theorem loadSources_of_declares (h : Declares s t path own) (paths : List Path) :
    loadSources s t.read (path :: paths) =
      let rest := loadSources s t.read paths
      ({ rest.1 with
          items := own ++ rest.1.items
          log := .parsed own.length path.text :: rest.1.log }, rest.2) := by
  obtain ⟨⟨nul, read, decoded⟩, parsed, room⟩ := h
  have hon : parseOn s _ = .ok (.ok _) := parseOn_eq_ok_ok_iff.mpr ⟨parsed, room⟩
  simp [loadSources, nul, read, readSourceFile, decoded, hon, Except.mapError, bind, Except.bind,
    pure, Except.pure]

theorem loadSources_of_fails (h : Fails t path d) (paths : List Path) :
    loadSources s t.read (path :: paths) =
      let rest := loadSources s t.read paths
      ({ rest.1 with diagnostics := d :: rest.1.diagnostics }, rest.2) := by
  cases h with
  | unreadable nul read => simp [loadSources, nul, read, fileDiagnostic]
  | unparsed holds parsed =>
    obtain ⟨nul, read, decoded⟩ := holds
    have hon : parseOn s _ = .ok (.error _) := parseOn_eq_ok_error_iff.mpr parsed
    simp [loadSources, nul, read, readSourceFile, decoded, hon, SyntaxError.diagnostic,
      Except.mapError, bind, Except.bind, pure, Except.pure]

theorem loadSources_of_illegible (h : Illegible s t path e) (paths : List Path) :
    loadSources s t.read (path :: paths) = ({}, some e) := by
  cases h with
  | senseless nul => simp [loadSources, nul]
  | undecodable nul read decoded =>
    simp [loadSources, nul, read, readSourceFile, decoded, Except.mapError, bind, Except.bind,
      Escape.ofReadFault]
  | overflow holds parsed mem full =>
    obtain ⟨nul, read, decoded⟩ := holds
    have hon : parseOn s _ = .error {} := parseOn_eq_error_iff.mpr ⟨_, parsed, _, mem, full⟩
    simp [loadSources, nul, read, readSourceFile, decoded, hon, Except.mapError, bind, Except.bind,
      Escape.ofReadFault]

theorem loadSources_of_reads (h : Reads s t paths items ds) :
    ∃ log, loadSources s t.read paths = (⟨items, ds, log⟩, none) := by
  induction h with
  | nil => exact ⟨[], rfl⟩
  | @good _ paths _ _ _ head _ ih =>
    obtain ⟨log, hlog⟩ := ih
    exact ⟨_ :: log, by rw [loadSources_of_declares head paths, hlog]⟩
  | @bad _ paths _ _ _ head _ ih =>
    obtain ⟨log, hlog⟩ := ih
    exact ⟨log, by rw [loadSources_of_fails head paths, hlog]⟩

/-- Of the sources in front nothing is left but what the log says of them. -/
theorem loadSources_of_breaksOff (h : BreaksOff s t paths e) : ∃ loaded,
    loadSources s t.read paths = (loaded, some e) ∧ ∀ l ∈ loaded.log, TellsParsed l := by
  induction h with
  | here head => exact ⟨{}, loadSources_of_illegible head _, by simp⟩
  | good head _ ih =>
    obtain ⟨loaded, hloaded, hlog⟩ := ih
    refine ⟨_, by rw [loadSources_of_declares head, hloaded], ?_⟩
    exact List.forall_mem_cons.mpr ⟨⟨_, _, rfl⟩, hlog⟩
  | @bad _ _ d _ head _ ih =>
    obtain ⟨loaded, hloaded, hlog⟩ := ih
    refine ⟨{ loaded with diagnostics := d :: loaded.diagnostics }, ?_, hlog⟩
    rw [loadSources_of_fails head, hloaded]

/-- What the sources yield is settled by them. -/
theorem Reads.unique {items' : List Item} {ds' : Diagnostics} (h : Reads s t paths items ds)
    (h' : Reads s t paths items' ds') : items = items' ∧ ds = ds' := by
  obtain ⟨log, hlog⟩ := loadSources_of_reads h
  obtain ⟨log', hlog'⟩ := loadSources_of_reads h'
  cases hlog.symm.trans hlog'
  exact ⟨rfl, rfl⟩

theorem BreaksOff.unique {e' : Escape} (h : BreaksOff s t paths e) (h' : BreaksOff s t paths e') :
    e = e' := by
  obtain ⟨loaded, hloaded, _⟩ := loadSources_of_breaksOff h
  obtain ⟨loaded', hloaded', _⟩ := loadSources_of_breaksOff h'
  cases hloaded.symm.trans hloaded'
  rfl

theorem Reads.not_breaksOff (h : Reads s t paths items ds) : ¬BreaksOff s t paths e := by
  intro he
  obtain ⟨path, hp, hpath⟩ := he.exists_not_legible
  exact hpath (h.legible path hp)

theorem Reads.exists_source (h : Reads s t paths items ds) : ∀ item ∈ items,
    ∃ path ∈ paths, ∃ text declarations, HoldsText t path text ∧
      parse (String.ofList text) = .ok declarations ∧ item.declaration ∈ declarations := by
  induction h with
  | nil => simp
  | bad _ _ ih =>
    intro item hi
    obtain ⟨path, hp, hitem⟩ := ih item hi
    exact ⟨path, List.mem_cons_of_mem _ hp, hitem⟩
  | good head _ ih =>
    obtain ⟨holds, parsed, _⟩ := head
    intro item hi
    rcases List.mem_append.mp hi with hi | hi
    · obtain ⟨d, hd, rfl⟩ := List.mem_map.mp hi
      exact ⟨_, List.mem_cons_self, _, _, holds, parsed, hd⟩
    · obtain ⟨path, hp, hitem⟩ := ih item hi
      exact ⟨path, List.mem_cons_of_mem _ hp, hitem⟩

theorem Reads.fromSource (h : Reads s t paths items ds) :
    ∀ item ∈ items, item.declaration.FromSource := by
  intro item hi
  obtain ⟨_, _, _, _, _, parsed, hd⟩ := h.exists_source item hi
  exact ⟨_, _, parsed, hd⟩

theorem Fails.file_eq (h : Fails t path d) : d.span.file = some path.text := by
  cases h with
  | unreadable => rfl
  | unparsed => rfl

/-- Every source that fails is reported, whatever the others are. -/
theorem Reads.mem_of_fails (h : Reads s t paths items ds) (hp : path ∈ paths)
    (hd : Fails t path d) : d ∈ ds := by
  -- By itself, a source has one outcome.
  have halone : Reads s t [path] [] [d] := .bad hd .nil
  induction h with
  | nil => cases hp
  | @good first _ own _ _ head _ ih =>
    rcases List.mem_cons.mp hp with rfl | hp
    · have hds : [d] = [] := (halone.unique (.good head .nil)).2
      cases hds
    · exact ih hp
  | @bad first _ other _ _ head _ ih =>
    rcases List.mem_cons.mp hp with rfl | hp
    · have hds : [d] = [other] := (halone.unique (.bad head .nil)).2
      cases hds
      exact List.mem_cons_self
    · exact List.mem_cons_of_mem _ (ih hp)

end Loading

end RecordBuilders.Command
