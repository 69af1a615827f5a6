import RecordBuilders.Proofs.CommandLine.Outcome

/-! Sources that end the command instead of being reported: those whose path makes no sense, those
that are not valid UTF-8 and those that there is no room for. Main result: `run_without_output`. -/
namespace RecordBuilders.Command
open Syntax Target Text

variable {s : Stack} {t : FileTree} {o : Options} {r : Report × FileTree}

/-- The two exit codes of a run that is told where it stands. -/
def ExitsOrderly (r : Report) : Prop := r.exit = .ok 0 ∨ r.exit = .ok 1

theorem not_exitsOrderly {e : Escape} {out err : String} : ¬ExitsOrderly ⟨.error e, out, err⟩ := by
  intro h
  cases h with
  | inl h => cases h
  | inr h => cases h

/-- Nothing keeps the command from an exit code: each source is legible, and there is room for what
their declarations come to. -/
structure Proceeds (s : Stack) (t : FileTree) (o : Options) (c : Config) : Prop where
  legible : ∀ path ∈ o.sources, Legible s t path
  room : ∀ items, Reads s t o.sources items [] → ∃ r, generateOn s c items = .ok r

theorem proceeds_of_reads {c : Config} {items : List Item} {ds : Diagnostics}
    (hr : Reads s t o.sources items ds) (hroom : ds = [] → ∃ r, generateOn s c items = .ok r) :
    Proceeds s t o c where
  legible := hr.legible
  room items' hr' := by
    obtain ⟨hitems, hds⟩ := hr.unique hr'
    obtain ⟨r, hg⟩ := hroom hds
    exact ⟨r, hitems ▸ hg⟩

theorem Shallow.proceeds_iff (h : Shallow s.depth t o) (c : Config) :
    Proceeds s t o c ↔ ∀ path ∈ o.sources, IsText t path :=
  ⟨fun hp path hmem => (hp.legible path hmem).toIsText, fun htext =>
    { legible := fun path hmem => ⟨htext path hmem, h.fits hmem⟩
      room := fun _ hr => ⟨_, h.generateOn_eq hr c⟩ }⟩

theorem Ends.tree_eq (h : Ends s t o r) (hout : o.output = none) : r.2 = t := by
  cases h with
  | misconfigured | overrun | unconfigured | brokenOff | faulty | refused | overflowed | stuck => rfl
  | delivered makes writable delivered =>
    cases delivered with
    | checked | printed => rfl
    | written check output => cases hout.symm.trans output

/-- Each of the ways to end has an exit code or is one of the three that are without one. -/
theorem Ends.exitsOrderly_iff (h : Ends s t o r) (hout : o.output = none) :
    ExitsOrderly r.1 ↔ o.config ≠ some .dropped ∧ ¬Overruns s t o.config ∧
      ∀ c, Loads s t o.config c → Proceeds s t o c := by
  have hsame {c : Config} (hc : Loads s t o.config c) (h : Proceeds s t o c) :
      o.config ≠ some .dropped ∧ ¬Overruns s t o.config ∧
        ∀ c, Loads s t o.config c → Proceeds s t o c :=
    ⟨hc.not_dropped, hc.not_overruns, fun _ hc' => hc.unique hc' ▸ h⟩
  cases h with
  | misconfigured config fails room told =>
    refine iff_of_true (Or.inr told.exit) ⟨?_, room, fun c hc => absurd hc (fails c)⟩
    rw [config]
    rintro ⟨⟩
  | overrun overruns => exact iff_of_false not_exitsOrderly fun hall => hall.2.1 overruns
  | unconfigured config => exact iff_of_false not_exitsOrderly fun hall => hall.1 config
  | brokenOff loads breaks =>
    refine iff_of_false not_exitsOrderly fun hall => ?_
    obtain ⟨path, hp, hnot⟩ := breaks.exists_not_legible
    exact hnot ((hall.2.2 _ loads).legible path hp)
  | faulty loads reads faults told =>
    exact iff_of_true (Or.inr told.exit)
      (hsame loads (proceeds_of_reads reads fun hds => absurd hds faults))
  | refused loads reads refused problems told =>
    exact iff_of_true (Or.inr told.exit)
      (hsame loads (proceeds_of_reads reads fun _ => ⟨_, refused⟩))
  | overflowed loads reads full =>
    refine iff_of_false not_exitsOrderly fun hall => ?_
    obtain ⟨_, hg⟩ := (hall.2.2 _ loads).room _ reads
    cases full.symm.trans hg
  | stuck makes check output => cases hout.symm.trans output
  | delivered makes =>
    obtain ⟨loads, reads, generated⟩ := makes
    exact iff_of_true (Or.inl rfl) (hsame loads (proceeds_of_reads reads fun _ => ⟨_, generated⟩))

/-- A command that writes no file leaves the tree as it is. It has an exit code exactly if there is
room for the configuration and, in case it loads, all sources are legible and there is room for the
module. Then each source that cannot be read or parsed is reported under its own name. A source that
is not legible takes every other source with it: the command ends without an exit code, and what has
been found in the sources before it is lost but for the log. A configuration that does not load is
reported alone, and one whose path was dropped ends the command. There is room for all that is not
nested too deep. -/
theorem run_without_output {s : Stack} {t : FileTree} {arguments : List String} {o : Options}
    (ho : Arguments.read arguments = .ok o) (hout : o.output = none) (hp : Paired t o.config) :
    (run s t arguments).2 = t ∧
    (ExitsOrderly (run s t arguments).1 ↔ o.config ≠ some .dropped ∧ ¬Overruns s t o.config ∧
      ∀ c, Loads s t o.config c → Proceeds s t o c) ∧
    (∀ c, Loads s t o.config c →
      ((∀ path ∈ o.sources, Legible s t path) → ∃ items ds, Reads s t o.sources items ds ∧
        (∀ path ∈ o.sources, ∀ d, Fails t path d → d ∈ ds ∧ d.span.file = some path.text) ∧
        (ds ≠ [] → ∃ log, Tells o log ds (run s t arguments).1)) ∧
      ((∃ path ∈ o.sources, ¬Legible s t path) ↔ ∃ e, BreaksOff s t o.sources e) ∧
      ∀ e, BreaksOff s t o.sources e → ∃ log, (∀ l ∈ log, TellsParsed l) ∧
        run s t arguments = (⟨.error e, "", logText o.verbosity log⟩, t)) ∧
    (∀ path, o.config = some (.path path) → (∀ c, ¬Loads s t o.config c) →
      ¬Overruns s t o.config → ∃ message, Tells o [] [{
        message := message
        code := some "E-CONFIG"
        phase := some "config"
        span := { file := some path.text } }] (run s t arguments).1) ∧
    (Shallow s.depth t o → ¬Overruns s t o.config ∧
      ∀ c, Proceeds s t o c ↔ ∀ path ∈ o.sources, IsText t path) := by
  have h : Ends s t o (run s t arguments) := ends_run ho hp
  refine ⟨h.tree_eq hout, h.exitsOrderly_iff hout, fun c hc =>
    ⟨fun hlegible => ?_, exists_breaksOff_iff.symm, fun e he => h.of_breaksOff hc he⟩,
    fun path hp hc hroom => (h.of_misconfigured hp hc hroom).2, fun hs =>
      ⟨hs.not_overruns, hs.proceeds_iff⟩⟩
  obtain ⟨items, ds, hreads⟩ := exists_reads_of_legible hlegible
  exact ⟨items, ds, hreads, fun path hp d hd => ⟨hreads.mem_of_fails hp hd, hd.file_eq⟩,
    fun hne => (h.of_reads hc hreads hne).2⟩

/-- A source that is one octet beyond ASCII, behind one that is not there. -/
def undecodableTree : FileTree where
  files := [(["b.rs"], [0xFF])]
  directories := []

/-- The missing source goes unreported. -/
theorem run_without_output_undecodable :
    run (.ofDepth 1000) undecodableTree ["a.rs", "b.rs"] =
      (⟨.error (.undecodable ⟨.startByte, 0xFF, 0, 1⟩), "", ""⟩, undecodableTree) := by
  have ho : Arguments.read ["a.rs", "b.rs"] =
      .ok { sources := [⟨"", ["a.rs"]⟩, ⟨"", ["b.rs"]⟩] } := by decide
  have hfirst : undecodableTree.read ⟨"", ["a.rs"]⟩ = .error .notFound := rfl
  have hsecond : undecodableTree.read ⟨"", ["b.rs"]⟩ = .ok [0xFF] := rfl
  have hdecoded : readFileText [0xFF] = .error ⟨.startByte, 0xFF, 0, 1⟩ := rfl
  obtain ⟨_, _, hsources, _⟩ := run_without_output (t := undecodableTree) ho rfl fun _ _ h => by
    cases h
  obtain ⟨_, _, hbreaks⟩ := hsources _ .default
  obtain ⟨log, _, hrun⟩ :=
    hbreaks _ (.bad (.unreadable rfl hfirst) (.here (.undecodable rfl hsecond hdecoded)))
  rw [hrun, logText_zero]

end RecordBuilders.Command
