import RecordBuilders.Proofs.CommandLine.Sources
import RecordBuilders.Proofs.CommandLine.WrittenFile
import RecordBuilders.Proofs.Json.Printable
import RecordBuilders.Proofs.Target.Totality

/-! How the command ends: with a module that goes where it is asked for, with diagnostics and
nothing else, or without an exit code. Main result: `run_exit_codes`. -/
namespace RecordBuilders.Command
open Syntax Target Text

variable {s : Stack} {t t' : FileTree} {o : Options}

section Parts

/-- The sources are read and parsed without exception, under the configuration that is asked for,
and this is the module for all their declarations. -/
inductive Makes (s : Stack) (t : FileTree) (o : Options) : String → Prop where
  | mk {c : Config} {items : List Item} {text : String} (loads : Loads s t o.config c)
      (reads : Reads s t o.sources items [])
      (generated : generateOn s c items = .ok (.ok text)) : Makes s t o text

/-- The file for the module can be written. -/
inductive Writable (t : FileTree) (text : String) : Supplied → Prop where
  | mk {path : Path} {t' : FileTree} (nul : path.hasNul = false)
      (write : t.write path text.toUTF8.toList = .ok t') : Writable t text (.path path)

/-- What is printed and which tree is left: a mere check leaves the tree as it is, a module that
goes into a file changes that file, and any other module is what is printed. -/
inductive Delivered (t : FileTree) (o : Options) (text : String) : String → FileTree → Prop where
  | checked {out : String} (check : o.check = true) : Delivered t o text out t
  | written {out : String} {path : Path} {t' : FileTree} (check : o.check = false)
      (output : o.output = some (.path path)) (written : t.Written path text.toUTF8.toList t') :
      Delivered t o text out t'
  | printed (check : o.check = false) (output : o.output = none) : Delivered t o text text t

/-- What a failed run prints for programs: nothing, or one line that tells diagnostics. -/
inductive TellsFailure : Bool → String → Prop where
  | silent : TellsFailure false ""
  | line {ds : Diagnostics} {line : String} (diagnosed : ds ≠ [])
      (told : line = Json.text (.object [("exit_code", .integer 1),
        ("diagnostics", .array (ds.map Diagnostic.json))]))
      (single : '\n' ∉ line.toList) : TellsFailure true (line ++ "\n")

/-- The report tells these diagnostics, each of them once: in a line for programs, or to readers
behind the log. -/
structure Tells (o : Options) (log : List LogLine) (ds : Diagnostics) (r : Report) : Prop where
  exit : r.exit = .ok 1
  out : r.out = if o.json then
      Json.text (.object [("exit_code", .integer 1),
        ("diagnostics", .array (ds.map Diagnostic.json))]) ++ "\n"
    else ""
  err : r.err = logText o.verbosity log ++
    if o.json then "" else String.join (ds.map fun d => d.text ++ "\n")

theorem tells_failure (log : List LogLine) (ds : Diagnostics) :
    Tells o log ds (failure o log ds) := by
  unfold failure
  cases hjson : o.json with
  | false => exact ⟨rfl, by simp [hjson], by simp [hjson]⟩
  | true => exact ⟨rfl, by simp [hjson, jsonLine], by simp [hjson]⟩

theorem Tells.tellsFailure {log : List LogLine} {ds : Diagnostics} {r : Report}
    (h : Tells o log ds r) (hne : ds ≠ []) : TellsFailure o.json r.out := by
  rw [h.out]
  cases o.json with
  | false => exact .silent
  | true => exact .line hne rfl (Json.lineFeed_notMem_text _)

/-- Without verbosity no log is shown. -/
theorem logText_zero (log : List LogLine) : logText 0 log = "" := by
  have hnone : log.filter (LogLine.isShown 0) = [] :=
    List.filter_eq_nil_iff.mpr fun l _ => by cases hl : l.level <;> simp [LogLine.isShown, hl]
  rw [logText, hnone]
  rfl

end Parts

section Runs

/-- A plan is carried out on a tree. -/
def Plan.carryOut (t : FileTree) : Plan → Report × FileTree
  | .done report => (report, t)
  | .write path text before after =>
    if path.hasNul then ({ before with exit := .error .nulInPath }, t)
    else
      match t.write path text.toUTF8.toList with
      | .ok t => (after, t)
      | .error fault => ({ before with exit := .error (.file path fault) }, t)

theorem run_eq {arguments : List String} (h : Arguments.read arguments = .ok o) :
    run s t arguments = (planFor s t.read o).carryOut t := by
  rw [run, plan, h]
  rfl

/-- Every way in which the command may end. -/
inductive Ends (s : Stack) (t : FileTree) (o : Options) : Report × FileTree → Prop where
  | misconfigured {path : Path} {message : String} {r : Report}
      (config : o.config = some (.path path)) (fails : ∀ c, ¬Loads s t o.config c)
      (room : ¬Overruns s t o.config) (told : Tells o [] [configDiagnostic path message] r) :
      Ends s t o (r, t)
  | overrun (overruns : Overruns s t o.config) : Ends s t o (⟨.error .overflow, "", ""⟩, t)
  | unconfigured {e : Escape} (config : o.config = some .dropped) : Ends s t o (⟨.error e, "", ""⟩, t)
  | brokenOff {c : Config} {e : Escape} {log : List LogLine} (loads : Loads s t o.config c)
      (breaks : BreaksOff s t o.sources e) (parsed : ∀ l ∈ log, TellsParsed l) :
      Ends s t o (⟨.error e, "", logText o.verbosity log⟩, t)
  | faulty {c : Config} {items : List Item} {ds : Diagnostics} {log : List LogLine} {r : Report}
      (loads : Loads s t o.config c) (reads : Reads s t o.sources items ds) (faults : ds ≠ [])
      (told : Tells o log ds r) : Ends s t o (r, t)
  | refused {c : Config} {items : List Item} {ds : Diagnostics} {log : List LogLine} {r : Report}
      (loads : Loads s t o.config c) (reads : Reads s t o.sources items [])
      (refused : generateOn s c items = .ok (.error (.problems ds))) (problems : ds ≠ [])
      (told : Tells o log ds r) : Ends s t o (r, t)
  | overflowed {c : Config} {items : List Item} {err : String} (loads : Loads s t o.config c)
      (reads : Reads s t o.sources items []) (full : generateOn s c items = .error {}) :
      Ends s t o (⟨.error .overflow, "", err⟩, t)
  | stuck {text : String} {supplied : Supplied} {e : Escape} {err : String}
      (makes : Makes s t o text) (check : o.check = false) (output : o.output = some supplied)
      (failed : ¬Writable t text supplied) : Ends s t o (⟨.error e, "", err⟩, t)
  | delivered {text out err : String} {t' : FileTree} (makes : Makes s t o text)
      (writable : o.check = false → ∀ supplied, o.output = some supplied →
        Writable t text supplied)
      (delivered : Delivered t o text out t') : Ends s t o (⟨.ok 0, out, err⟩, t')

theorem ends_deliver {text : String} (h : Makes s t o text) (log : List LogLine) (count : Nat) :
    Ends s t o ((deliver o log count text).carryOut t) := by
  unfold deliver
  split
  · next hcheck => exact .delivered h (by simp [hcheck]) (.checked hcheck)
  next hcheck =>
  have hcheck : o.check = false := Bool.eq_false_iff.mpr hcheck
  split
  · next houtput => exact .delivered h (by simp [houtput]) (.printed hcheck houtput)
  · next houtput => exact .stuck h hcheck houtput (by rintro ⟨⟩)
  · next path houtput =>
    simp only [Plan.carryOut]
    split
    · next hnul =>
      refine .stuck h hcheck houtput ?_
      rintro ⟨nul, _⟩
      rw [hnul] at nul
      cases nul
    next hnul =>
    have hnul : path.hasNul = false := Bool.eq_false_iff.mpr hnul
    split
    · next t' hwrite =>
      refine .delivered h ?_ (.written hcheck houtput (FileTree.written_of_write hwrite))
      rintro - s hs
      cases houtput.symm.trans hs
      exact .mk hnul hwrite
    · next fault hwrite =>
      refine .stuck h hcheck houtput ?_
      rintro ⟨_, write⟩
      cases hwrite.symm.trans write

/-- Under a configuration the sources are read, and then the module is generated. -/
theorem ends_planUnder {c : Config} (hc : Loads s t o.config c) :
    Ends s t o ((planUnder s c t.read o).carryOut t) := by
  unfold planUnder
  rcases reads_or_breaksOff s t o.sources with ⟨items, ds, hreads⟩ | ⟨e, hbreaks⟩
  · obtain ⟨log, hloaded⟩ := loadSources_of_reads hreads
    rw [hloaded]
    cases ds with
    | cons d ds => exact .faulty hc hreads (List.cons_ne_nil d ds) (tells_failure _ _)
    | nil =>
      -- Parsed declarations always have hints, which leaves diagnostics or a module.
      have hreported {r : Except Refusal String} (hg : generateOn s c items = .ok r) : Reported r :=
        (generateOn_eq_ok_iff.mp hg).1 ▸ reported_generate hreads.fromSource
      simp only [List.isEmpty_nil, if_true]
      split
      · next hg => exact .overflowed hc hreads hg
      · next ds hg =>
        cases hreported hg with
        | problems mem =>
          exact .refused hc hreads hg (List.ne_nil_of_mem mem) (tells_failure _ _)
      · next hg => cases hreported hg
      · next hg => exact ends_deliver (.mk hc hreads hg) _ _
  · obtain ⟨loaded, hloaded, hparsed⟩ := loadSources_of_breaksOff hbreaks
    rw [hloaded]
    exact .brokenOff hc hbreaks hparsed

/-- What becomes of the configuration decides how the command goes on. -/
theorem ends_run {arguments : List String} (ho : Arguments.read arguments = .ok o)
    (hp : Paired t o.config) : Ends s t o (run s t arguments) := by
  rw [run_eq ho, planFor]
  cases hconfig : o.config with
  | none => exact ends_planUnder (hconfig ▸ .default)
  | some supplied =>
    cases supplied with
    | dropped => exact .unconfigured hconfig
    | path path =>
      rw [hconfig] at hp
      rcases configAt_cases (s := s) hp with
        ⟨c, hc, h⟩ | ⟨hover, h⟩ | ⟨hfails, hroom, message, h⟩
      · simp only [h]
        exact ends_planUnder (hconfig ▸ hc)
      · simp only [h]
        exact .overrun (hconfig ▸ hover)
      · simp only [h]
        exact .misconfigured hconfig (hconfig ▸ hfails) (hconfig ▸ hroom) (tells_failure _ _)

end Runs

section Consequences
variable {r : Report × FileTree} {c : Config} {items : List Item} {ds : Diagnostics}

/-- The module depends on the tree and the options alone. -/
theorem Makes.generateOn_eq {text : String} (h : Makes s t o text) (hc : Loads s t o.config c)
    (hr : Reads s t o.sources items []) : generateOn s c items = .ok (.ok text) := by
  obtain ⟨loads, reads, generated⟩ := h
  rw [hc.unique loads, (hr.unique reads).1]
  exact generated

theorem Makes.not_breaksOff {text : String} {e : Escape} (h : Makes s t o text) :
    ¬BreaksOff s t o.sources e := by
  obtain ⟨_, reads, _⟩ := h
  exact reads.not_breaksOff

theorem Ends.of_exit_one (h : Ends s t o r) (he : r.1.exit = .ok 1) :
    r.2 = t ∧ TellsFailure o.json r.1.out := by
  cases h with
  | misconfigured _ _ _ told => exact ⟨rfl, told.tellsFailure (List.cons_ne_nil _ _)⟩
  | faulty _ _ faults told => exact ⟨rfl, told.tellsFailure faults⟩
  | refused _ _ _ problems told => exact ⟨rfl, told.tellsFailure problems⟩
  | overrun | unconfigured | brokenOff | overflowed | stuck | delivered => cases he

theorem Ends.of_exit_zero (h : Ends s t o r) (he : r.1.exit = .ok 0) :
    ∃ text, Makes s t o text ∧
      (o.check = false → ∀ supplied, o.output = some supplied → Writable t text supplied) ∧
      Delivered t o text r.1.out r.2 := by
  cases h with
  | delivered makes writable delivered => exact ⟨_, makes, writable, delivered⟩
  | misconfigured _ _ _ told | faulty _ _ _ told | refused _ _ _ _ told =>
    cases told.exit.symm.trans he
  | overrun | unconfigured | brokenOff | overflowed | stuck => cases he

theorem Ends.exit_zero {text : String} (h : Ends s t o r) (hm : Makes s t o text)
    (hw : o.check = false → ∀ supplied, o.output = some supplied → Writable t text supplied) :
    r.1.exit = .ok 0 := by
  obtain ⟨hc, hr, hg⟩ := id hm
  cases h with
  | delivered => rfl
  | misconfigured config fails => exact absurd hc (fails _)
  | overrun overruns => exact absurd overruns hc.not_overruns
  | unconfigured config => exact absurd config hc.not_dropped
  | brokenOff loads breaks => exact absurd breaks hr.not_breaksOff
  | faulty loads reads faults => exact absurd (hr.unique reads).2.symm faults
  | refused loads reads refused => cases refused.symm.trans (hm.generateOn_eq loads reads)
  | overflowed loads reads full => cases full.symm.trans (hm.generateOn_eq loads reads)
  | stuck makes check output failed =>
    obtain ⟨loads, reads, generated⟩ := makes
    cases generated.symm.trans (hm.generateOn_eq loads reads)
    exact absurd (hw check _ output) failed

/-- The sources that are at fault are reported, and nothing else is. -/
theorem Ends.of_reads (h : Ends s t o r) (hc : Loads s t o.config c)
    (hr : Reads s t o.sources items ds) (hne : ds ≠ []) : r.2 = t ∧ ∃ log, Tells o log ds r.1 := by
  have hfaulty {items : List Item} : ¬Reads s t o.sources items [] := fun reads =>
    hne (hr.unique reads).2
  cases h with
  | faulty loads reads faults told =>
    rw [(hr.unique reads).2]
    exact ⟨rfl, _, told⟩
  | misconfigured config fails => exact absurd hc (fails _)
  | overrun overruns => exact absurd overruns hc.not_overruns
  | unconfigured config => exact absurd config hc.not_dropped
  | brokenOff loads breaks => exact absurd breaks hr.not_breaksOff
  | refused loads reads | overflowed loads reads => exact absurd reads hfaulty
  | stuck makes | delivered makes =>
    obtain ⟨_, reads, _⟩ := makes
    exact absurd reads hfaulty

/-- A source that is not legible takes every other source with it. -/
theorem Ends.of_breaksOff {e : Escape} (h : Ends s t o r) (hc : Loads s t o.config c)
    (he : BreaksOff s t o.sources e) : ∃ log, (∀ l ∈ log, TellsParsed l) ∧
      r = (⟨.error e, "", logText o.verbosity log⟩, t) := by
  cases h with
  | brokenOff loads breaks parsed => exact ⟨_, parsed, by rw [he.unique breaks]⟩
  | misconfigured config fails => exact absurd hc (fails _)
  | overrun overruns => exact absurd overruns hc.not_overruns
  | unconfigured config => exact absurd config hc.not_dropped
  | faulty loads reads | refused loads reads | overflowed loads reads =>
    exact absurd he reads.not_breaksOff
  | stuck makes | delivered makes => exact absurd he makes.not_breaksOff

theorem Ends.of_misconfigured {path : Path} (h : Ends s t o r)
    (hp : o.config = some (.path path)) (hc : ∀ c, ¬Loads s t o.config c)
    (hroom : ¬Overruns s t o.config) : r.2 = t ∧ ∃ message, Tells o [] [{
      message := message
      code := some "E-CONFIG"
      phase := some "config"
      span := { file := some path.text } }] r.1 := by
  cases h with
  | misconfigured config _ _ told =>
    cases hp.symm.trans config
    exact ⟨rfl, _, told⟩
  | overrun overruns => exact absurd overruns hroom
  | unconfigured config => cases hp.symm.trans config
  | brokenOff loads | faulty loads | refused loads | overflowed loads => exact absurd loads (hc _)
  | stuck makes | delivered makes =>
    obtain ⟨loads, _, _⟩ := makes
    exact absurd loads (hc _)

end Consequences

section Decoding
variable {path : Path} {paths : List Path}

/-- Every source whose content can be read is valid UTF-8. -/
def Decodable (t : FileTree) (paths : List Path) : Prop :=
  ∀ path ∈ paths, ∀ content, t.read path = .ok content → ∃ text, Utf8.decode content = .ok text

theorem exists_readFileText {content : List UInt8} {text : List Char}
    (h : Utf8.decode content = .ok text) : ∃ text, readFileText content = .ok text :=
  ⟨_, map_eq_ok_iff.mpr ⟨text, h, rfl⟩⟩

theorem legible_of_decodable (hd : Decodable t paths) (hp : path ∈ paths)
    (hnul : path.hasNul = false) (hfits : Fits s t path) : Legible s t path where
  nul := hnul
  decodes content hread := by
    obtain ⟨_, hdecoded⟩ := hd path hp content hread
    exact exists_readFileText hdecoded
  fits := hfits

/-- Sources that are all valid UTF-8 break off for a path or for lack of room only. -/
theorem BreaksOff.of_decodable {e : Escape} (h : BreaksOff s t paths e) (hd : Decodable t paths) :
    e = .nulInPath ∧ (∃ path ∈ paths, path.hasNul = true) ∨
      e = .overflow ∧ ∃ path ∈ paths, ¬Fits s t path := by
  obtain ⟨path, hp, hillegible⟩ := h.exists_illegible
  cases hillegible with
  | senseless nul => exact Or.inl ⟨rfl, path, hp, nul⟩
  | undecodable nul read decoded =>
    obtain ⟨_, hdecoded⟩ := hd path hp _ read
    obtain ⟨_, htext⟩ := exists_readFileText hdecoded
    cases decoded.symm.trans htext
  | overflow holds parsed mem full =>
    exact Or.inr ⟨rfl, path, hp, fun hfits => by
      cases full.symm.trans (hfits _ _ holds parsed _ mem)⟩

end Decoding

section Depth

/-- Nothing in the files that are read is nested deeper. -/
structure Shallow (depth : Nat) (t : FileTree) (o : Options) : Prop where
  config : ∀ path text, o.config = some (.path path) → HoldsText t path text →
    Json.nesting 0 false text ≤ depth
  sources : ∀ path ∈ o.sources, ∀ text ds, HoldsText t path text →
    parse (String.ofList text) = .ok ds → ∀ d ∈ ds, d.nestsWithin depth = true

theorem Shallow.not_overruns (h : Shallow s.depth t o) : ¬Overruns s t o.config := by
  intro hover
  cases hconfig : o.config with
  | none =>
    rw [hconfig] at hover
    cases hover
  | some supplied =>
    rw [hconfig] at hover
    obtain ⟨holds, full⟩ := hover
    cases full.symm.trans (s.decodes_shallow _ (h.config _ _ hconfig holds))

theorem Shallow.fits (h : Shallow s.depth t o) {path : Path} (hp : path ∈ o.sources) :
    Fits s t path := fun text ds holds parsed d hd =>
  s.builds_shallow d (h.sources path hp text ds holds parsed d hd)

theorem Shallow.generateOn_eq (h : Shallow s.depth t o) {items : List Item} {ds : Diagnostics}
    (hr : Reads s t o.sources items ds) (c : Config) :
    generateOn s c items = .ok (generate c items) := by
  cases hg : generateOn s c items with
  | ok r => rw [(generateOn_eq_ok_iff.mp hg).1]
  | error e =>
    obtain ⟨item, hi, hdeep⟩ := exists_deep_of_generateOn hg
    obtain ⟨path, hp, text, declarations, holds, parsed, hd⟩ := hr.exists_source item hi
    cases hdeep.symm.trans (h.sources path hp text _ holds parsed _ hd)

end Depth

/-- Exit code 1 stands for diagnostics and nothing else: the tree is as before, and no part of a
module is printed. Exit code 0 stands for a module, which is then where it was asked for; it comes
out exactly if the configuration and all sources can be read, their declarations make a module, and
the file for it can be written. If sources are at fault, each of them is reported once, in their
order, whatever the others are. This fails for a path with a NUL character, and for a source that
there is no room for: it ends the command without an exit code, and nothing is reported. A
configuration that is at fault is reported alone. There is room for all that is not nested too
deep. -/
theorem run_exit_codes {s : Stack} {t : FileTree} {arguments : List String} {o : Options}
    (ho : Arguments.read arguments = .ok o) (hd : Decodable t o.sources)
    (hp : Paired t o.config) :
    ((run s t arguments).1.exit = .ok 1 →
      (run s t arguments).2 = t ∧ TellsFailure o.json (run s t arguments).1.out) ∧
    ((run s t arguments).1.exit = .ok 0 ↔ ∃ text, Makes s t o text ∧
      (o.check = false → ∀ supplied, o.output = some supplied → Writable t text supplied)) ∧
    ((run s t arguments).1.exit = .ok 0 → ∃ text, Makes s t o text ∧
      Delivered t o text (run s t arguments).1.out (run s t arguments).2) ∧
    (∀ c, Loads s t o.config c →
      ((∀ path ∈ o.sources, path.hasNul = false ∧ Fits s t path) →
        ∃ items ds, Reads s t o.sources items ds ∧
          (ds ≠ [] → (run s t arguments).2 = t ∧ ∃ log, Tells o log ds (run s t arguments).1)) ∧
      ((∃ path ∈ o.sources, path.hasNul = true ∨ ¬Fits s t path) → ∃ e log,
        run s t arguments = (⟨.error e, "", logText o.verbosity log⟩, t) ∧
        (e = .nulInPath ∧ (∃ path ∈ o.sources, path.hasNul = true) ∨
          e = .overflow ∧ ∃ path ∈ o.sources, ¬Fits s t path) ∧ ∀ l ∈ log, TellsParsed l)) ∧
    (∀ path, o.config = some (.path path) → (∀ c, ¬Loads s t o.config c) →
      ¬Overruns s t o.config → (run s t arguments).2 = t ∧ ∃ message, Tells o [] [{
        message := message
        code := some "E-CONFIG"
        phase := some "config"
        span := { file := some path.text } }] (run s t arguments).1) ∧
    (Shallow s.depth t o → ¬Overruns s t o.config ∧ (∀ path ∈ o.sources, Fits s t path) ∧
      ∀ c items ds, Reads s t o.sources items ds →
        generateOn s c items = .ok (generate c items)) := by
  have h : Ends s t o (run s t arguments) := ends_run ho hp
  refine ⟨h.of_exit_one, ⟨?_, ?_⟩, ?_, fun c hc => ⟨fun hall => ?_, ?_⟩, ?_, fun hs =>
    ⟨hs.not_overruns, fun path => hs.fits, fun c items ds hr => hs.generateOn_eq hr c⟩⟩
  · intro he
    obtain ⟨text, hmakes, hwritable, _⟩ := h.of_exit_zero he
    exact ⟨text, hmakes, hwritable⟩
  · rintro ⟨text, hmakes, hwritable⟩
    exact h.exit_zero hmakes hwritable
  · intro he
    obtain ⟨text, hmakes, _, hdelivered⟩ := h.of_exit_zero he
    exact ⟨text, hmakes, hdelivered⟩
  · obtain ⟨items, ds, hreads⟩ := exists_reads_of_legible fun path hp =>
      legible_of_decodable hd hp (hall path hp).1 (hall path hp).2
    exact ⟨items, ds, hreads, h.of_reads hc hreads⟩
  · rintro ⟨path, hp, hbad⟩
    have hnot : ¬Legible s t path := fun ⟨⟨hnul, _⟩, hfits⟩ => by
      rcases hbad with hbad | hbad
      · cases hnul.symm.trans hbad
      · exact hbad hfits
    obtain ⟨e, he⟩ := exists_breaksOff_iff.mpr ⟨path, hp, hnot⟩
    obtain ⟨log, hlog, hrun⟩ := h.of_breaksOff hc he
    exact ⟨e, log, hrun, he.of_decodable hd, hlog⟩
  · intro path hp hc hroom
    exact h.of_misconfigured hp hc hroom

/-- A tree with one source, which is empty. -/
def sampleTree : FileTree where
  files := [(["work", "a.rs"], [])]
  directories := []
  workingDirectory := ["work"]

/-- Of two sources one is empty, and the other one, with a path from the root, is not there. -/
theorem run_exit_codes_missing : ∃ report,
    run (.ofDepth 1000) sampleTree ["../work/a.rs", "/b.rs"] = (report, sampleTree) ∧
      report.exit = .ok 1 ∧ report.out = "" ∧
      report.err = "/b.rs:?:?: error: [Errno 2] No such file or directory: '/b.rs'\n" := by
  have ho : Arguments.read ["../work/a.rs", "/b.rs"] =
      .ok { sources := [⟨"", ["..", "work", "a.rs"]⟩, ⟨"/", ["b.rs"]⟩] } := by decide
  have hfirst : sampleTree.read ⟨"", ["..", "work", "a.rs"]⟩ = .ok [] := rfl
  have hsecond : sampleTree.read ⟨"/", ["b.rs"]⟩ = .error .notFound := rfl
  have hd : Decodable sampleTree [⟨"", ["..", "work", "a.rs"]⟩, ⟨"/", ["b.rs"]⟩] := by
    intro path hp content hread
    rcases List.mem_pair.mp hp with rfl | rfl
    · cases hfirst.symm.trans hread
      exact ⟨[], rfl⟩
    · cases hsecond.symm.trans hread
  have hparse : parse (String.ofList []) = .ok [] := by cbv
  have hholds : HoldsText sampleTree ⟨"", ["..", "work", "a.rs"]⟩ [] := .mk rfl hfirst rfl
  have hreads : Reads (.ofDepth 1000) sampleTree
      [⟨"", ["..", "work", "a.rs"]⟩, ⟨"/", ["b.rs"]⟩] [] _ :=
    .good (.mk hholds hparse (by simp)) (.bad (.unreadable rfl hsecond) .nil)
  obtain ⟨_, _, _, hsources, _⟩ := run_exit_codes ho hd fun _ _ h => by cases h
  obtain ⟨items, ds, h, hfailure⟩ := (hsources _ .default).1 fun path hp =>
    ⟨(hreads.legible path hp).nul, (hreads.legible path hp).fits⟩
  rw [(h.unique hreads).2] at hfailure
  obtain ⟨htree, log, htells⟩ := hfailure (List.cons_ne_nil _ _)
  refine ⟨_, Prod.ext rfl htree, htells.exit, htells.out, ?_⟩
  rw [htells.err, logText_zero]
  rfl

end RecordBuilders.Command
