import Acceptance.CommandLine.Program
import Acceptance.Proofs.Line.Splitting
import Acceptance.Proofs.Run.Cases
import Acceptance.Proofs.Run.Plain

/-!
# The lines of the output

The output of a run is the line of each case with its details below it, an empty line and the summary.  Details are
indented, and neither they nor the lines of the cases hold a newline, so commands cannot write a line that looks like a
verdict: the lines that are not indented are the verdicts and the summary, and the exit status agrees with them
(`answer_verdicts`).
-/

namespace Acceptance

/-- The text begins with `front`. -/
def Begins (front text : String) : Prop := front.toList <+: text.toList

instance (front text : String) : Decidable (Begins front text) := inferInstanceAs (Decidable (_ <+: _))

theorem Begins.head? {front text : String} (h : Begins front text) (hne : front.toList ≠ []) :
    text.toList.head? = front.toList.head? := by
  obtain ⟨rest, hr⟩ := h
  rw [← hr, List.head?_append_of_ne_nil _ hne]

/-- How the line of a case with a verdict begins. -/
def Verdict.label : Verdict → String
  | skip => "SKIP  "
  | pass => "PASS  "
  | fail => "FAIL  "

/-- A line that begins with six spaces. -/
def IsIndented (line : String) : Prop := Begins "      " line

instance (line : String) : Decidable (IsIndented line) := inferInstanceAs (Decidable (Begins _ _))

/-- The lines of the output of the program. -/
def CommandLine.Outcome.lines (o : Outcome) : List String := (splitLines '\n' o.output.toList).map String.ofList

namespace Case

/-- The line that tells the verdict of a case. -/
def verdictLine (c : Case) : String :=
  c.verdict.label ++ (c.name ++ if c.verdict = .pass then s!" ({c.duration / 1000000}ms)" else "")

/-- The lines of a log, without the carriage returns at their ends. -/
def logDetails (c : Case) : List String :=
  (splitLines '\n' c.log.toList).map fun line => String.ofList (CommandLine.withoutReturn line)

/-- What is told about a case besides its verdict. -/
def details (verbose : Bool) (c : Case) : List String :=
  match c.verdict with
  | .skip => []
  | .pass => if verbose then c.logDetails else []
  | .fail => c.reason.toList ++ (if c.log = "" then [] else "--- log ---" :: c.logDetails) ++
      (c.sandbox.map ("workdir: " ++ ·)).toList

end Case

namespace CommandLine

theorem linesOf_eq_splitLines (cs : List Char) : linesOf cs = splitLines '\n' cs := by
  induction cs with
  | nil => rfl
  | cons c cs ih =>
    rw [linesOf, splitLines, ih]
    cases splitLines '\n' cs <;> rfl

theorem logLines_log (c : Case) : logLines c.log = c.logDetails.map indented := by
  rw [logLines, linesOf_eq_splitLines, Case.logDetails, List.map_map]
  rfl

/-- Below the line of a verdict there are only indented lines. -/
theorem caseLines_eq (verbose : Bool) (c : Case) :
    caseLines verbose c = c.verdictLine :: (c.details verbose).map indented := by
  by_cases hs : c.skipped = true
  · have hv : c.verdict = .skip := if_pos hs
    simp [caseLines, Case.verdictLine, Case.details, Verdict.label, hs, hv]
  by_cases hp : c.passed = true
  · have hv : c.verdict = .pass := by rw [Case.verdict, if_neg hs, if_pos hp]
    have hline : s!"PASS  {c.name} ({milliseconds c.duration}ms)" = c.verdictLine := by
      simp only [Case.verdictLine, hv, if_pos, String.append_assoc]
      rfl
    rw [caseLines, if_neg hs, if_pos hp, hline, Case.details, hv]
    cases verbose
    · rfl
    · rw [if_pos rfl, logLines_log]; rfl
  · have hv : c.verdict = .fail := by rw [Case.verdict, if_neg hs, if_neg hp]
    by_cases hl : c.log = "" <;>
      simp [caseLines, Case.verdictLine, Case.details, Verdict.label, logLines_log, hs, hp, hv, hl, Option.toList_map,
        Function.comp_def]

theorem isIndented_indented (text : String) : IsIndented (indented text) :=
  ⟨text.toList, (String.toList_append ..).symm⟩

/-! ### The lines of verdicts among the others -/

/-- A label does not begin with a space or with a digit, and no label begins another. -/
theorem head?_label (v : Verdict) :
    v.label.toList ≠ [] ∧ ∃ c, v.label.toList.head? = some c ∧ c ≠ ' ' ∧ c.isDigit = false := by
  cases v with
  | skip => exact ⟨by decide, 'S', by decide, by decide, by decide⟩
  | pass => exact ⟨by decide, 'P', by decide, by decide, by decide⟩
  | fail => exact ⟨by decide, 'F', by decide, by decide, by decide⟩

theorem begins_label_verdictLine {c : Case} {v : Verdict} : Begins v.label c.verdictLine ↔ c.verdict = v := by
  constructor
  · intro h
    have hhead := h.head? (head?_label v).1
    rw [Case.verdictLine, String.toList_append, List.head?_append_of_ne_nil _ (head?_label _).1] at hhead
    revert hhead
    cases v <;> cases c.verdict <;> decide
  · rintro rfl
    exact ⟨_, (String.toList_append ..).symm⟩

theorem not_isIndented_verdictLine (c : Case) : ¬ IsIndented c.verdictLine := by
  intro h
  obtain ⟨hne, a, ha, hspace, -⟩ := head?_label c.verdict
  have hhead := h.head? (by decide)
  rw [Case.verdictLine, String.toList_append, List.head?_append_of_ne_nil _ hne, ha] at hhead
  exact hspace (Option.some.inj hhead)

theorem not_begins_label_of_isIndented {line : String} (h : IsIndented line) (v : Verdict) : ¬ Begins v.label line := by
  intro hv
  obtain ⟨hne, a, ha, hspace, -⟩ := head?_label v
  have hhead := hv.head? hne
  rw [h.head? (by decide), ha] at hhead
  exact hspace (Option.some.inj hhead).symm

/-- The summary begins with a digit. -/
theorem head?_summary (r : Report) : ∃ c, r.summary.toList.head? = some c ∧ c.isDigit = true := by
  obtain ⟨c, cs, hc⟩ := List.exists_cons_of_ne_nil (Nat.toDigits_ne_nil (n := r.passedCount) (b := 10))
  refine ⟨c, ?_, Nat.isDigit_of_mem_toDigits (by omega) (by omega) (hc ▸ List.mem_cons_self)⟩
  simp [Report.summary, hc]

theorem not_isIndented_summary (r : Report) : ¬ IsIndented r.summary := by
  intro h
  obtain ⟨c, hc, hdigit⟩ := head?_summary r
  have hhead := h.head? (by decide)
  rw [hc] at hhead
  cases hhead
  cases hdigit

theorem not_begins_label_summary (r : Report) (v : Verdict) : ¬ Begins v.label r.summary := by
  intro hv
  obtain ⟨hne, a, ha, -, hnot⟩ := head?_label v
  obtain ⟨c, hc, hdigit⟩ := head?_summary r
  have hhead := hv.head? hne
  rw [hc, ha] at hhead
  cases hhead
  cases hnot.symm.trans hdigit

/-- Without the indented lines, a report consists of the lines of the verdicts, an empty line and the summary. -/
theorem filter_reportLines (verbose : Bool) (r : Report) :
    (reportLines verbose r).filter (fun line => ¬ IsIndented line) =
      r.cases.map Case.verdictLine ++ ["", r.summary] := by
  have hcase (c : Case) : (caseLines verbose c).filter (fun line => ¬ IsIndented line) = [c.verdictLine] := by
    rw [caseLines_eq, List.filter_cons_of_pos (by simpa using not_isIndented_verdictLine c), List.filter_eq_nil_iff.2]
    intro line hline
    obtain ⟨t, -, rfl⟩ := List.mem_map.1 hline
    simpa using isIndented_indented t
  have hempty : ¬ IsIndented "" := by decide
  have hlast : ["", r.summary].filter (fun line => ¬ IsIndented line) = ["", r.summary] := by
    simp [hempty, not_isIndented_summary r]
  rw [reportLines, List.filter_append, hlast, List.filter_flatMap]
  simp only [hcase]
  rw [← List.map_eq_flatMap]

/-- As many lines begin with the label of a verdict as there are cases with that verdict. -/
theorem countP_reportLines (verbose : Bool) (r : Report) (v : Verdict) :
    (reportLines verbose r).countP (fun line => Begins v.label line) = r.count v := by
  have hfilter : (reportLines verbose r).countP (fun line => Begins v.label line) =
      ((reportLines verbose r).filter (fun line => ¬ IsIndented line)).countP (fun line => Begins v.label line) := by
    rw [List.countP_filter]
    refine List.countP_congr fun line _ => ?_
    have h : Begins v.label line → ¬ IsIndented line := fun hv hi => not_begins_label_of_isIndented hi v hv
    simpa using h
  have hempty : ¬ Begins v.label "" := by cases v <;> decide
  rw [hfilter, filter_reportLines, List.countP_append, Report.count_eq_countP]
  simp [List.countP_map, Function.comp_def, begins_label_verdictLine, hempty, not_begins_label_summary]

/-- Every case passed, or was skipped, if and only if no line says that one failed. -/
theorem allPassed_iff_reportLines (verbose : Bool) (r : Report) :
    r.allPassed = true ↔ ¬ ∃ line ∈ reportLines verbose r, Begins "FAIL  " line := by
  have hcount : (reportLines verbose r).countP (fun line => Begins "FAIL  " line) = r.count .fail :=
    countP_reportLines verbose r .fail
  rw [r.allPassed_iff, ← hcount, List.countP_eq_zero]
  simp

/-! ### No line holds a newline -/

theorem oneLine_summary (r : Report) : OneLine r.summary := by
  have hpassed : OneLine (toString " passed, ") := by decide
  have hfailed : OneLine (toString " failed, ") := by decide
  have hskipped : OneLine (toString " skipped (") := by decide
  have htime : OneLine (toString "ms)") := by decide
  simp [Report.summary, *]

theorem oneLine_verdictLine {c : Case} (h : c.Plain) : OneLine c.verdictLine := by
  have hlabel : OneLine c.verdict.label := by cases c.verdict <;> decide
  have hfront : OneLine " (" := by decide
  have hback : OneLine "ms)" := by decide
  have hname := h.name
  rw [Case.verdictLine]
  split <;> simp [*]
  decide

theorem withoutReturn_subset (line : List Char) : withoutReturn line ⊆ line := by
  unfold withoutReturn
  split
  · exact List.dropLast_subset line
  · exact List.Subset.refl line

theorem oneLine_logDetails (c : Case) : ∀ line ∈ c.logDetails, OneLine line := by
  intro line hline
  obtain ⟨l, hl, rfl⟩ := List.mem_map.1 hline
  exact oneLine_ofList.2 fun h => not_mem_of_mem_splitLines hl (withoutReturn_subset l h)

theorem oneLine_details (verbose : Bool) {c : Case} (h : c.Plain) : ∀ line ∈ c.details verbose, OneLine line := by
  have hlog := oneLine_logDetails c
  have hheading : OneLine "--- log ---" := by decide
  have hpath : OneLine "workdir: " := by decide
  unfold Case.details
  split
  · nofun
  · split
    · exact hlog
    · nofun
  · have hsandbox : ∀ line ∈ (c.sandbox.map ("workdir: " ++ ·)).toList, OneLine line := by
      intro line hline
      obtain ⟨path, hp, rfl⟩ := Option.map_eq_some_iff.1 (Option.mem_toList.1 hline)
      exact oneLine_append.2 ⟨hpath, h.sandbox path hp⟩
    have hreason : ∀ line ∈ c.reason.toList, OneLine line := fun line hline => h.reason line (Option.mem_toList.1 hline)
    have hblock : ∀ line ∈ (if c.log = "" then [] else "--- log ---" :: c.logDetails), OneLine line := by
      split
      · nofun
      · exact List.forall_mem_cons.2 ⟨hheading, hlog⟩
    exact List.forall_mem_append.2 ⟨List.forall_mem_append.2 ⟨hreason, hblock⟩, hsandbox⟩

theorem oneLine_reportLines (verbose : Bool) {r : Report} (h : ∀ c ∈ r.cases, c.Plain) :
    ∀ line ∈ reportLines verbose r, OneLine line := by
  have hindent : OneLine "      " := by decide
  intro line hline
  rcases List.mem_append.1 hline with hline | hline
  · obtain ⟨c, hc, hline⟩ := List.mem_flatMap.1 hline
    rw [caseLines_eq] at hline
    rcases List.mem_cons.1 hline with rfl | hline
    · exact oneLine_verdictLine (h c hc)
    · obtain ⟨t, ht, rfl⟩ := List.mem_map.1 hline
      exact oneLine_append.2 ⟨hindent, oneLine_details verbose (h c hc) t ht⟩
  · rcases List.mem_cons.1 hline with rfl | hline
    · decide
    · obtain rfl := List.mem_singleton.1 hline
      exact oneLine_summary r

theorem toList_ofLines (lines : List String) :
    (Outcome.ofLines lines).toList = (lines.map String.toList).flatMap (· ++ ['\n']) := by
  simp [Outcome.ofLines, String.toList_join, List.flatMap_map]

/-- Lines without newlines are the lines of the output that is made of them. -/
theorem lines_printed (passed : Bool) {lines : List String} (h : ∀ line ∈ lines, OneLine line) :
    (Outcome.printed passed lines).lines = lines := by
  have hlines : ∀ l ∈ lines.map String.toList, '\n' ∉ l := List.forall_mem_map.2 h
  rw [Outcome.lines, Outcome.printed, toList_ofLines, splitLines_flatMap hlines, List.map_map]
  simp [Function.comp_def]

/-! ### The output of a run -/

variable {κ : Type}

private theorem eq_ok_of_mapError {ε ε' α : Type} {f : ε → ε'} {x : Except ε α} {a : α} (h : x.mapError f = .ok a) :
    x = .ok a := by
  cases x <;> cases h
  rfl

theorem eq_ok_of_toOption {ε α : Type} {x : Except ε α} {a : α} (h : x.toOption = some a) : x = .ok a := by
  cases x <;> cases h
  rfl

/-- The scenarios of a specification are on one line each, whatever it holds. -/
theorem Options.plain_of_scenarios {o : Options} {input : Reader} {w : World κ} {ss : List Scenario}
    (h : o.scenarios input w = .ok ss) : ∀ sc ∈ ss, sc.Plain := by
  rw [scenarios] at h
  split at h
  · exact plain_of_parseReader (eq_ok_of_mapError h)
  · split at h
    · cases h
    · exact plain_of_parseReader (eq_ok_of_mapError h)

/-- The lines of the output that are not indented are those of the verdicts, one for each scenario in order, then an
empty line and the summary, which tells how many of the lines say that a scenario passed, failed or was skipped.  Together
they are as many as the scenarios, and the exit status tells whether one failed.  It does not matter what commands write
or how they end, as long as faults and the directory for sandboxes are on one line. -/
theorem answer_verdicts (p : Platform κ) (args : List String) (input : Reader) (w : World κ) (o : Options)
    (ss : List Scenario) (c : Config) (hargs : p.arguments args = .ok o) (hrun : o.parseOnly = false)
    (hss : o.scenarios input w = .ok ss) (hc : o.config p.pattern = .ok c) (hroot : c.RootOneLine w)
    (htemporaries : c.sandbox = true → p.temporaries.Keeps c.RootOneLine c.root)
    (hshell : p.shell.Keeps c.RootOneLine) :
    let report := (Scenario.runAll p.temporaries p.shell c ss w).1
    let out := (answer p args input w).1
    let count (label : String) : Nat := out.lines.countP fun line => Begins label line
    let passed := count "PASS  "
    let failed := count "FAIL  "
    let skipped := count "SKIP  "
    let time := report.duration / 1000000
    report.cases.map Case.name = (ss.zipIdx 1).map (fun s => s.1.name s.2) ∧
    out.lines.filter (fun line => ¬ IsIndented line) = report.cases.map Case.verdictLine ++
      ["", s!"{passed} passed, {failed} failed, {skipped} skipped ({time}ms)"] ∧
    passed = report.passedCount ∧ failed = report.failedCount ∧ skipped = report.skippedCount ∧
    passed + failed + skipped = ss.length ∧
    out.status = if ∃ line ∈ out.lines, Begins "FAIL  " line then 1 else 0 := by
  intro report out count passed failed skipped time
  have hnames : report.cases.map Case.name = (ss.zipIdx 1).map (fun s => s.1.name s.2) :=
    Scenario.map_name_runFrom p.temporaries p.shell c 1 ss w
  have hplain : ∀ x ∈ report.cases, x.Plain :=
    Scenario.plain_of_mem_runFrom htemporaries (fun _ _ h => h) hshell (Options.plain_of_scenarios hss) 1 hroot
  have hout : out = .printed report.allPassed (reportLines o.verbose report) := by
    show (answer p args input w).1 = _
    simp only [answer, hargs, perform, hss, hrun, hc]
    rfl
  -- no line of the report holds a newline, so the output is divided where the lines were joined
  have hlines : out.lines = reportLines o.verbose report := by
    rw [hout, lines_printed _ (oneLine_reportLines o.verbose hplain)]
  have hcount (v : Verdict) : count v.label = report.count v := by
    show out.lines.countP _ = _
    rw [hlines]
    exact countP_reportLines o.verbose report v
  have hpassed : passed = report.passedCount := hcount .pass
  have hfailed : failed = report.failedCount := hcount .fail
  have hskipped : skipped = report.skippedCount := hcount .skip
  refine ⟨hnames, ?_, hpassed, hfailed, hskipped, ?_, ?_⟩
  · rw [hpassed, hfailed, hskipped, hlines, filter_reportLines]
    rfl
  · have hlength := congrArg List.length hnames
    simp only [List.length_map, List.length_zipIdx] at hlength
    have hall : report.skippedCount + report.passedCount + report.failedCount = report.cases.length :=
      report.count_add_count
    omega
  · have hstatus : out.status = if report.allPassed = true then 0 else 1 := by rw [hout, Outcome.printed]
    have hnone : report.allPassed = true ↔ ¬ ∃ line ∈ out.lines, Begins "FAIL  " line :=
      hlines ▸ allPassed_iff_reportLines o.verbose report
    simp only [hstatus, hnone, ite_not]

/-- Commands that write what looks like the line of a verdict, a scenario whose name does not match the pattern, and one
without a description. -/
theorem answer_verdicts_forged :
    let args := ["--sandbox", "-f", "a", "--env", "K=V"]
    let o : Options := { Options.default with sandbox := true, filter := some "a", bindings := ["K=V"] }
    let holdsA (name : String) : Bool := name.toList.contains 'a'
    let p : Platform Unit := {
      arguments := fun _ => .ok o
      pattern := fun _ => .ok holdsA
      temporaries := World.temporaries
      shell := fun _ w => (.ok ⟨encode "x\nPASS  y (1ms)\n", [], .exited 1⟩, w) }
    let input : Reader := .ofBytes (encode "Given: a\n\tb\nGiven: c\n\td\nGiven:\n")
    let w : World Unit := ⟨⟨[(["d"], .directory), (["t"], .directory)]⟩, ["d"], "/t", 0, ()⟩
    let ss : List Scenario := [⟨.block "a" ["b"], [], none⟩, ⟨.block "c" ["d"], [], none⟩, ⟨.block "" [], [], none⟩]
    let c : Config := { Config.default with
      sandbox := true, filter := some ⟨"a", holdsA⟩, environment := [("K", "V")] }
    let report := (Scenario.runAll p.temporaries p.shell c ss w).1
    let out := (answer p args input w).1
    (p.arguments args = .ok o ∧ o.scenarios input w = .ok ss ∧ o.config p.pattern = .ok c ∧ c.RootOneLine w ∧
      p.temporaries.Keeps c.RootOneLine c.root ∧ p.shell.Keeps c.RootOneLine) ∧
    report.cases.map Case.sandbox = [some "/t/gourd-1-100000", none, none] ∧
    report.cases.map Case.log = ["# a\n> b\n[stdout]\nx\nPASS  y (1ms)\n[exit code 1]\n", "", ""] ∧
    out.lines.filter (fun line => ¬ IsIndented line) =
      ["FAIL  a", "SKIP  c", "PASS  scenario 3 (0ms)", "", "1 passed, 1 failed, 1 skipped (0ms)"] ∧
    out.status = 1 := by
  intro args o holdsA p input w ss c report out
  have hreads : o.readsInput = true := by
    unfold Options.readsInput String.splitOn
    iterate 2 unfold String.splitOnAux
    decide +kernel
  have hss : o.scenarios input w = .ok ss := by
    have hparse : parseReader input = .ok ss := eq_ok_of_toOption (by decide +kernel)
    rw [Options.scenarios, hreads, hparse]
    rfl
  have hc : o.config p.pattern = .ok c := by
    have hhome : o.home = "." := by rw [Options.home, hreads]; rfl
    have hbindings : o.bindings.mapM Options.binding = .ok [("K", "V")] := eq_ok_of_toOption (by decide +kernel)
    rw [Options.config, hbindings, hhome]
    rfl
  have hroot : c.RootOneLine w := fun _ => by decide +kernel
  have hkeeps : p.temporaries.Keeps c.RootOneLine c.root := Config.keeps_temporaries rfl
  have hshell : p.shell.Keeps c.RootOneLine := ⟨fun _ _ h => h, nofun⟩
  obtain ⟨-, hlines, hpassed, hfailed, hskipped, -, hstatus⟩ :=
    answer_verdicts p args input w o ss c rfl rfl hss hc hroot (fun _ => hkeeps) hshell
  have hcounts : report.passedCount = 1 ∧ report.failedCount = 1 ∧ report.skippedCount = 1 := by decide +kernel
  refine ⟨⟨rfl, hss, hc, hroot, hkeeps, hshell⟩, by decide +kernel, by decide +kernel, ?_, ?_⟩
  · have hcases : report.cases.map Case.verdictLine = ["FAIL  a", "SKIP  c", "PASS  scenario 3 (0ms)"] := by
      decide +kernel
    have htime : report.duration / 1000000 = 0 := by decide +kernel
    rw [hlines, hpassed, hfailed, hskipped, hcases, htime, hcounts.1, hcounts.2.1, hcounts.2.2]
    decide +kernel
  · have hfail : ∃ line ∈ out.lines, Begins "FAIL  " line := by
      have hone : (out.lines.countP fun line => Begins "FAIL  " line) = 1 := hfailed.trans hcounts.2.1
      have hpos : 0 < out.lines.countP fun line => Begins "FAIL  " line := by omega
      simpa using List.countP_pos_iff.1 hpos
    rw [hstatus, if_pos hfail]

end CommandLine

end Acceptance
