import AsmCheck.CommandLine.Run
import AsmCheck.Proofs.Coordinates

/-!
# Exit status

Every diagnostic of a report is an error, so the diagnostics that a limit leaves tell whether there
are any, unless the limit leaves none. The exit status is taken from those that are left: it speaks
for the whole report exactly if the limit is not zero or there is nothing to report.
-/

namespace AsmCheck

set_option autoImplicit false

namespace Report

theorem cut_subset {α : Type} (limit : Int) (list : List α) : cut limit list ⊆ list := by
  unfold cut
  split
  · exact List.Subset.refl list
  · exact List.take_subset _ _

theorem cut_eq_nil_iff {α : Type} (limit : Int) (list : List α) :
    cut limit list = [] ↔ limit = 0 ∨ list = [] := by
  unfold cut
  split
  · constructor
    · exact Or.inr
    · rintro (hzero | hnil)
      · omega
      · exact hnil
  · rw [List.take_eq_nil_iff]
    apply or_congr_left
    omega

theorem diagnostics_cut (file? : Option String) (limit : Int) (t : Text) :
    (ofText file? limit t).diagnostics = cut limit (ofText file? (-1) t).diagnostics := rfl

theorem severity_of_mem {file? : Option String} {limit : Int} {t : Text} {d : Diagnostic}
    (h : d ∈ (ofText file? limit t).diagnostics) : d.severity = .error := by
  have hwhole := List.mem_mergeSort.mp (cut_subset limit _ h)
  rcases List.mem_append.mp hwhole with hline | hlabel
  · exact (Document.read_placedIn file? t d hline).severity
  · exact (Resolution.diagnostics_placedIn (Document.nodes_located file? t) file? d
      hlabel).severity

/-- A report shows an error exactly if it shows anything. -/
theorem hasError_iff_ne_nil (file? : Option String) (limit : Int) (t : Text) :
    (ofText file? limit t).hasError = true ↔ (ofText file? limit t).diagnostics ≠ [] := by
  rw [hasError, List.any_eq_true]
  constructor
  · rintro ⟨d, hd, _⟩
    exact List.ne_nil_of_mem hd
  · intro hne
    obtain ⟨d, hd⟩ := List.exists_mem_of_ne_nil _ hne
    refine ⟨d, hd, ?_⟩
    rw [severity_of_mem hd]
    rfl

theorem hasError_iff (file? : Option String) (limit : Int) (t : Text) :
    (ofText file? limit t).hasError = true ↔
      limit ≠ 0 ∧ (ofText file? (-1) t).hasError = true := by
  rw [hasError_iff_ne_nil, hasError_iff_ne_nil, diagnostics_cut, Ne, cut_eq_nil_iff, not_or]

end Report

theorem Report.hasError_eq_true_iff (report : Report) :
    report.hasError = true ↔ ∃ d ∈ report.diagnostics, d.severity = .error := by
  simp [Report.hasError]

theorem Report.hasError_eq_false_iff (report : Report) :
    report.hasError = false ↔ ∀ d ∈ report.diagnostics, d.severity ≠ .error := by
  simp [Report.hasError]

namespace CommandLine

/-- The exit status and the output tell whether a report has an error. -/
structure Outcome.TellsErrors (outcome : Outcome) (whole : Report) : Prop where
  failure : outcome.exit = 1 ↔ ∃ d ∈ whole.diagnostics, d.severity = .error
  success : outcome.exit = 0 ↔ ∀ d ∈ whole.diagnostics, d.severity ≠ .error
  output : outcome.output = if outcome.exit = 0 then summary whole.resolution else ""

theorem Outcome.exit_ofReport (report : Report) :
    (ofReport report).exit = if report.hasError then 1 else 0 := by
  unfold ofReport
  split
  · rfl
  · rfl

theorem Outcome.output_ofReport (report : Report) :
    (ofReport report).output =
      if (ofReport report).exit = 0 then summary report.resolution else "" := by
  unfold ofReport
  split
  · rfl
  · rfl

theorem Outcome.errors_ofReport (report : Report) :
    (ofReport report).errors =
      String.join (report.diagnostics.map fun d => d.render ++ "\n") := by
  unfold ofReport
  split
  · rfl
  · rfl

theorem checkSource_tellsErrors_iff (source : Text) (limit : Int) (t : Text) :
    let whole := Report.ofText (some (String.ofList source)) (-1) (uniformNewlines t)
    (checkSource source limit t).TellsErrors whole ↔
      limit ≠ 0 ∨ ∀ d ∈ whole.diagnostics, d.severity ≠ .error := by
  intro whole
  have hshown := Report.hasError_iff (some (String.ofList source)) limit (uniformNewlines t)
  have hexit := Outcome.exit_ofReport
    (Report.ofText (some (String.ofList source)) limit (uniformNewlines t))
  constructor
  · intro h
    by_cases hlimit : limit = 0
    · -- Nothing is shown, so the status is zero and has to be true of the whole report.
      right
      apply h.success.mp
      refine hexit.trans (if_neg ?_)
      exact fun hhas => (hshown.mp hhas).1 hlimit
    · exact Or.inl hlimit
  · intro h
    have hsame : (Report.ofText (some (String.ofList source)) limit
        (uniformNewlines t)).hasError = whole.hasError := by
      rw [Bool.eq_iff_iff, hshown]
      refine ⟨And.right, fun hhas => ⟨?_, hhas⟩⟩
      rcases h with hlimit | hclean
      · exact hlimit
      · rw [(Report.hasError_eq_false_iff whole).mpr hclean] at hhas
        exact absurd hhas Bool.false_ne_true
    rw [hsame] at hexit
    refine ⟨?_, ?_, Outcome.output_ofReport _⟩
    · rw [← Report.hasError_eq_true_iff, checkSource, hexit]
      cases whole.hasError <;> simp
    · rw [← Report.hasError_eq_false_iff, checkSource, hexit]
      cases whole.hasError <;> simp

/-- A source that can be read and decoded is checked with the limit that the arguments give. -/
theorem run_of_readable {tree : SourceTree} {arguments : List Text} {source : Text} {limit : Int}
    {bytes : ByteArray} {content : String}
    (hrequest : Request.ofArguments Report.defaultLimit arguments = .ok ⟨source, some limit⟩)
    (hpath : '\x00' ∉ source) (hread : tree.read source = .ok bytes)
    (hutf8 : String.fromUTF8? bytes = some content) :
    run tree arguments = .ok (checkSource source limit content.toList) := by
  have hcontains : source.contains '\x00' = false := by simpa using hpath
  rw [run, hrequest]
  simp only [Request.answer, hcontains, hread, hutf8, Bool.false_eq_true, if_false]

end CommandLine

open CommandLine

/-- The command prints the first diagnostics of the whole report, as many as the limit allows. Its
exit status tells whether the whole report has an error exactly if the limit is not zero or there is
no error. -/
theorem exit_status_exact {tree : SourceTree} {arguments : List Text} {source : Text}
    {limit : Int} {bytes : ByteArray} {content : String}
    (hrequest : Request.ofArguments Report.defaultLimit arguments = .ok ⟨source, some limit⟩)
    (hpath : '\x00' ∉ source) (hread : tree.read source = .ok bytes)
    (hutf8 : String.fromUTF8? bytes = some content) :
    let whole :=
      Report.ofText (some (String.ofList source)) (-1) (uniformNewlines content.toList)
    ∃ outcome, run tree arguments = .ok outcome ∧
      outcome.errors = String.join
        ((Report.cut limit whole.diagnostics).map fun d => d.render ++ "\n") ∧
      (outcome.TellsErrors whole ↔
        limit ≠ 0 ∨ ∀ d ∈ whole.diagnostics, d.severity ≠ .error) := by
  intro whole
  refine ⟨_, run_of_readable hrequest hpath hread hutf8, ?_, ?_⟩
  · exact Outcome.errors_ofReport _
  · exact checkSource_tellsErrors_iff source limit content.toList

/-- Of two errors one is shown, and the status is that of an error. -/
theorem exit_status_exact_first_of_two :
    let content := ".code\n?\nnop 1\n"
    let tree : SourceTree := ⟨[([['a']], content.toUTF8)], []⟩
    let arguments := ["--max=1".toList, "a".toList]
    let whole := Report.ofText (some (String.ofList ['a'])) (-1) (uniformNewlines content.toList)
    Request.ofArguments Report.defaultLimit arguments = .ok ⟨['a'], some 1⟩ ∧
      whole.diagnostics.length = 2 ∧
      ∃ outcome, run tree arguments = .ok outcome ∧ outcome.exit = 1 ∧ outcome.output = "" := by
  intro content tree arguments whole
  have hrequest : Request.ofArguments Report.defaultLimit arguments = .ok ⟨['a'], some 1⟩ := by
    decide +kernel
  have hread : tree.read ['a'] = .ok content.toUTF8 := by decide +kernel
  have hutf8 : String.fromUTF8? content.toUTF8 = some content := by decide +kernel
  have hlength : whole.diagnostics.length = 2 := (List.length_mergeSort _).trans (by decide +kernel)
  have herror : whole.hasError = true := by
    apply (Report.hasError_iff_ne_nil _ _ _).mpr
    apply List.ne_nil_of_length_pos
    rw [hlength]
    exact Nat.two_pos
  obtain ⟨outcome, hrun, _, htells⟩ := exit_status_exact hrequest (by decide) hread hutf8
  have htold := htells.mpr (Or.inl (by decide))
  have hexit : outcome.exit = 1 := htold.failure.mpr ((Report.hasError_eq_true_iff whole).mp herror)
  have houtput := htold.output
  rw [hexit, if_neg (by decide)] at houtput
  exact ⟨hrequest, hlength, outcome, hrun, hexit, houtput⟩

/-- With the limit zero a source with an error passes as a good one. -/
theorem exit_status_hidden_error :
    let content := ".code\n?"
    let tree : SourceTree := ⟨[([['a']], content.toUTF8)], []⟩
    let arguments := ["a".toList, "--max-problems".toList, "0".toList]
    let whole := Report.ofText (some "a") (-1) content.toList
    (∃ d ∈ whole.diagnostics, d.severity = .error) ∧
      run tree arguments = .ok ⟨0, summary whole.resolution, ""⟩ := by
  intro content tree arguments whole
  exact ⟨by decide +kernel, by decide +kernel⟩

end AsmCheck
