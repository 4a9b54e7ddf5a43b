import SelectorPreview.CommandLine
/-!
# Operands behind `--`

What stands before `--` is read without a look at what follows, and the argument behind it is an
operand, whatever its text is. So two command lines that differ in this operand only are read alike.
The short form `-nf` is spelled out before anything is read, in this place as well, so that an
operand of this text is read as another one.

* `arguments_append` : the reader goes through the arguments before `--` first;
* `parse_operand` : what is read does not depend on the operand behind `--`, the style sheet apart;
* `operand_kept_iff` : which operands are still the same after `-nf` has been spelled out.
-/

namespace SelectorPreview.CommandLine

/-! ## Readings with another style sheet -/

namespace Reading

/-- A reading with the style sheet put in. -/
def withSheet (r : Reading) (sheet : String) : Reading := { r with sheet := some sheet }

/-- The output file is taken in whatever the style sheet is. -/
theorem setOutput_withSheet (r : Reading) (sheet path : String) :
    (r.withSheet sheet).setOutput path = (r.setOutput path).map (·.withSheet sheet) := by
  have houtput : (r.withSheet sheet).output = r.output := rfl
  rw [setOutput, setOutput, houtput]
  split
  · rfl
  · split <;> rfl

/-- Finishing an option has nothing to do with the style sheet. -/
theorem settle_withSheet (r : Reading) (sheet : String) :
    (r.withSheet sheet).settle = r.settle.map (·.withSheet sheet) := by
  have hpending : (r.withSheet sheet).pending = r.pending := rfl
  rw [settle, settle, hpending]
  split
  · rfl
  · rfl
  · exact setOutput_withSheet r sheet _

/-- Whether an operand can be taken does not depend on its text. -/
theorem addOperand_eq_map (r : Reading) (operand other : String) :
    r.addOperand operand = (r.addOperand other).map (·.withSheet operand) := by
  unfold addOperand
  split
  · rfl
  · cases r.settle <;> rfl

/-- What the arguments ask for, once all of them have been read. -/
def finish (r : Reading) : Except UsageError Arguments := do
  let r ← r.settle
  match r.sheet with
  | none => .error .missingOperand
  | some sheet =>
    .ok { sheet := sheet, output := r.output, verbose := r.verbose, noFrames := r.noFrames }

/-- A style sheet that is put in is the one that is asked for. -/
theorem finish_withSheet (r : Reading) (sheet other : String) :
    (r.withSheet sheet).finish =
      (r.withSheet other).finish.map fun a => { a with sheet := sheet } := by
  rw [finish, finish, settle_withSheet, settle_withSheet]
  cases r.settle <;> rfl

/-! ## Reading up to the operand -/

/-- **Arguments without `--` are read first,** and what follows from where they have led to. -/
theorem arguments_append (r : Reading) {first : List String} (h : "--" ∉ first)
    (rest : List String) :
    arguments r false (first ++ rest) =
      (arguments r false first).bind fun r => arguments r false rest := by
  induction first generalizing r with
  | nil => rfl
  | cons text first ih =>
    rw [List.mem_cons, not_or] at h
    obtain ⟨htext, hfirst⟩ := h
    -- One argument is one step of the loop, whether others follow or not.
    have hread : ∀ l, arguments r false (text :: l) =
        (r.argument text).bind fun r => arguments r false l := by
      intro l
      rw [arguments, if_neg Bool.false_ne_true, if_neg (by simpa using Ne.symm htext)]
      rfl
    rw [List.cons_append, hread, hread]
    cases r.argument text with
    | error e => rfl
    | ok r => exact ih r hfirst

/-- The argument behind `--` is an operand. -/
theorem arguments_operand (r : Reading) (operand : String) :
    arguments r false ["--", operand] = r.addOperand operand := by
  have hdashes : arguments r false ["--", operand] = arguments r true [operand] := rfl
  rw [hdashes, arguments, if_pos rfl]
  cases r.addOperand operand <;> rfl

end Reading

/-- Arguments are read one after another, and then it is seen what they ask for. -/
theorem parse_eq_bind (arguments : List String) :
    parse arguments = (Reading.arguments {} false (arguments.drop 1)).bind Reading.finish := rfl

section Operand

variable {first : List String} (hfirst : "--" ∉ first)

include hfirst

/-- **The operand behind `--` decides on the style sheet and on nothing else,** not even on whether
the arguments can be read. -/
theorem parse_operand (program operand other : String) :
    parse (program :: (first ++ ["--", operand])) =
      (parse (program :: (first ++ ["--", other]))).map fun a => { a with sheet := operand } := by
  simp only [parse_eq_bind, List.drop_succ_cons, List.drop_zero,
    Reading.arguments_append {} hfirst, Reading.arguments_operand]
  cases Reading.arguments {} false first with
  | error e => rfl
  | ok r =>
    show (r.addOperand operand).bind Reading.finish =
      ((r.addOperand other).bind Reading.finish).map _
    rw [r.addOperand_eq_map operand other]
    cases hother : r.addOperand other with
    | error e => rfl
    | ok taken =>
      -- The other operand has been put into the reading, so it can be told as the one taken.
      have htaken : taken = taken.withSheet other := by
        have hsame := r.addOperand_eq_map other other
        rw [hother] at hsame
        exact Except.ok.inj hsame
      have hfinish := taken.finish_withSheet operand other
      rwa [← htaken] at hfinish

/-- Arguments that can be read ask for the operand behind `--`. -/
theorem sheet_of_parse_operand {program operand : String} {a : Arguments}
    (h : parse (program :: (first ++ ["--", operand])) = .ok a) : a.sheet = operand := by
  have hsame := parse_operand hfirst program operand operand
  rw [h] at hsame
  exact congrArg Arguments.sheet (Except.ok.inj hsame)

end Operand

/-! ## Spelling out -/

/-- An argument after `-nf` has been spelled out. -/
def spelledOut (argument : String) : String := if argument == "-nf" then "--no-frames" else argument

/-- The program spells out one argument after another. -/
theorem expand_eq_map (arguments : List String) : expand arguments = arguments.map spelledOut := rfl

/-- An argument stays as it is exactly if it is not the short form. -/
theorem spelledOut_eq_self_iff {argument : String} :
    spelledOut argument = argument ↔ argument ≠ "-nf" := by
  unfold spelledOut
  split
  · rename_i h
    obtain rfl : argument = "-nf" := by simpa using h
    decide
  · rename_i h
    simpa using h

/-- Spelling out makes no `--`. -/
theorem dashes_not_mem_expand {arguments : List String} (h : "--" ∉ arguments) :
    "--" ∉ expand arguments := by
  rw [expand_eq_map, List.mem_map]
  rintro ⟨argument, hargument, hdashes⟩
  unfold spelledOut at hdashes
  split at hdashes
  · exact absurd hdashes (by decide)
  · exact h (hdashes ▸ hargument)

/-- **Which operands behind `--` are kept.** Where a command line with an operand behind `--` can be
read, so can the one with any other operand there, and it asks for the same apart from the style
sheet. The style sheet is the operand after `-nf` has been spelled out, which is the operand itself
exactly if it is not `-nf`. -/
theorem operand_kept_iff (program : String) (first : List String) (hfirst : "--" ∉ first)
    (operand other : String) (a : Arguments)
    (hread : parse (expand (program :: (first ++ ["--", other]))) = .ok a) :
    a.sheet = spelledOut other ∧
    parse (expand (program :: (first ++ ["--", operand]))) =
      .ok { a with sheet := spelledOut operand } ∧
    (parse (expand (program :: (first ++ ["--", operand]))) = .ok { a with sheet := operand } ↔
      operand ≠ "-nf") := by
  have hexpand : ∀ text, expand (program :: (first ++ ["--", text])) =
      spelledOut program :: (expand first ++ ["--", spelledOut text]) := by
    intro text
    rw [expand_eq_map, expand_eq_map, List.map_cons, List.map_append]
    rfl
  -- Spelling out neither makes nor removes a `--`, so the operand is still the one behind it.
  have hdashes := dashes_not_mem_expand hfirst
  rw [hexpand] at hread
  have hparse : parse (expand (program :: (first ++ ["--", operand]))) =
      .ok { a with sheet := spelledOut operand } := by
    rw [hexpand, parse_operand hdashes _ _ (spelledOut other), hread]
    rfl
  refine ⟨sheet_of_parse_operand hdashes hread, hparse, ?_⟩
  rw [hparse, ← spelledOut_eq_self_iff]
  constructor
  · intro h
    exact congrArg Arguments.sheet (Except.ok.inj h)
  · intro h
    rw [h]

/-- Behind `--` the text of another option names a style sheet, and the short form does not. -/
theorem operand_kept_verbose :
    parse (expand ["csspreview", "-nf", "-o", "out.html", "--", "-v"]) =
        .ok { sheet := "-v", output := some "out.html", noFrames := true } ∧
      parse (expand ["csspreview", "-nf", "-o", "out.html", "--", "-nf"]) =
        .ok { sheet := "--no-frames", output := some "out.html", noFrames := true } := by
  have hkept := fun operand => operand_kept_iff "csspreview" ["-nf", "-o", "out.html"] (by decide)
    operand "a.css" { sheet := "a.css", output := some "out.html", noFrames := true } rfl
  exact ⟨(hkept "-v").2.2.2 (by decide), (hkept "-nf").2.1⟩

/-- Spelling out does not always leave the operand behind `--` as it is. -/
theorem operand_not_always_kept :
    ¬ ∀ (program : String) (first : List String), "--" ∉ first →
      ∀ (operand other : String) (a : Arguments),
        parse (expand (program :: (first ++ ["--", other]))) = .ok a → a.sheet = other →
        parse (expand (program :: (first ++ ["--", operand]))) =
          .ok { a with sheet := operand } := by
  intro h
  have hkept := h "csspreview" [] (by decide) "-nf" "a.css" { sheet := "a.css" } rfl rfl
  have hread : parse (expand ["csspreview", "--", "-nf"]) = .ok { sheet := "--no-frames" } := rfl
  have hsheet := congrArg Arguments.sheet (Except.ok.inj (hread.symm.trans hkept))
  exact absurd hsheet (by decide)

end SelectorPreview.CommandLine
