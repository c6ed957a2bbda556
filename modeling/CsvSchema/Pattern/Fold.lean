import CsvSchema.Pattern.CharSet
import CsvSchema.Pattern.FoldTable

/-!
# Character sets without regard to letter case

Folding adds the counterparts of the characters of a set.  Since a counterpart's counterparts are
among them already, one pass is enough.  Folding a negated set is not negating a folded one, so it
matters that sets are folded first.
-/

namespace CsvSchema.Pattern.CharSet

/-- The counterparts on one run of the characters of a range. -/
def foldRange (run : Text.CaseRun) (range : CharRange) : CharSet :=
  match common? range ⟨run.first, run.last⟩ with
  | none => []
  | some part =>
      let skip := (part.first - run.first + run.step - 1) / run.step
      let stop := (part.last - run.first) / run.step + 1
      if run.step = 1 then [⟨run.target + skip, run.target + stop - 1⟩]
      else (List.range (stop - skip)).map fun i =>
        ⟨run.target + (skip + i) * run.step, run.target + (skip + i) * run.step⟩

/-- The characters of a set and their counterparts. -/
def fold (set : CharSet) : CharSet :=
  normal (set ++ foldRuns.flatMap fun run => set.flatMap (foldRange run))

/-- The other case of the ASCII letters of a range. -/
def foldAsciiRange (range : CharRange) : CharSet :=
  foldRange ⟨0x41, 0x5A, 1, 0x61⟩ range ++ foldRange ⟨0x61, 0x7A, 1, 0x41⟩ range

/-- The characters of a set and the other case of its ASCII letters. -/
def foldAscii (set : CharSet) : CharSet := normal (set ++ set.flatMap foldAsciiRange)

end CsvSchema.Pattern.CharSet
